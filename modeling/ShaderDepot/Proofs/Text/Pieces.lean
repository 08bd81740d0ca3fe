import Mathlib.Data.List.TakeWhile
import Mathlib.Tactic.Common
import ShaderDepot.Text.Lines

/-!
# Pieces of a text

A text that is cut at a character and joined again is the text it was, and pieces without the character
that are joined and cut again are the pieces they were.
-/

namespace ShaderDepot.Text

variable {s t : List Char} {p : List Char} {sep c : Char} {pieces : List (List Char)}

theorem splitOn_cons (sep c : Char) (s : List Char) :
    (c :: s).splitOn sep =
      if c = sep then [] :: s.splitOn sep else (s.splitOn sep).modifyHead (List.cons c) := by
  simp only [List.splitOn_eq_splitOnP, List.splitOnP_cons_eq_if_modifyHead, beq_iff_eq]

theorem splitOn_ne_nil (sep : Char) (s : List Char) : s.splitOn sep ≠ [] := by
  rw [List.splitOn_eq_splitOnP]
  exact List.splitOnP_ne_nil _ s

theorem splitOn_append_cons (s t : List Char) :
    (s ++ sep :: t).splitOn sep = s.splitOn sep ++ t.splitOn sep := by
  simp only [List.splitOn_eq_splitOnP]
  exact List.splitOnP_append_cons s t (beq_self_eq_true sep)

/-- What stands in a piece stands in the text, and is not what the text was cut at. -/
theorem mem_of_mem_splitOn (hp : p ∈ s.splitOn sep) (hc : c ∈ p) : c ∈ s ∧ c ≠ sep := by
  induction s generalizing p with
  | nil =>
    rw [List.splitOn_eq_splitOnP, List.splitOnP_nil, List.mem_singleton] at hp
    rw [hp] at hc
    cases hc
  | cons a s ih =>
    rw [splitOn_cons] at hp
    split at hp
    · rcases List.mem_cons.mp hp with rfl | hp
      · cases hc
      · exact ⟨List.mem_cons_of_mem _ (ih hp hc).1, (ih hp hc).2⟩
    · next hne =>
      -- The character begins the first piece of the rest.
      obtain ⟨first, more, hs⟩ := List.exists_cons_of_ne_nil (splitOn_ne_nil sep s)
      rw [hs, List.modifyHead_cons] at hp
      rw [hs] at ih
      rcases List.mem_cons.mp hp with rfl | hp
      · rcases List.mem_cons.mp hc with rfl | hc
        · exact ⟨List.mem_cons_self .., hne⟩
        · have hmem := ih (List.mem_cons_self ..) hc
          exact ⟨List.mem_cons_of_mem _ hmem.1, hmem.2⟩
      · have hmem := ih (List.mem_cons_of_mem _ hp) hc
        exact ⟨List.mem_cons_of_mem _ hmem.1, hmem.2⟩

theorem not_mem_of_mem_splitOn (hp : p ∈ s.splitOn sep) : sep ∉ p :=
  fun hc => (mem_of_mem_splitOn hp hc).2 rfl

theorem joinWith_cons (sep : Char) (p : List Char) (hne : pieces ≠ []) :
    joinWith sep (p :: pieces) = p ++ sep :: joinWith sep pieces := by
  obtain ⟨first, more, rfl⟩ := List.exists_cons_of_ne_nil hne
  rw [joinWith, List.intercalate_cons_cons]
  simp only [List.append_assoc, List.cons_append, List.nil_append]
  rfl

theorem head?_joinWith (sep : Char) (hp : p ≠ []) (pieces : List (List Char)) :
    (joinWith sep (p :: pieces)).head? = p.head? := by
  by_cases hlast : pieces = []
  · rw [hlast, joinWith, List.intercalate_singleton]
  · obtain ⟨c, rest, rfl⟩ := List.exists_cons_of_ne_nil hp
    rw [joinWith_cons sep _ hlast]
    rfl

theorem splitOn_joinWith (hne : pieces ≠ []) (hsep : ∀ p ∈ pieces, sep ∉ p) :
    (joinWith sep pieces).splitOn sep = pieces :=
  List.splitOn_intercalate sep hsep hne

/-! ## The first separator -/

/-- A text has no separator or a first one. -/
theorem not_mem_or_cut (sep : Char) (s : List Char) : sep ∉ s ∨ ∃ p t, s = p ++ sep :: t ∧ sep ∉ p := by
  by_cases h : sep ∈ s
  · exact .inr (List.eq_append_cons_of_mem h)
  · exact .inl h

theorem ne_of_not_mem (h : sep ∉ p) : ∀ c ∈ p, decide (c ≠ sep) = true := by
  refine fun c hc => decide_eq_true ?_
  rintro rfl
  exact h hc

theorem takeWhile_of_not_mem (h : sep ∉ s) : s.takeWhile (· ≠ sep) = s :=
  List.takeWhile_eq_self_iff.mpr (ne_of_not_mem h)

theorem dropWhile_of_not_mem (h : sep ∉ s) : s.dropWhile (· ≠ sep) = [] :=
  List.dropWhile_eq_nil_iff.mpr (ne_of_not_mem h)

theorem takeWhile_cut (h : sep ∉ p) (s : List Char) : (p ++ sep :: s).takeWhile (· ≠ sep) = p := by
  rw [List.takeWhile_append_of_pos (ne_of_not_mem h), List.takeWhile_cons_of_neg (by simp),
    List.append_nil]

theorem dropWhile_cut (h : sep ∉ p) (s : List Char) :
    (p ++ sep :: s).dropWhile (· ≠ sep) = sep :: s := by
  rw [List.dropWhile_append_of_pos (ne_of_not_mem h), List.dropWhile_cons_of_neg (by simp)]

theorem takeWhile_append_of_head? {rest : List Char} (h : sep ∉ p)
    (hrest : ∀ c, rest.head? = some c → c = sep) : (p ++ rest).takeWhile (· ≠ sep) = p := by
  cases rest with
  | nil => rw [List.append_nil, takeWhile_of_not_mem h]
  | cons c rest =>
    obtain rfl := hrest c rfl
    exact takeWhile_cut h rest

theorem splitOn_cut (h : sep ∉ p) (s : List Char) :
    (p ++ sep :: s).splitOn sep = p :: s.splitOn sep := by
  rw [splitOn_append_cons, List.splitOn_eq_singleton h, List.singleton_append]

/-- The first piece goes up to the first separator. -/
theorem exists_splitOn_eq (sep : Char) (s : List Char) :
    ∃ more, s.splitOn sep = s.takeWhile (· ≠ sep) :: more := by
  rcases not_mem_or_cut sep s with h | ⟨p, t, rfl, h⟩
  · exact ⟨[], by rw [takeWhile_of_not_mem h, List.splitOn_eq_singleton h]⟩
  · exact ⟨t.splitOn sep, by rw [takeWhile_cut h, splitOn_cut h]⟩

/-- What follows the first piece is nothing or begins with the separator. -/
theorem exists_takeWhile_append (sep : Char) (s : List Char) :
    ∃ rest, s = s.takeWhile (· ≠ sep) ++ rest ∧ ∀ c, rest.head? = some c → c = sep := by
  rcases not_mem_or_cut sep s with h | ⟨p, t, rfl, h⟩
  · exact ⟨[], by rw [takeWhile_of_not_mem h, List.append_nil], fun c hc => nomatch hc⟩
  · exact ⟨sep :: t, by rw [takeWhile_cut h], fun c hc => (Option.some.inj hc).symm⟩

/-! ## Lengths -/

theorem length_splitOn (sep : Char) (s : List Char) :
    (s.splitOn sep).length = s.count sep + 1 := by
  induction s with
  | nil => rw [List.splitOn_nil, List.count_nil, List.length_singleton]
  | cons c s ih =>
    rw [splitOn_cons]
    split
    · next h => rw [h, List.length_cons, ih, List.count_cons_self]
    · next h => rw [List.length_modifyHead, ih, List.count_cons_of_ne h]

theorem length_flatMap_splitOn (sep : Char) (pieces : List (List Char)) :
    (pieces.flatMap (·.splitOn sep)).length = pieces.length + pieces.flatten.count sep := by
  induction pieces with
  | nil => rfl
  | cons p pieces ih =>
    rw [List.flatMap_cons, List.length_append, length_splitOn, ih, List.length_cons,
      List.flatten_cons, List.count_append]
    omega

/-- The length of pieces, each with what ends it. -/
def weight : List (List Char) → Nat
  | [] => 0
  | p :: pieces => p.length + 1 + weight pieces

@[simp] theorem weight_nil : weight [] = 0 := rfl

@[simp] theorem weight_cons (p : List Char) (pieces : List (List Char)) :
    weight (p :: pieces) = p.length + 1 + weight pieces := rfl

theorem weight_append (pieces pieces' : List (List Char)) :
    weight (pieces ++ pieces') = weight pieces + weight pieces' := by
  induction pieces with
  | nil => exact (Nat.zero_add _).symm
  | cons p pieces ih =>
    rw [List.cons_append, weight_cons, weight_cons, ih]
    omega

theorem weight_reverse (pieces : List (List Char)) : weight pieces.reverse = weight pieces := by
  induction pieces with
  | nil => rfl
  | cons p pieces ih =>
    rw [List.reverse_cons, weight_append, ih, weight_cons, weight_cons, weight_nil]
    omega

theorem length_joinWith (sep : Char) (hne : pieces ≠ []) :
    (joinWith sep pieces).length + 1 = weight pieces := by
  induction pieces with
  | nil => exact absurd rfl hne
  | cons p pieces ih =>
    by_cases hp : pieces = []
    · rw [hp, joinWith, List.intercalate_singleton]
      rfl
    · rw [joinWith_cons sep p hp, weight_cons, ← ih hp, List.length_append, List.length_cons]
      omega

theorem weight_splitOn (s : List Char) : weight (s.splitOn sep) = s.length + 1 := by
  rw [← length_joinWith sep (splitOn_ne_nil sep s), joinWith, List.intercalate_splitOn]

end ShaderDepot.Text
