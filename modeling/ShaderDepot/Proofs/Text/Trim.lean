import ShaderDepot.Text.Blank

/-!
# What trimming leaves

Trimming takes blanks from both ends of a text and leaves a text without blank ends, and there is only
one way to do so (`exists_trim`, `trim_append`).
-/

namespace ShaderDepot.Text

variable {s before middle after : List Char}

def Blank (s : List Char) : Prop := ∀ c ∈ s, isBlank c = true

theorem blank_nil : Blank [] := List.forall_mem_nil _

theorem Blank.not_mem {c : Char} (h : Blank s) (hc : isBlank c = false) : c ∉ s := by
  intro hmem
  rw [h c hmem] at hc
  cases hc

/-- Neither end of the text is a blank. -/
structure Tight (s : List Char) : Prop where
  head : ∀ c, s.head? = some c → isBlank c = false
  last : ∀ c, s.getLast? = some c → isBlank c = false

theorem trimStart_append (h : Blank before) (s : List Char) :
    trimStart (before ++ s) = trimStart s := List.dropWhile_append_of_pos h

theorem trimStart_eq_self (h : ∀ c, s.head? = some c → isBlank c = false) : trimStart s = s := by
  cases s with
  | nil => rfl
  | cons c s =>
    rw [trimStart, List.dropWhile_cons_of_neg]
    rw [h c rfl]
    exact Bool.false_ne_true

theorem trimStart_eq_nil (h : Blank s) : trimStart s = [] := by
  rw [← List.append_nil s, trimStart_append h, trimStart_nil]

theorem trimEnd_eq (s : List Char) : trimEnd s = (trimStart s.reverse).reverse := rfl

theorem trimEnd_append (s : List Char) (h : Blank after) : trimEnd (s ++ after) = trimEnd s := by
  rw [trimEnd_eq, List.reverse_append, trimStart_append, trimEnd_eq]
  exact fun c hc => h c (List.mem_reverse.mp hc)

theorem trimEnd_eq_self (h : ∀ c, s.getLast? = some c → isBlank c = false) : trimEnd s = s := by
  rw [trimEnd_eq, trimStart_eq_self, List.reverse_reverse]
  rwa [List.head?_reverse]

/-- A text without blank ends is what trimming leaves of it between blanks. -/
theorem trim_append (hb : Blank before) (h : Tight middle) (ha : Blank after) :
    trim (before ++ middle ++ after) = middle := by
  rw [trim, List.append_assoc, trimStart_append hb]
  by_cases hm : middle = []
  · rw [hm, List.nil_append, trimStart_eq_nil ha]
    rfl
  · rw [trimStart_eq_self, trimEnd_append _ ha, trimEnd_eq_self h.last]
    obtain ⟨c, rest, rfl⟩ := List.exists_cons_of_ne_nil hm
    exact h.head

theorem trim_eq_self (h : Tight s) : trim s = s := by
  have hmiddle := trim_append blank_nil h blank_nil
  rwa [List.nil_append, List.append_nil] at hmiddle

theorem tight_of_forall (h : ∀ c ∈ s, isBlank c = false) : Tight s where
  head c hc := h c (List.mem_of_mem_head? hc)
  last c hc := h c (List.mem_of_getLast? hc)

theorem blank_takeWhile (s : List Char) : Blank (s.takeWhile isBlank) :=
  List.all_eq_true.mp List.all_takeWhile

theorem takeWhile_append_trimStart (s : List Char) : s.takeWhile isBlank ++ trimStart s = s :=
  List.takeWhile_append_dropWhile

theorem exists_trim (s : List Char) :
    ∃ before after, Blank before ∧ Blank after ∧ s = before ++ trim s ++ after := by
  have hend : trim s ++ ((trimStart s).reverse.takeWhile isBlank).reverse = trimStart s := by
    rw [trim, trimEnd_eq, ← List.reverse_append, takeWhile_append_trimStart, List.reverse_reverse]
  refine ⟨s.takeWhile isBlank, ((trimStart s).reverse.takeWhile isBlank).reverse, blank_takeWhile s,
    fun c hc => blank_takeWhile _ c (List.mem_reverse.mp hc), ?_⟩
  rw [List.append_assoc, hend, takeWhile_append_trimStart]

theorem not_isBlank_head_trimStart (s : List Char) (c : Char) (h : (trimStart s).head? = some c) :
    isBlank c = false := by
  obtain ⟨rest, hrest⟩ := List.head?_eq_some_iff.mp h
  exact not_isBlank_of_trimStart hrest

theorem trim_sublist (s : List Char) : (trim s).Sublist s := by
  have hend : (trim s).Sublist (trimStart s) := by
    rw [← List.reverse_sublist, trim, trimEnd, List.reverse_reverse]
    exact List.dropWhile_sublist _
  exact hend.trans (List.dropWhile_sublist _)

/-- Nothing is left of blanks, and of nothing else. -/
theorem trim_eq_nil_iff : trim s = [] ↔ Blank s := by
  constructor
  · intro h
    obtain ⟨before, after, hb, ha, hs⟩ := exists_trim s
    rw [hs, h, List.append_nil]
    exact List.forall_mem_append.mpr ⟨hb, ha⟩
  · intro h
    rw [trim, trimStart_eq_nil h, trimEnd_nil]

theorem tight_trim (s : List Char) : Tight (trim s) where
  head c h := by
    -- What is left is the beginning of what trimming the start leaves.
    apply not_isBlank_head_trimStart s c
    have hprefix : trim s <+: trimStart s := by
      rw [trim, trimEnd_eq, ← List.reverse_suffix, List.reverse_reverse]
      exact List.dropWhile_suffix _
    obtain ⟨rest, hrest⟩ := hprefix
    rw [← hrest, List.head?_append, h]
    rfl
  last c h := by
    rw [trim, trimEnd_eq, List.getLast?_reverse] at h
    exact not_isBlank_head_trimStart _ c h

end ShaderDepot.Text
