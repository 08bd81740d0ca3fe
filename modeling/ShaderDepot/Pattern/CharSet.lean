/-!
# Sets of characters

A set of characters is a list of ranges of code points, none of them empty; surrogates are no
characters.  `contains_union`, `contains_inter` and `contains_negate` say what the operations hold.
-/

namespace ShaderDepot.Pattern

structure CharSet where
  /-- Ranges by first and last code point. -/
  ranges : List (Nat × Nat)
  deriving DecidableEq, Repr

namespace CharSet

def contains (s : CharSet) (c : Char) : Bool :=
  s.ranges.any fun (first, last) => first ≤ c.toNat && c.toNat ≤ last

def empty : CharSet := ⟨[]⟩

def all : CharSet := ⟨[(0, 0xD7FF), (0xE000, 0x10FFFF)]⟩

def ofRange (first last : Char) : CharSet :=
  if first ≤ last then ⟨[(first.toNat, last.toNat)]⟩ else empty

def single (c : Char) : CharSet := ofRange c c

def ofList (cs : List Char) : CharSet := ⟨cs.flatMap fun c => (single c).ranges⟩

def union (a b : CharSet) : CharSet := ⟨a.ranges ++ b.ranges⟩

def common? (a b : Nat × Nat) : Option (Nat × Nat) :=
  if max a.1 b.1 ≤ min a.2 b.2 then some (max a.1 b.1, min a.2 b.2) else none

def inter (a b : CharSet) : CharSet :=
  ⟨a.ranges.flatMap fun x => b.ranges.filterMap (common? x)⟩

def cut (r x : Nat × Nat) : List (Nat × Nat) :=
  (if x.1 < r.1 then [(x.1, min x.2 (r.1 - 1))] else [])
    ++ if r.2 < x.2 then [(max x.1 (r.2 + 1), x.2)] else []

def without (s : CharSet) (r : Nat × Nat) : CharSet := ⟨s.ranges.flatMap (cut r)⟩

def negate (s : CharSet) : CharSet := s.ranges.foldl without all

def diff (a b : CharSet) : CharSet := a.inter b.negate

def symmDiff (a b : CharSet) : CharSet := (a.diff b).union (b.diff a)

def isEmpty (s : CharSet) : Bool := s.ranges.isEmpty

def isAscii (s : CharSet) : Bool := s.ranges.all (·.2 < 0x80)

/-- The ranges of a set within another range, moved by the distance of two letters. -/
def moved (s : CharSet) (first last image : Char) : CharSet :=
  ⟨((s.inter (ofRange first last)).ranges).map fun (low, high) =>
    (low - first.toNat + image.toNat, high - first.toNat + image.toNat)⟩

/-- A set with the other case of each of its ASCII letters. -/
def foldAscii (s : CharSet) : CharSet := s.union ((s.moved 'a' 'z' 'A').union (s.moved 'A' 'Z' 'a'))

/-- The only code point of a set that has just one range of one. -/
def single? (s : CharSet) : Option Nat :=
  match s.ranges with
  | [(first, last)] => if first = last then some first else none
  | _ => none

@[simp] theorem contains_empty (c : Char) : empty.contains c = false := rfl

@[simp] theorem contains_union (a b : CharSet) (c : Char) :
    (a.union b).contains c = (a.contains c || b.contains c) := by
  simp [contains, union]

theorem contains_eq_true_iff {s : CharSet} {c : Char} :
    s.contains c = true ↔ ∃ r ∈ s.ranges, r.1 ≤ c.toNat ∧ c.toNat ≤ r.2 := by
  simp [contains]

@[simp] theorem contains_inter (a b : CharSet) (c : Char) :
    (a.inter b).contains c = (a.contains c && b.contains c) := by
  rw [Bool.eq_iff_iff, Bool.and_eq_true]
  simp only [contains_eq_true_iff, inter, List.mem_flatMap, List.mem_filterMap, common?,
    Option.ite_none_right_eq_some, Option.some.injEq]
  constructor
  · rintro ⟨r, ⟨x, hx, y, hy, _, rfl⟩, h₁, h₂⟩
    exact ⟨⟨x, hx, by omega, by omega⟩, y, hy, by omega, by omega⟩
  · rintro ⟨⟨x, hx, h₁, h₂⟩, y, hy, h₃, h₄⟩
    exact ⟨_, ⟨x, hx, y, hy, by omega, rfl⟩, by simp only; omega, by simp only; omega⟩

theorem contains_without (s : CharSet) (r : Nat × Nat) (c : Char) :
    (s.without r).contains c = (s.contains c && !(r.1 ≤ c.toNat && c.toNat ≤ r.2)) := by
  rw [Bool.eq_iff_iff, Bool.and_eq_true]
  simp only [contains_eq_true_iff, without, List.mem_flatMap, cut, List.mem_append]
  constructor
  · rintro ⟨y, ⟨x, hx, h⟩, h₁, h₂⟩
    have : x.1 ≤ c.toNat ∧ c.toNat ≤ x.2 ∧ ¬(r.1 ≤ c.toNat ∧ c.toNat ≤ r.2) := by
      rcases h with h | h <;> split at h
      · cases List.mem_singleton.1 h
        simp only at h₁ h₂
        omega
      · cases h
      · cases List.mem_singleton.1 h
        simp only at h₁ h₂
        omega
      · cases h
    refine ⟨⟨x, hx, this.1, this.2.1⟩, ?_⟩
    simp only [Bool.not_eq_true', Bool.and_eq_false_iff, decide_eq_false_iff_not]
    omega
  · rintro ⟨⟨x, hx, h₁, h₂⟩, h⟩
    simp only [Bool.not_eq_true', Bool.and_eq_false_iff, decide_eq_false_iff_not] at h
    by_cases hr : c.toNat < r.1
    · exact ⟨(x.1, min x.2 (r.1 - 1)), ⟨x, hx, .inl (by rw [if_pos (by omega)]; simp)⟩,
        h₁, by simp only; omega⟩
    · exact ⟨(max x.1 (r.2 + 1), x.2), ⟨x, hx, .inr (by rw [if_pos (by omega)]; simp)⟩,
        by simp only; omega, h₂⟩

theorem contains_all (c : Char) : all.contains c = true := by
  have h : c.toNat < 0xD800 ∨ (0xDFFF < c.toNat ∧ c.toNat < 0x110000) := c.valid
  simp only [contains, all, List.any_cons, List.any_nil, Bool.or_false, Bool.or_eq_true,
    Bool.and_eq_true, decide_eq_true_eq]
  omega

theorem contains_foldl_without (rs : List (Nat × Nat)) (s : CharSet) (c : Char) :
    (rs.foldl without s).contains c = (s.contains c && !(CharSet.mk rs).contains c) := by
  induction rs generalizing s with
  | nil => simp [contains]
  | cons r rs ih =>
    rw [List.foldl_cons, ih, contains_without]
    simp only [contains, List.any_cons, Bool.not_or, Bool.and_assoc]

@[simp] theorem contains_negate (s : CharSet) (c : Char) :
    s.negate.contains c = !s.contains c := by
  simp [negate, contains_foldl_without, contains_all]

end CharSet

end ShaderDepot.Pattern
