import Mathlib.Tactic.Common
import ShaderDepot.Uniform

/-!
# Uniform values that match

Equality of uniform values is that of numbers: it is no more than a partial equivalence, since a value
with a NaN in it equals nothing, itself included.  Two values match when they are one value or are equal;
a value with a NaN is matched by itself alone.
-/

namespace ShaderDepot

theorem Binary32.equal_trans {x y z : Binary32} (h : x.equal y = true) (h' : y.equal z = true) :
    x.equal z = true := by
  simp only [equal, Bool.and_eq_true, Bool.or_eq_true, beq_iff_eq] at h h' ⊢
  grind

theorem Binary64.equal_trans {x y z : Binary64} (h : x.equal y = true) (h' : y.equal z = true) :
    x.equal z = true := by
  simp only [equal, Bool.and_eq_true, Bool.or_eq_true, beq_iff_eq] at h h' ⊢
  grind

theorem beq_trans {α : Type} [BEq α] [LawfulBEq α] {x y z : α} (h : (x == y) = true)
    (h' : (y == z) = true) : (x == z) = true := by
  rw [beq_iff_eq] at h h' ⊢
  exact h.trans h'

namespace UniformValue

variable {u v w : UniformValue}

theorem agree_trans {α : Type} {same : α → α → Bool} {xs ys zs : List α}
    (hxy : agree same xs ys = true) (hyz : agree same ys zs = true)
    (h : ∀ x y z, same x y = true → same y z = true → same x z = true) :
    agree same xs zs = true := by
  induction xs generalizing ys zs with
  | nil =>
    cases ys with
    | nil => exact hyz
    | cons y ys => cases hxy
  | cons x xs ih =>
    cases ys with
    | nil => cases hxy
    | cons y ys =>
      cases zs with
      | nil => cases hyz
      | cons z zs =>
        rw [agree, Bool.and_eq_true] at hxy hyz ⊢
        exact ⟨h x y z hxy.1 hyz.1, ih hxy.2 hyz.2⟩

/-- Values of two types are never equal, so only values of one type are left to compare. -/
theorem equal_trans (h : u.equal v = true) (h' : v.equal w = true) : u.equal w = true := by
  cases u with
  | float a x =>
    cases v with
    | float b y =>
      cases w with
      | float c z =>
        simp only [equal] at h h' ⊢
        exact agree_trans h h' fun _ _ _ => Binary32.equal_trans
      | int | double | mat => nomatch h'
    | int | double | mat => nomatch h
  | int a x =>
    cases v with
    | int b y =>
      cases w with
      | int c z =>
        simp only [equal] at h h' ⊢
        exact agree_trans h h' fun _ _ _ => beq_trans
      | float | double | mat => nomatch h'
    | float | double | mat => nomatch h
  | double a x =>
    cases v with
    | double b y =>
      cases w with
      | double c z =>
        simp only [equal] at h h' ⊢
        exact agree_trans h h' fun _ _ _ => Binary64.equal_trans
      | float | int | mat => nomatch h'
    | float | int | mat => nomatch h
  | mat a x =>
    cases v with
    | mat b y =>
      cases w with
      | mat c z =>
        simp only [equal] at h h' ⊢
        exact agree_trans h h' fun _ _ _ => Binary32.equal_trans
      | float | int | double => nomatch h'
    | float | int | double => nomatch h

/-- The values are one, or equal as numbers. -/
def Matches (u v : UniformValue) : Prop := u = v ∨ u.equal v = true

theorem Matches.trans_equal (h : u.Matches v) (h' : v.equal w = true) : u.Matches w := by
  rcases h with rfl | h
  · exact .inr h'
  · exact .inr (equal_trans h h')

/-- Two values that match a third one match each other. -/
theorem Matches.join (h : u.Matches w) (h' : v.Matches w) : u.Matches v := by
  rcases h' with rfl | h'
  · exact h
  · exact h.trans_equal ((equal_comm w v).trans h')

end UniformValue

end ShaderDepot
