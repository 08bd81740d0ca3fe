import ShaderDepot.Uniform.Binary

/-!
# Uniform values

The values that a program's uniforms take: scalars and vectors of single-precision, integer and
double-precision components, and square single-precision matrices, column by column.
-/

namespace ShaderDepot

inductive Width
  | one
  | two
  | three
  | four
  deriving DecidableEq, Repr, Inhabited

def Width.size : Width → Nat
  | .one => 1
  | .two => 2
  | .three => 3
  | .four => 4

inductive Side
  | two
  | three
  | four
  deriving DecidableEq, Repr, Inhabited

def Side.size : Side → Nat
  | .two => 2
  | .three => 3
  | .four => 4

inductive UniformValue
  | float (width : Width) (components : Vector Binary32 width.size)
  | int (width : Width) (components : Vector Int32 width.size)
  | double (width : Width) (components : Vector Binary64 width.size)
  /-- A square matrix, its columns one after the other. -/
  | mat (side : Side) (components : Vector Binary32 (side.size * side.size))
  deriving DecidableEq, Repr

namespace UniformValue

/-- The name of a scalar type, or of its vectors: a letter, `vec` and the number of components. -/
def widthName (scalar letter : String) : Width → String
  | .one => scalar
  | w => s!"{letter}vec{w.size}"

def typeName : UniformValue → String
  | float w _ => widthName "float" "" w
  | int w _ => widthName "int" "i" w
  | double w _ => widthName "double" "d" w
  | mat s _ => s!"mat{s.size}"

/-- Lists of one length whose members agree in turn. -/
def agree {α : Type} (same : α → α → Bool) : List α → List α → Bool
  | [], [] => true
  | x :: xs, y :: ys => same x y && agree same xs ys
  | _, _ => false

/-- Values are equal when they have one type and equal components, as numbers. -/
def equal : UniformValue → UniformValue → Bool
  | float _ x, float _ y => agree Binary32.equal x.toList y.toList
  | int _ x, int _ y => agree (· == ·) x.toList y.toList
  | double _ x, double _ y => agree Binary64.equal x.toList y.toList
  | mat _ x, mat _ y => agree Binary32.equal x.toList y.toList
  | _, _ => false

theorem agree_comm {α : Type} {same : α → α → Bool} (h : ∀ x y, same x y = same y x)
    (xs ys : List α) : agree same xs ys = agree same ys xs := by
  induction xs generalizing ys with
  | nil => cases ys <;> rfl
  | cons x xs ih => cases ys with
    | nil => rfl
    | cons y ys => simp only [agree, h x y, ih ys]

theorem equal_comm (u v : UniformValue) : u.equal v = v.equal u := by
  cases u <;> cases v <;> first
    | rfl
    | exact agree_comm Binary32.equal_comm ..
    | exact agree_comm Binary64.equal_comm ..
    | exact agree_comm (fun _ _ => BEq.comm) ..

end UniformValue

end ShaderDepot
