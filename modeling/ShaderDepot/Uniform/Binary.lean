/-!
# Binary floating-point numbers as bits

A uniform's floating-point components travel as their IEEE 754 bit patterns and are never rounded.
The one operation on them is the comparison of the standard: a NaN differs from everything, itself
included, and the two zeros are equal.
-/

namespace ShaderDepot

/-- A single-precision number: sign bit, eight exponent bits, twenty-three fraction bits. -/
structure Binary32 where
  bits : UInt32
  deriving DecidableEq, Repr, Inhabited

/-- A double-precision number: sign bit, eleven exponent bits, fifty-two fraction bits. -/
structure Binary64 where
  bits : UInt64
  deriving DecidableEq, Repr, Inhabited

namespace Binary32

def magnitude (x : Binary32) : Nat := x.bits.toNat % Nat.pow 2 31

/-- All exponent bits are set and the fraction is not zero. -/
def isNaN (x : Binary32) : Bool := 0x7F800000 < x.magnitude

/-- Equality of numbers, not of patterns. -/
def equal (x y : Binary32) : Bool :=
  !x.isNaN && !y.isNaN && (x == y || (x.magnitude == 0 && y.magnitude == 0))

theorem equal_self (x : Binary32) : x.equal x = !x.isNaN := by simp [equal]

theorem equal_comm (x y : Binary32) : x.equal y = y.equal x := by
  simp only [equal, BEq.comm (a := x), Bool.and_comm (x.magnitude == 0), Bool.and_comm (!x.isNaN)]

end Binary32

namespace Binary64

def magnitude (x : Binary64) : Nat := x.bits.toNat % Nat.pow 2 63

/-- All exponent bits are set and the fraction is not zero. -/
def isNaN (x : Binary64) : Bool := 0x7FF0000000000000 < x.magnitude

/-- Equality of numbers, not of patterns. -/
def equal (x y : Binary64) : Bool :=
  !x.isNaN && !y.isNaN && (x == y || (x.magnitude == 0 && y.magnitude == 0))

theorem equal_self (x : Binary64) : x.equal x = !x.isNaN := by simp [equal]

theorem equal_comm (x y : Binary64) : x.equal y = y.equal x := by
  simp only [equal, BEq.comm (a := x), Bool.and_comm (x.magnitude == 0), Bool.and_comm (!x.isNaN)]

end Binary64

end ShaderDepot
