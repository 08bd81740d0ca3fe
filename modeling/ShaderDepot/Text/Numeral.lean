/-!
# Digits and unsigned numerals

A numeral is one or more ASCII digits, with an optional `+` in front, whose value is below a bound.
Reading goes from left to right and reports the first fault it meets.
-/

namespace ShaderDepot.Text

inductive NumeralError
  | empty
  | invalidDigit
  | tooLarge
  deriving DecidableEq, Repr

def NumeralError.message : NumeralError → String
  | .empty => "cannot parse integer from empty string"
  | .invalidDigit => "invalid digit found in string"
  | .tooLarge => "number too large to fit in target type"

def isDigit (c : Char) : Bool := '0' ≤ c && c ≤ '9'

def digitValue (c : Char) : Nat := c.toNat - '0'.toNat

def isHexDigit (c : Char) : Bool := isDigit c || ('a' ≤ c && c ≤ 'f') || ('A' ≤ c && c ≤ 'F')

def hexDigitValue (c : Char) : Nat :=
  if isDigit c then digitValue c else c.toLower.toNat - 'a'.toNat + 10

def digitsValue (base : Nat) (s : List Char) : Nat :=
  s.foldl (fun n c => base * n + hexDigitValue c) 0

def scalar? (n : Nat) : Option Char :=
  if n < 0xD800 ∨ (0xDFFF < n ∧ n < 0x110000) then some (Char.ofNat n) else none

/-- Reads the digits that follow a prefix of value `n`. -/
def readDigits (bound : Nat) : Nat → List Char → Except NumeralError Nat
  | n, [] => .ok n
  | n, c :: s =>
    if !isDigit c then .error .invalidDigit
    else if 10 * n + digitValue c < bound then readDigits bound (10 * n + digitValue c) s
    else .error .tooLarge

def readNumeral (bound : Nat) : List Char → Except NumeralError Nat
  | [] => .error .empty
  | ['+'] => .error .invalidDigit
  | '+' :: s => readDigits bound 0 s
  | s => readDigits bound 0 s

def numeral? (bound : Nat) (s : List Char) : Option Nat := (readNumeral bound s).toOption

end ShaderDepot.Text
