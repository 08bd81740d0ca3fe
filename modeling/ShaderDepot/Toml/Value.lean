import ShaderDepot.Text.Numeral

/-!
# TOML values

The values of a TOML document, and the spellings of those that are written without quotes: booleans,
integers, floats, dates and times.
-/

namespace ShaderDepot.Toml

/-- How a table came about, which decides how it may be extended. -/
inductive TableKind
  /-- By standing in the path of a header. -/
  | implied
  /-- By standing in the path of a dotted key. -/
  | dotted
  /-- By a header of its own. -/
  | defined
  /-- In braces. -/
  | inline
  deriving DecidableEq, Repr

inductive Value
  | string (text : List Char)
  | integer (n : Int)
  | float (text : List Char)
  | boolean (b : Bool)
  | moment (text : List Char)
  | array (items : List Value)
  | table (kind : TableKind) (entries : List (List Char × Value))
  /-- Tables under one key, each with a header of its own. -/
  | tables (rows : List (List (List Char × Value)))
  deriving Repr

abbrev Entries := List (List Char × Value)

/-! ## Numbers -/

/-- Digits with single underscores between them. -/
def isDigits (isDigit : Char → Bool) (s : List Char) : Bool :=
  (s.splitOn '_').all fun group => !group.isEmpty && group.all isDigit

/-- The value of digits, underscores apart. -/
def digitsValue (base : Nat) (s : List Char) : Nat := Text.digitsValue base (s.filter (· ≠ '_'))

/-- Decimal digits without a zero in front, unless zero is meant. -/
def isDecimal (s : List Char) : Bool :=
  isDigits Text.isDigit s && (s.head? != some '0' || s.length == 1)

def takeSign : List Char → Bool × List Char
  | '+' :: s => (false, s)
  | '-' :: s => (true, s)
  | s => (false, s)

def integerValue? (s : List Char) : Option Int :=
  match s with
  | '0' :: 'x' :: s => if isDigits Text.isHexDigit s then some (digitsValue 16 s) else none
  | '0' :: 'o' :: s =>
    if isDigits (fun c => '0' ≤ c && c ≤ '7') s then some (digitsValue 8 s) else none
  | '0' :: 'b' :: s =>
    if isDigits (fun c => c == '0' || c == '1') s then some (digitsValue 2 s) else none
  | s =>
    let (negative, s) := takeSign s
    if isDecimal s then
      some (if negative then -(digitsValue 10 s : Int) else digitsValue 10 s)
    else none

/-- An integer has to fit a word of 128 bits, signed or unsigned. -/
def integer? (s : List Char) : Option Int :=
  (integerValue? s).filter fun n => -(Nat.pow 2 127 : Int) ≤ n && n < (Nat.pow 2 128 : Int)

/-- The least magnitude that rounds to infinity in double precision. -/
def infinite : Nat := Nat.pow 2 1024 - Nat.pow 2 970

/-- Whether `m * 10 ^ e` is below infinity. -/
def isFinite (m : Nat) (e : Int) : Bool :=
  let digits := (toString m).length
  if m = 0 ∨ digits + e < 300 then true
  else if 400 < digits + e then false
  else if 0 ≤ e then m * Nat.pow 10 e.toNat < infinite
  else m < infinite * Nat.pow 10 (-e).toNat

/-- The parts of a number before and after the first character of some kind. -/
def cutAt (isCut : Char → Bool) (s : List Char) : List Char × Option (List Char) :=
  (s.takeWhile (!isCut ·), (s.dropWhile (!isCut ·)).tail?)

/-- Whether a text spells a float that double precision can hold, or an infinity or a NaN. -/
def isFloat (s : List Char) : Bool :=
  let (_, s) := takeSign s
  if s = "inf".toList ∨ s = "nan".toList then true
  else
    let (mantissa, exponent) := cutAt (fun c => c == 'e' || c == 'E') s
    let (whole, fraction) := cutAt (· == '.') mantissa
    let (below, power) := takeSign (exponent.getD ['0'])
    (fraction.isSome || exponent.isSome) && isDecimal whole
      && isDigits Text.isDigit (fraction.getD ['0']) && isDigits Text.isDigit power
      && isFinite (digitsValue 10 (whole ++ fraction.getD []))
        ((if below then -(digitsValue 10 power : Int) else digitsValue 10 power)
          - ((fraction.getD []).filter (· ≠ '_')).length)

/-! ## Dates and times -/

def two? (most : Nat) (a b : Char) : Option Nat :=
  if Text.isDigit a && Text.isDigit b then
    let n := 10 * Text.digitValue a + Text.digitValue b
    if n ≤ most then some n else none
  else none

def isLeapYear (y : Nat) : Bool := y % 4 == 0 && (y % 100 != 0 || y % 400 == 0)

def daysIn (year month : Nat) : Nat :=
  match month with
  | 2 => if isLeapYear year then 29 else 28
  | 4 | 6 | 9 | 11 => 30
  | _ => 31

def afterDate? : List Char → Option (List Char)
  | y₁ :: y₂ :: y₃ :: y₄ :: '-' :: m₁ :: m₂ :: '-' :: d₁ :: d₂ :: rest => do
    let century ← two? 99 y₁ y₂
    let year ← two? 99 y₃ y₄
    let month ← two? 12 m₁ m₂
    let day ← two? (daysIn (100 * century + year) month) d₁ d₂
    if month = 0 ∨ day = 0 then none else some rest
  | _ => none

def afterFraction? : List Char → Option (List Char)
  | '.' :: c :: rest => if Text.isDigit c then some (rest.dropWhile Text.isDigit) else none
  | '.' :: [] => none
  | rest => some rest

/-- What is left after a time of day; seconds may be left out. -/
def afterTime? : List Char → Option (List Char)
  | h₁ :: h₂ :: ':' :: m₁ :: m₂ :: rest => do
    let _ ← two? 23 h₁ h₂
    let _ ← two? 59 m₁ m₂
    match rest with
    | ':' :: s₁ :: s₂ :: rest =>
      let _ ← two? 60 s₁ s₂
      afterFraction? rest
    | rest => some rest
  | _ => none

/-- Nothing, or an offset from universal time. -/
def isOffset : List Char → Bool
  | [] => true
  | [c] => c == 'Z' || c == 'z'
  | [s, h₁, h₂, ':', m₁, m₂] =>
    (s == '+' || s == '-') && (two? 23 h₁ h₂).isSome && (two? 59 m₁ m₂).isSome
  | _ => false

def isMoment (s : List Char) : Bool :=
  match afterDate? s with
  | some [] => true
  | some (c :: rest) => (c == 'T' || c == 't' || c == ' ') && (afterTime? rest).any isOffset
  | none => afterTime? s == some []

def Value.ofBare? (s : List Char) : Option Value :=
  if s = "true".toList then some (.boolean true)
  else if s = "false".toList then some (.boolean false)
  else if let some n := integer? s then some (.integer n)
  else if isFloat s then some (.float s)
  else if isMoment s then some (.moment s)
  else none

end ShaderDepot.Toml
