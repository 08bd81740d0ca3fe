import ShaderDepot.Pattern.Cursor
import ShaderDepot.Pattern.Form
import ShaderDepot.Text.Numeral

/-!
# Escape sequences of patterns

A backslash takes the meaning of a special character away or gives one to a letter.
-/

namespace ShaderDepot.Pattern

abbrev Reader (α : Type) := Cursor → Except Fault (α × Cursor)

/-- A character that means something by itself somewhere in a pattern. -/
def isSpecial (c : Char) : Bool := "\\.+*?()|[]\x7b\x7d^$#&-~".toList.contains c

/-- A character that stands for itself after a backslash: any of ASCII but letters, digits and the
brackets of words. -/
def isEscapable (c : Char) : Bool :=
  isSpecial c || (c ≤ '\x7f' && !c.isAlphanum && c != '<' && c != '>')

def control? : Char → Option Char
  | 'a' => some '\x07'
  | 'f' => some '\x0c'
  | 't' => some '\t'
  | 'n' => some '\n'
  | 'r' => some '\r'
  | 'v' => some '\x0b'
  | _ => none

/-- The place that a letter stands for after a backslash, without a name behind it. -/
def mark? : Char → Option Mark
  | 'A' => some .textStart
  | 'z' => some .textEnd
  | 'B' => some (.word .noBoundary)
  | '<' => some (.word .start)
  | '>' => some (.word .stop)
  | _ => none

/-- The class that a letter stands for after a backslash, negated for capital letters. -/
def shorthand? : Char → Option (Shorthand × Bool)
  | 'd' => some (.digit, false)
  | 's' => some (.space, false)
  | 'w' => some (.word, false)
  | 'D' => some (.digit, true)
  | 'S' => some (.space, true)
  | 'W' => some (.word, true)
  | _ => none

/-- How many hexadecimal digits follow a letter without braces. -/
def hexWidth? : Char → Option Nat
  | 'x' => some 2
  | 'u' => some 4
  | 'U' => some 8
  | _ => none

/-! ## Characters by number -/

def readHexDigits : Nat → Reader (List Char)
  | 0, c => .ok ([], c)
  | n + 1, c =>
    match c.head? with
    | none => c.fail .escapeUnfinished
    | some a =>
      if Text.isHexDigit a then do
        let (digits, c) ← readHexDigits n c.next
        return (a :: digits, c)
      else c.failAtLetter .hexDigit

def readHexFixed (start : Spot) (width : Nat) : Reader Letter := fun c => do
  let (digits, after) ← readHexDigits width c
  match Text.scalar? (Text.digitsValue 16 digits) with
  | some a => return (⟨after.since start, a, width == 2⟩, after)
  | none => after.failSince c.spot .hexNoCharacter

def readHexBraced (start : Spot) : Reader Letter := fun c => do
  let (digits, close) := c.next.takeNext Text.isHexDigit
  match close.head? with
  | none => close.failSince c.spot .escapeUnfinished
  | some '\x7d' =>
    let after := close.next
    if digits = [] then after.failSince c.spot .hexEmpty
    else match Text.scalar? (Text.digitsValue 16 digits) with
      | some a => return (⟨after.since start, a, false⟩, after)
      | none => throw ⟨.hexNoCharacter, ⟨c.letterSpan.stop, close.spot⟩, none⟩
  | some _ => close.failAtLetter .hexDigit

/-- Reads a character by its number, from the letter after the backslash. -/
def readHex (start : Spot) (width : Nat) : Reader Letter := fun c =>
  match c.next.head? with
  | none => c.next.fail .escapeUnfinished
  | some '\x7b' => readHexBraced start c.next
  | some _ => readHexFixed start width c.next

/-! ## Properties and word boundaries -/

/-- Reads the name of a property, from the letter after the backslash. -/
def readProperty (start : Spot) : Reader Form := fun c =>
  let c := c.next
  match c.head? with
  | none => c.fail .escapeUnfinished
  | some '\x7b' =>
    let (name, close) := c.next.takeNext (· != '\x7d')
    if close.head?.isNone then close.fail .escapeUnfinished
    else .ok (.property (close.bump.since start) name, close.bump)
  | some '\\' => c.failAtLetter .propertySpelling
  | some a => .ok (.property (c.next.since start) [a], c.next)

def isBoundaryLetter (c : Char) : Bool := c.isAlpha || c == '-'

def wordPlace? (name : List Char) : Option WordPlace :=
  [("start", WordPlace.start), ("end", .stop), ("start-half", .startHalf),
    ("end-half", .stopHalf)].lookup (String.ofList name)

/-- Reads the name of a boundary in braces, which is behind an escape that started at a spot.  What can
be no name is left, since it may be a count. -/
def readBoundary (start : Spot) : Reader WordPlace := fun c => do
  if c.head? ≠ some '\x7b' then return (.boundary, c)
  let inside := c.next
  match inside.head? with
  | none => inside.failSince start .boundaryUnfinished
  | some a =>
    if !isBoundaryLetter a then return (.boundary, c)
    let (name, close) := inside.takeNext isBoundaryLetter
    if close.head? ≠ some '\x7d' then close.failSince c.spot .boundaryUnclosed
    else match wordPlace? name with
      | some place => return (place, close.bump)
      | none => close.failSince inside.spot .boundaryUnknown

/-! ## Escapes -/

def readPlainEscape (start : Spot) (a : Char) : Reader Form := fun c => do
  let after := c.bump
  let span := after.since start
  if isEscapable a then return (.letter ⟨span, a, false⟩, after)
  else if let some control := control? a then return (.letter ⟨span, control, false⟩, after)
  else if a = 'b' then
    let (place, after) ← readBoundary start after
    return (.mark (after.since start) (.word place), after)
  else if let some mark := mark? a then return (.mark span mark, after)
  else throw ⟨.escapeUnknown, span, none⟩

def readEscape : Reader Form := fun c => do
  let start := c.spot
  let c := c.bump
  match c.head? with
  | none => c.failSince start .escapeUnfinished
  | some a =>
    if a.isDigit then throw ⟨.backreference, ⟨start, c.letterSpan.stop⟩, none⟩
    else if let some width := hexWidth? a then
      let (letter, c) ← readHex start width c
      return (.letter letter, c)
    else if a = 'p' ∨ a = 'P' then readProperty start c
    else if let some (kind, negated) := shorthand? a then
      return (.shorthand (c.bump.since start) kind negated, c.bump)
    else readPlainEscape start a c

end ShaderDepot.Pattern
