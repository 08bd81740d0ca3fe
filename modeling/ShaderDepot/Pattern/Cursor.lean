import ShaderDepot.Pattern.Fault
import ShaderDepot.Text.Blank

/-!
# A cursor in a pattern

The cursor stands before what is left of a pattern and knows its spot.  Where blank characters mean
nothing, `next` and `skipBlank` go over them and over comments, which a number sign starts.
-/

namespace ShaderDepot.Pattern

structure Cursor where
  rest : List Char
  spot : Spot := {}
  /-- Whether blank characters mean nothing. -/
  ignoresBlank : Bool := false
  deriving Repr, Inhabited

namespace Cursor

def here (c : Cursor) : Span := .point c.spot

def letterSpan (c : Cursor) : Span :=
  match c.rest with
  | [] => c.here
  | a :: _ => ⟨c.spot, c.spot.after a⟩

def since (c : Cursor) (start : Spot) : Span := ⟨start, c.spot⟩

def fail {α : Type} (c : Cursor) (kind : FaultKind) : Except Fault α := .error ⟨kind, c.here, none⟩

def failAtLetter {α : Type} (c : Cursor) (kind : FaultKind) : Except Fault α :=
  .error ⟨kind, c.letterSpan, none⟩

def failSince {α : Type} (c : Cursor) (start : Spot) (kind : FaultKind) : Except Fault α :=
  .error ⟨kind, c.since start, none⟩

def head? (c : Cursor) : Option Char := c.rest.head?

def bump (c : Cursor) : Cursor :=
  match c.rest with
  | [] => c
  | a :: rest => { c with rest, spot := c.spot.after a }

def advance (c : Cursor) : Nat → Cursor
  | 0 => c
  | n + 1 => c.bump.advance n

def take? (c : Cursor) (text : String) : Option Cursor :=
  if text.toList.isPrefixOf c.rest then some (c.advance text.toList.length) else none

/-- What is left after blank characters and comments, and its spot. -/
def dropBlank (inComment : Bool) : List Char → Spot → List Char × Spot
  | [], spot => ([], spot)
  | a :: rest, spot =>
    if inComment then dropBlank (a != '\n') rest (spot.after a)
    else if Text.isBlank a then dropBlank false rest (spot.after a)
    else if a = '#' then dropBlank true rest (spot.after a)
    else (a :: rest, spot)

/-- Goes over what means nothing. -/
def skipBlank (c : Cursor) : Cursor :=
  if c.ignoresBlank then
    let (rest, spot) := dropBlank false c.rest c.spot
    { c with rest, spot }
  else c

/-- Goes over one character and what means nothing behind it. -/
def next (c : Cursor) : Cursor := c.bump.skipBlank

/-- The character behind the next one.  Blank characters that mean nothing are left out, and so is the
sign of a comment; if nothing else is there, they count. -/
def second? (c : Cursor) : Option Char :=
  if c.ignoresBlank then
    match c.rest.tail.dropWhile Text.isBlank with
    | '#' :: rest => (rest.dropWhile Text.isBlank).head?.or c.rest.tail.head?
    | [] => c.rest.tail.head?
    | a :: _ => some a
  else c.rest.tail.head?

theorem length_dropBlank_le (inComment : Bool) (s : List Char) (spot : Spot) :
    (dropBlank inComment s spot).1.length ≤ s.length := by
  induction s generalizing inComment spot with
  | nil => exact Nat.le_refl _
  | cons a rest ih =>
    simp only [dropBlank, List.length_cons]
    split
    · exact Nat.le_succ_of_le (ih _ _)
    · split
      · exact Nat.le_succ_of_le (ih _ _)
      · split
        · exact Nat.le_succ_of_le (ih _ _)
        · exact Nat.le_refl _

theorem length_skipBlank_le (c : Cursor) : c.skipBlank.rest.length ≤ c.rest.length := by
  simp only [skipBlank]
  split
  · exact length_dropBlank_le _ _ _
  · exact Nat.le_refl _

theorem length_bump_lt {c : Cursor} {a : Char} {rest : List Char} (h : c.rest = a :: rest) :
    c.bump.rest.length < c.rest.length := by
  simp [bump, h]

theorem length_next_lt {c : Cursor} {a : Char} {rest : List Char} (h : c.rest = a :: rest) :
    c.next.rest.length < c.rest.length :=
  Nat.lt_of_le_of_lt (length_skipBlank_le c.bump) (length_bump_lt h)

/-- The characters of some kind that come next, with what means nothing behind each, and the cursor
behind them. -/
def takeNext (isIn : Char → Bool) (c : Cursor) : List Char × Cursor :=
  match _h : c.rest with
  | [] => ([], c)
  | a :: _ =>
    if isIn a then
      let (s, c) := c.next.takeNext isIn
      (a :: s, c)
    else ([], c)
termination_by c.rest.length
decreasing_by exact length_next_lt _h

end Cursor

end ShaderDepot.Pattern
