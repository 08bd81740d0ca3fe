/-!
# Places in a pattern

A spot lies before a character of a pattern or at its end, a span between two spots.  Lines and columns
count from one.
-/

namespace ShaderDepot.Pattern

structure Spot where
  offset : Nat := 0
  line : Nat := 1
  column : Nat := 1
  deriving DecidableEq, Repr, Inhabited

def Spot.after (s : Spot) (c : Char) : Spot :=
  if c = '\n' then ⟨s.offset + 1, s.line + 1, 1⟩ else ⟨s.offset + 1, s.line, s.column + 1⟩

structure Span where
  start : Spot
  stop : Spot
  deriving DecidableEq, Repr, Inhabited

namespace Span

def point (s : Spot) : Span := ⟨s, s⟩

def isOneLine (s : Span) : Bool := s.start.line = s.stop.line

/-- The order by beginnings, then by ends. -/
def isBefore (a b : Span) : Bool :=
  a.start.offset < b.start.offset
    || (a.start.offset = b.start.offset && a.stop.offset ≤ b.stop.offset)

end Span

end ShaderDepot.Pattern
