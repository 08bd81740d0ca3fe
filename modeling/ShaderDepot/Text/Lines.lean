/-!
# Lines of a text

Three ways to cut a text at line feeds.  `List.splitOn '\n'` keeps every piece; `bodyLines` takes a
final line feed as the end of the last line; `logLines` does so too and also drops a carriage return
that stands directly before a line feed.
-/

namespace ShaderDepot.Text

def dropFinalFeed (s : List Char) : List Char :=
  if s.getLast? = some '\n' then s.dropLast else s

/-- The lines of a text whose final line feed, if any, ends the last line.  There is always at least
one. -/
def bodyLines (s : List Char) : List (List Char) := (dropFinalFeed s).splitOn '\n'

def dropFinalReturn (s : List Char) : List Char :=
  if s.getLast? = some '\r' then s.dropLast else s

/-- Finished lines lose a carriage return at their end; a rest after the last line feed is a line as
it stands, unless it is empty. -/
def finishLines : List (List Char) → List (List Char)
  | [] => []
  | [rest] => if rest = [] then [] else [rest]
  | line :: more => dropFinalReturn line :: finishLines more

/-- The lines of a log: ended by a line feed or by a carriage return and a line feed. -/
def logLines (s : List Char) : List (List Char) := finishLines (s.splitOn '\n')

/-- Every carriage return directly before a line feed is dropped. -/
def dropReturns : List Char → List Char
  | '\r' :: '\n' :: s => '\n' :: dropReturns s
  | c :: s => c :: dropReturns s
  | [] => []

def joinWith (sep : Char) (pieces : List (List Char)) : List Char := [sep].intercalate pieces

end ShaderDepot.Text
