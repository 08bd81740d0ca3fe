import ShaderDepot.Pattern.Span
import ShaderDepot.Text.Lines

/-!
# Faults of patterns

A fault has a place in the pattern.  Its text shows the pattern with marks under the place; a pattern of
several lines is shown with their numbers.
-/

namespace ShaderDepot.Pattern

inductive FaultKind
  | tooDeep
  | groupUnclosed
  | groupUnopened
  | nameEmpty
  | nameCharacter
  | nameUnfinished
  | nameRepeated
  | flagUnknown
  | flagRepeated
  | flagsUnfinished
  | negationRepeated
  | negationDangling
  | lookAround
  | backreference
  | nothingToRepeat
  | countUnclosed
  | countMissing
  | countTooLarge
  | countsReversed
  | classUnclosed
  | classEscape
  | rangeBoundary
  | rangeReversed
  | escapeUnfinished
  | escapeUnknown
  | hexEmpty
  | hexDigit
  | hexNoCharacter
  | propertySpelling
  | boundaryUnclosed
  | boundaryUnknown
  | boundaryUnfinished
  | wideCharacter
  | notText
  | propertyUnknown
  | propertyValueUnknown
  | wideClass
  | wideCase
  deriving DecidableEq, Repr

def maxDepth : Nat := 250

def FaultKind.message : FaultKind → String
  | tooDeep => s!"exceed the maximum number of nested parentheses/brackets ({maxDepth})"
  | groupUnclosed => "unclosed group"
  | groupUnopened => "unopened group"
  | nameEmpty => "empty capture group name"
  | nameCharacter => "invalid capture group character"
  | nameUnfinished => "unclosed capture group name"
  | nameRepeated => "duplicate capture group name"
  | flagUnknown => "unrecognized flag"
  | flagRepeated => "duplicate flag"
  | flagsUnfinished => "expected flag but got end of regex"
  | negationRepeated => "flag negation operator repeated"
  | negationDangling => "dangling flag negation operator"
  | lookAround => "look-around, including look-ahead and look-behind, is not supported"
  | backreference => "backreferences are not supported"
  | nothingToRepeat => "repetition operator missing expression"
  | countUnclosed => "unclosed counted repetition"
  | countMissing => "repetition quantifier expects a valid decimal"
  | countTooLarge => "decimal literal invalid"
  | countsReversed => "invalid repetition count range, the start must be <= the end"
  | classUnclosed => "unclosed character class"
  | classEscape => "invalid escape sequence found in character class"
  | rangeBoundary => "invalid range boundary, must be a literal"
  | rangeReversed => "invalid character class range, the start must be <= the end"
  | escapeUnfinished => "incomplete escape sequence, reached end of pattern prematurely"
  | escapeUnknown => "unrecognized escape sequence"
  | hexEmpty => "hexadecimal literal empty"
  | hexDigit => "invalid hexadecimal digit"
  | hexNoCharacter => "hexadecimal literal is not a Unicode scalar value"
  | propertySpelling => "invalid Unicode character class"
  | boundaryUnclosed =>
    "special word boundary assertion is either unclosed or contains an invalid character"
  | boundaryUnknown =>
    "unrecognized special word boundary assertion, " ++
      "valid choices are: start, end, start-half or end-half"
  | boundaryUnfinished =>
    "found either the beginning of a special word boundary or a bounded repetition on a \\b " ++
      "with an opening brace, but no closing brace"
  | wideCharacter => "Unicode not allowed here"
  | notText => "pattern can match invalid UTF-8"
  | propertyUnknown => "Unicode property not found"
  | propertyValueUnknown => "Unicode property value not found"
  | wideClass =>
    "Unicode-aware Perl class not found (make sure the unicode-perl feature is enabled)"
  | wideCase =>
    "Unicode-aware case insensitivity matching is not available " ++
      "(make sure the unicode-case feature is enabled)"

structure Fault where
  kind : FaultKind
  span : Span
  /-- An earlier place that has to do with it. -/
  other : Option Span := none
  deriving DecidableEq, Repr

namespace Fault

/-- Marks under the columns of some spans, which are in order. -/
def marks (spans : List Span) : String :=
  (spans.foldl (fun (text, width) span =>
    let gap := span.start.column - 1 - width
    let length := max 1 (span.stop.column - span.start.column)
    (text ++ String.ofList (List.replicate gap ' ' ++ List.replicate length '^'),
      width + gap + length)) ("", 0)).1

/-- How wide the numbers of a pattern's lines are; a single line has none. -/
def numberWidth (pattern : List Char) : Nat :=
  let count := (Text.logLines pattern).length + if pattern.getLast? = some '\n' then 1 else 0
  if count ≤ 1 then 0 else (toString count).length

def lead (width line : Nat) : String :=
  if width = 0 then "    "
  else
    let digits := toString line
    String.ofList (List.replicate (width - digits.length) ' ') ++ digits ++ ": "

/-- The lines of a pattern, with marks below those that hold spans. -/
def shownLines (pattern : List Char) (spans : List Span) : List String :=
  let width := numberWidth pattern
  ((Text.logLines pattern).zipIdx 1).flatMap fun (text, line) =>
    let here := spans.filter fun s => s.isOneLine && s.start.line == line
    let shown := lead width line ++ String.ofList text
    let indent := String.ofList (List.replicate (if width = 0 then 4 else width + 2) ' ')
    if here.isEmpty then [shown] else [shown, indent ++ marks here]

def acrossLines (s : Span) : String :=
  s!"on line {s.start.line} (column {s.start.column}) " ++
    s!"through line {s.stop.line} (column {s.stop.column - 1})"

def divider : String := String.ofList (List.replicate 79 '~')

def text (pattern : String) (f : Fault) : String :=
  let spans := (f.span :: f.other.toList).mergeSort Span.isBefore
  let shown := shownLines pattern.toList spans
  let body :=
    if pattern.toList.contains '\n' then
      divider :: shown ++ divider :: (spans.filter (!·.isOneLine)).map acrossLines
    else shown
  String.intercalate "\n" ("regex parse error:" :: body ++ [s!"error: {f.kind.message}"])

end Fault

end ShaderDepot.Pattern
