import ShaderDepot.Define
import ShaderDepot.IncludeGraph.Order
import ShaderDepot.Text.Numeral

/-!
# Compile units

A compile unit is the one text that a compiler gets: a preamble with the version line, the shared
header and the definitions, then a section for each file.  The unit knows where its sections start, so
that a line of it can be traced back to a line of a file, and a compiler's log with it.
-/

namespace ShaderDepot

/-- Line `n` of the unit, if it lies in the section, is line `n - start` of the file of this name. -/
structure SectionStart where
  start : Nat
  label : String
  deriving DecidableEq, Repr, Inhabited

/-- A line of a file, counted from one. -/
structure LineOrigin where
  line : Nat
  label : String
  deriving DecidableEq, Repr

def LineOrigin.display (o : LineOrigin) : String := s!"line {o.line} in {o.label}"

structure CompileUnit where
  text : String
  sections : List SectionStart
  deriving DecidableEq, Repr, Inhabited

namespace CompileUnit

def preambleLabel : String := "version, header and macros"

def bodyLines (text : String) : List String := (Text.bodyLines text.toList).map String.ofList

/-- The version line, the lines of the header unless it is empty, and the definitions. -/
def preamble (version header : String) (defines : List Define) : List String :=
  s!"#version {version}" :: (if header.isEmpty then [] else bodyLines header)
    ++ defines.map Define.line

def fileMarker (label : String) : String := s!"/* File: {label} */"

/-- The lines and starts of sections that come after `start` lines. -/
def layOut (start : Nat) : List (String × String) → List String × List SectionStart
  | [] => ([], [])
  | (label, text) :: rest =>
    let body := bodyLines text
    -- The marker is a line of the unit, but none of the file.
    let (lines, starts) := layOut (start + 1 + body.length) rest
    (fileMarker label :: body ++ lines, ⟨start + 1, label⟩ :: starts)

/-- Lines, each ended by a line feed. -/
def render (lines : List String) : String := String.join (lines.map (· ++ "\n"))

def assemble (version header : String) (defines : List Define) (sections : List (String × String)) :
    CompileUnit :=
  let front := preamble version header defines
  let (lines, starts) := layOut front.length sections
  ⟨render (front ++ lines), ⟨0, preambleLabel⟩ :: starts⟩

/-- Where a line of the unit comes from: it lies in the last section of those in front that start
no later. -/
def lineOrigin? (u : CompileUnit) (line : Nat) : Option LineOrigin :=
  (u.sections.takeWhile (·.start ≤ line)).getLast?.map fun s => ⟨line - s.start, s.label⟩

def lineBound : Nat := Nat.pow 2 64

/-- The line number in `ERROR: source:line: message`. -/
def labeledLine? (line : List Char) : Option Nat :=
  match "ERROR:".toList.isPrefixOf? line with
  | some rest =>
    match rest.splitOn ':' with
    | _ :: field :: _ => Text.numeral? lineBound (Text.trim field)
    | _ => none
  | none => none

/-- The line number in `source(line) message`, where the source is a number. -/
def terseLine? (line : List Char) : Option Nat :=
  let line := Text.trimStart line
  let source := line.takeWhile (· ≠ '(')
  match line.dropWhile (· ≠ '(') with
  | [] => none
  | _ :: rest =>
    if source = [] ∨ ¬source.all Text.isDigit ∨ ')' ∉ rest then none
    else Text.numeral? lineBound (rest.takeWhile (· ≠ ')'))

def reportedLine? (line : List Char) : Option Nat := labeledLine? line <|> terseLine? line

/-- A line of a log, and under it where it points to. -/
def localizeLine (u : CompileUnit) (line : List Char) : String :=
  String.ofList line ++ "\n" ++
    match (reportedLine? line).bind u.lineOrigin? with
    | some origin => s!"At: {origin.display}\n"
    | none => ""

def localizeLog (u : CompileUnit) (log : String) : String :=
  String.join ((Text.logLines log.toList).map u.localizeLine)

def listing (u : CompileUnit) : String :=
  String.join ((bodyLines u.text).zipIdx.map fun (line, i) => s!"{i + 1}: {line}\n")

end CompileUnit

namespace IncludeGraph

/-- The unit that an entry file is compiled from. -/
def resolve (g : IncludeGraph) (entry : FileId) (header : String) (defines : List Define) :
    Traced CompileUnit := do
  let order ← g.order entry
  return .assemble (g.versionOf entry) header defines
    (order.map fun id => (g.pathOf id, g.textOf id))

end IncludeGraph

end ShaderDepot
