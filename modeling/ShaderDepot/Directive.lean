import ShaderDepot.Path

/-!
# Directives in a source text

A source text may hold `#version` and `#include` lines.  Scanning a text puts a comment in the place of
each such line and keeps every other, so that a line keeps its number; the arguments of the directives
are handed out beside the text.
-/

namespace ShaderDepot

/-- A line that the scan takes out of a text, with its trimmed argument. -/
inductive Directive
  | version (argument : List Char)
  | inclusion (argument : List Char)
  deriving DecidableEq, Repr

namespace Directive

/-- The argument of a line `#keyword argument`.  The keyword directly follows the `#`, a blank
character follows the keyword, and the argument is not empty. -/
def argument? (keyword line : List Char) : Option (List Char) :=
  match Text.trimStart line with
  | '#' :: rest =>
    match keyword.isPrefixOf? rest with
    | some (c :: rest) =>
      let argument := Text.trim rest
      if Text.isBlank c ∧ argument ≠ [] then some argument else none
    | _ => none
  | _ => none

def ofLine? (line : List Char) : Option Directive :=
  -- No line is both.
  match argument? "version".toList line with
  | some argument => some (version argument)
  | none => (argument? "include".toList line).map inclusion

/-- The comment that takes a directive's place. -/
def marker : Directive → List Char
  | version _ => "//#version".toList
  | inclusion _ => "//#include".toList

def markLine (line : List Char) : List Char := ((ofLine? line).map marker).getD line

def between? (opening closing : Char) : List Char → Option (List Char)
  | [] => none
  | c :: rest => if c = opening ∧ rest.getLast? = some closing then some rest.dropLast else none

/-- The path that an include argument names: one pair of quotes or angle brackets is taken off. -/
def includePath (argument : List Char) : List Char :=
  let argument := Text.trim argument
  Path.normalizeChars
    ((between? '"' '"' argument <|> between? '<' '>' argument).getD argument)

def version? : Directive → Option (List Char)
  | version argument => some argument
  | inclusion _ => none

/-- The path that a directive includes.  One that normalizes to nothing includes nothing. -/
def include? : Directive → Option (List Char)
  | version _ => none
  | inclusion argument => let path := includePath argument; if path = [] then none else some path

end Directive

structure ScannedText where
  /-- The text with a comment for every directive. -/
  text : String
  /-- The argument of the first `#version` line. -/
  version : Option String
  versionCount : Nat
  /-- The paths that are included, in the order of their lines. -/
  includes : List String
  deriving DecidableEq, Repr

namespace ScannedText

/-- The lines that a scan looks at; a carriage return before a line feed belongs to neither. -/
def sourceLines (source : List Char) : List (List Char) := (Text.dropReturns source).splitOn '\n'

def directives (source : List Char) : List Directive :=
  (sourceLines source).filterMap Directive.ofLine?

def ofSource (source : String) : ScannedText :=
  let lines := sourceLines source.toList
  let versions := (directives source.toList).filterMap Directive.version?
  { text := String.ofList (Text.joinWith '\n' (lines.map Directive.markLine))
    version := versions.head?.map String.ofList
    versionCount := versions.length
    includes := ((directives source.toList).filterMap Directive.include?).map String.ofList }

end ScannedText

end ShaderDepot
