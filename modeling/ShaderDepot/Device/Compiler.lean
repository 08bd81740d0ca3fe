import ShaderDepot.Handle
import ShaderDepot.Stage
import ShaderDepot.Text.Blank
import ShaderDepot.Text.Lines
import ShaderDepot.Text.Numeral

/-!
# The device's compiler

A small set of rules stands for a compiler.  A text links when it begins with a `#version` line and no
line of it starts with `#error`.  From the text come also the names of plain uniforms and, for a
compute stage, the size of a work group.
-/

namespace ShaderDepot

/-- The vendor style of a compiler's log. -/
inductive LogStyle
  | labeled
  | terse
  deriving DecidableEq, Repr, Inhabited

/-- One complaint of a compiler about a line, counted from one. -/
structure Complaint where
  line : Nat
  message : String
  deriving DecidableEq, Repr

def LogStyle.render (style : LogStyle) (c : Complaint) : String :=
  match style with
  | labeled => s!"ERROR: 0:{c.line}: {c.message}\n"
  | terse => s!"0({c.line}) : error C0000: {c.message}\n"

namespace Compiler

def after? (word : String) (s : List Char) : Option (List Char) := word.toList.isPrefixOf? s

/-- What an `#error` line says; the line is counted from zero. -/
def lineComplaint? (line : List Char) (index : Nat) : Option Complaint :=
  (after? "#error" (Text.trimStart line)).map fun message =>
    ⟨index + 1, "#error" ++ String.ofList message⟩

def complaints (source : List Char) : List Complaint :=
  (if (after? "#version" (Text.trimStart source)).isSome then []
    else [⟨1, "missing #version directive"⟩])
  ++ (Text.logLines source).zipIdx.filterMap fun (line, i) => lineComplaint? line i

def sizeBound : Nat := Nat.pow 2 32

/-- What stands before and after the first occurrence of a character. -/
def cut? (c : Char) (s : List Char) : Option (List Char × List Char) :=
  if c ∈ s then some (s.takeWhile (· ≠ c), (s.dropWhile (· ≠ c)).drop 1) else none

/-- The qualifiers of a line `layout(qualifiers) in`. -/
def layoutBody? (line : List Char) : Option (List Char) := do
  let rest ← after? "(" (Text.trimStart (← after? "layout" (Text.trim line)))
  let (body, tail) ← cut? ')' rest
  let _ ← after? "in" (Text.trimStart tail)
  return body

/-- The size after one layout qualifier; one that is no size changes nothing. -/
def applyQualifier (size : Extent) (qualifier : List Char) : Extent :=
  match cut? '=' qualifier with
  | none => size
  | some (key, value) =>
    match Text.numeral? sizeBound (Text.trim value) with
    | none => size
    | some n =>
      match String.ofList (Text.trim key) with
      | "local_size_x" => { size with x := n }
      | "local_size_y" => { size with y := n }
      | "local_size_z" => { size with z := n }
      | _ => size

/-- The work-group size that a text declares; a dimension that is not declared is one. -/
def localSize (source : List Char) : Extent :=
  ((Text.logLines source).filterMap layoutBody?).foldl
    (fun size body => (body.splitOn ',').foldl applyQualifier size) ⟨1, 1, 1⟩

def isIdentifierChar (c : Char) : Bool := c.isAlphanum || c == '_'

/-- The name in a line `uniform type name;`, where the brackets of an array are left out. -/
def uniformName? (line : List Char) : Option (List Char) := do
  let rest ← after? "uniform " (Text.trim line)
  if rest.getLast? ≠ some ';' then none
  let name := (← (Text.words rest.dropLast).getLast?).takeWhile (· ≠ '[')
  if name = [] ∨ ¬name.all isIdentifierChar then none
  return name

def uniformNames (source : List Char) : List String :=
  ((Text.logLines source).filterMap uniformName?).map String.ofList

end Compiler

structure CompileResult where
  complaints : List Complaint
  workGroup : Extent
  uniforms : List String
  deriving DecidableEq, Repr

/-- A text without complaints links. -/
def CompileResult.linked (r : CompileResult) : Bool := r.complaints.isEmpty

def CompileResult.log (r : CompileResult) (style : LogStyle) : String :=
  String.join (r.complaints.map style.render)

/-- The location of an active uniform: its place among the uniforms, the last if there are several of
one name. -/
def CompileResult.location? (r : CompileResult) (name : String) : Option UniformLocation :=
  let names := r.uniforms.reverse
  (names.idxOf? name).map fun i => ⟨(names.length : Int) - 1 - i⟩

def Compiler.compile (stage : Stage) (source : String) : CompileResult where
  complaints := complaints source.toList
  workGroup := if stage = .compute then localSize source.toList else .zero
  uniforms := uniformNames source.toList

end ShaderDepot
