import ShaderDepot.Text.Blank

/-!
# Preprocessor definitions

A definition is a `#define` line that is put in front of a program's text.  It is asked for as `NAME`
or `NAME=VALUE`.  The order of a program's definitions is part of what it is, so lists of them are kept
as given.
-/

namespace ShaderDepot

structure Define where
  name : String
  value : String
  deriving DecidableEq, Repr, Inhabited

namespace Define

/-- A text that is no definition, for its name is blank. -/
structure Malformed where
  text : String
  deriving DecidableEq, Repr

def Malformed.message (e : Malformed) : String :=
  s!"invalid macro definition '{e.text}', expected NAME[=VALUE]"

/-- Name and value of `NAME[=VALUE]`, cut at the first `=` and trimmed, as characters. -/
def parts (text : List Char) : List Char × List Char :=
  (Text.trim (text.takeWhile (· ≠ '=')), Text.trim ((text.dropWhile (· ≠ '=')).drop 1))

def parse (text : String) : Except Malformed Define :=
  match parts text.toList with
  | ([], _) => .error ⟨text⟩
  | (name, value) => .ok ⟨String.ofList name, String.ofList value⟩

def line (d : Define) : String := s!"#define {d.name} {d.value}"

def display (d : Define) : String :=
  if d.value.isEmpty then d.name else s!"{d.name}={d.value}"

/-- Definitions are ordered by name, then by value. -/
protected def compare (a b : Define) : Ordering :=
  (compare a.name b.name).then (compare a.value b.value)

instance : Ord Define := ⟨Define.compare⟩

def sort (ds : List Define) : List Define := ds.mergeSort fun a b => (compare a b).isLE

end Define

end ShaderDepot
