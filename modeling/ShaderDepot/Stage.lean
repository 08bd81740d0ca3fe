import ShaderDepot.Text.Blank

/-!
# Pipeline stages

The six programmable phases of a pipeline, in the order of their slots, with the names and file
extensions by which they are asked for.
-/

namespace ShaderDepot

/-- One programmable phase of a pipeline. -/
inductive Stage
  | vertex
  | tessControl
  | tessEvaluation
  | geometry
  | fragment
  | compute
  deriving DecidableEq, Repr, Inhabited

namespace Stage

def all : List Stage := [vertex, tessControl, tessEvaluation, geometry, fragment, compute]

def slot : Stage → Fin 6
  | vertex => 0
  | tessControl => 1
  | tessEvaluation => 2
  | geometry => 3
  | fragment => 4
  | compute => 5

def name : Stage → String
  | vertex => "vertex"
  | tessControl => "tess_control"
  | tessEvaluation => "tess_evaluation"
  | geometry => "geometry"
  | fragment => "fragment"
  | compute => "compute"

def ofName? (name : String) : Option Stage := all.find? (·.name == name)

/-- The stage that a file extension stands for, upper and lower case being alike in ASCII. -/
def ofExtension? (extension : List Char) : Option Stage :=
  match String.ofList (extension.map Char.toLower) with
  | "vert" | "vs" => some vertex
  | "tesc" => some tessControl
  | "tese" => some tessEvaluation
  | "geom" | "gs" => some geometry
  | "frag" | "fs" => some fragment
  | "comp" | "cs" => some compute
  | _ => none

/-- The stage that a path's extension stands for; a last extension `glsl` is passed over.  The whole
of a path without a dot counts as its extension. -/
def ofPath? (path : String) : Option Stage :=
  match (path.toList.splitOn '.').reverse with
  | [] => none
  | last :: rest =>
    if last.map Char.toLower = ['g', 'l', 's', 'l'] then rest.head?.bind ofExtension?
    else ofExtension? last

structure Unknown where
  text : String
  deriving DecidableEq, Repr

def Unknown.message (e : Unknown) : String := s!"unknown shader stage '{e.text}'"

/-- Reads a stage's name or file extension, blank ends and ASCII case apart. -/
def parse (text : String) : Except Unknown Stage :=
  let lowered := String.ofList ((Text.trim text.toList).map Char.toLower)
  match ofName? lowered <|> ofPath? ("x." ++ lowered) with
  | some stage => .ok stage
  | none => .error ⟨text⟩

@[simp] theorem mem_all (s : Stage) : s ∈ all := by cases s <;> decide

theorem slot_injective {s t : Stage} (h : s.slot = t.slot) : s = t := by
  cases s <;> cases t <;> first | rfl | exact absurd h (by decide)

@[simp] theorem ofName?_name (s : Stage) : ofName? s.name = some s := by cases s <;> decide

end Stage

end ShaderDepot
