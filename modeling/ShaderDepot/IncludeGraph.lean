import ShaderDepot.Directive
import ShaderDepot.Table
import ShaderDepot.Traced

/-!
# The include graph

Every shader file that was ever asked for, directly or by an include, has a place in the graph, which
it keeps.  A file is known by the normal form of its path.  Each include is noted at both its ends: the
includer lists what it depends on, in the order of its include lines, and the included file lists its
includers.
-/

namespace ShaderDepot

structure FileId where
  index : Nat
  deriving DecidableEq, Repr, Inhabited

def FileId.display (id : FileId) : String := s!"source#{id.index}"

structure SourceFile where
  /-- The key by which the graph knows the file. -/
  path : String
  /-- The text as scanned; empty when the file could not be read. -/
  text : String
  /-- The argument of the file's first `#version` line, or the graph's default. -/
  version : String
  /-- The files that this one includes, each once, in the order of their first include lines. -/
  dependencies : List FileId
  /-- The files that include this one, in ascending order. -/
  includers : List FileId
  /-- Whether the last attempt to read the file failed. -/
  unreadable : Bool
  lastRead : Option (Except ReadError String)
  deriving DecidableEq, Repr, Inhabited

namespace SourceFile

def unread (path version : String) : SourceFile := ⟨path, "", version, [], [], true, none⟩

def addDependency (f : SourceFile) (id : FileId) : SourceFile :=
  { f with dependencies := if id ∈ f.dependencies then f.dependencies else f.dependencies ++ [id] }

/-- Puts an id into an ascending list, unless it is there. -/
def insertAscending (id : FileId) : List FileId → List FileId
  | [] => [id]
  | a :: rest =>
    if id.index < a.index then id :: a :: rest
    else if a = id then a :: rest
    else a :: insertAscending id rest

def addIncluder (f : SourceFile) (id : FileId) : SourceFile :=
  { f with includers := insertAscending id f.includers }

def removeIncluder (f : SourceFile) (id : FileId) : SourceFile :=
  { f with includers := f.includers.filter (· ≠ id) }

def dropDependencies (f : SourceFile) : SourceFile := { f with dependencies := [] }

def emptied (f : SourceFile) (cause : ReadError) (version : String) : SourceFile :=
  { f with text := "", version := version, unreadable := true, lastRead := some (.error cause) }

def filled (f : SourceFile) (source : String) (scanned : ScannedText) (defaultVersion : String) :
    SourceFile :=
  { f with
    text := scanned.text
    version := scanned.version.getD defaultVersion
    unreadable := false
    lastRead := some (.ok source) }

end SourceFile

structure IncludeGraph where
  /-- The version of files without a `#version` line. -/
  defaultVersion : String
  files : Array SourceFile := #[]
  index : Table String FileId := ∅
  deriving DecidableEq, Repr, Inhabited

namespace IncludeGraph

def size (g : IncludeGraph) : Nat := g.files.size

def file? (g : IncludeGraph) (id : FileId) : Option SourceFile := g.files[id.index]?

def ids (g : IncludeGraph) : List FileId := (List.range g.size).map FileId.mk

/-- The file with exactly this key. -/
def lookup? (g : IncludeGraph) (key : String) : Option FileId := g.index.get? key

def find? (g : IncludeGraph) (path : String) : Option FileId := g.lookup? (Path.normalize path)

def pathOf (g : IncludeGraph) (id : FileId) : String := ((g.file? id).map (·.path)).getD ""

def textOf (g : IncludeGraph) (id : FileId) : String := ((g.file? id).map (·.text)).getD ""

def versionOf (g : IncludeGraph) (id : FileId) : String :=
  ((g.file? id).map (·.version)).getD g.defaultVersion

def dependencies (g : IncludeGraph) (id : FileId) : List FileId :=
  ((g.file? id).map (·.dependencies)).getD []

def includers (g : IncludeGraph) (id : FileId) : List FileId :=
  ((g.file? id).map (·.includers)).getD []

def update (g : IncludeGraph) (id : FileId) (f : SourceFile → SourceFile) : IncludeGraph :=
  { g with files := g.files.modify id.index f }

/-- Gives a place to a file of which nothing has been read. -/
def push (g : IncludeGraph) (key : String) : IncludeGraph :=
  { g with
    files := g.files.push (.unread key g.defaultVersion)
    index := g.index.insert key ⟨g.size⟩ }

/-- Notes an include at both its ends. -/
def addEdge (g : IncludeGraph) (includer included : FileId) : IncludeGraph :=
  (g.update includer (·.addDependency included)).update included (·.addIncluder includer)

/-- Takes back every include of a file, at both ends. -/
def dropEdges (g : IncludeGraph) (id : FileId) : IncludeGraph :=
  (g.dependencies id).foldl (fun g d => g.update d (·.removeIncluder id))
    (g.update id (·.dropDependencies))

@[simp] theorem lookup?_update (g : IncludeGraph) (id : FileId) (f : SourceFile → SourceFile)
    (key : String) : (g.update id f).lookup? key = g.lookup? key := rfl

@[simp] theorem lookup?_addEdge (g : IncludeGraph) (a b : FileId) (key : String) :
    (g.addEdge a b).lookup? key = g.lookup? key := rfl

@[simp] theorem lookup?_push (g : IncludeGraph) (key key' : String) :
    (g.push key).lookup? key' = if key = key' then some ⟨g.size⟩ else g.lookup? key' := by
  simp only [lookup?, push, Table.get?_insert]

/-- Fewer members pass a stricter test that some member which passed now fails. -/
theorem countP_lt_countP {α : Type} {p q : α → Bool} {l : List α} (h : ∀ a ∈ l, p a → q a) {a : α}
    (ha : a ∈ l) (hq : q a) (hp : ¬ p a) : l.countP p < l.countP q := by
  induction l with
  | nil => cases ha
  | cons b l ih =>
    -- The member at which the tests differ is the first one, or one of the rest.
    have hl : ∀ a ∈ l, p a → q a := fun a h' => h a (List.mem_cons_of_mem _ h')
    rcases List.mem_cons.1 ha with rfl | ha
    · have := List.countP_mono_left hl
      simp only [List.countP_cons, hq, hp, if_true]
      simp only [Bool.false_eq_true, if_false]
      omega
    · have := ih hl ha
      have := h b (List.mem_cons_self ..)
      simp only [List.countP_cons]
      split <;> split <;> first | omega | simp_all

end IncludeGraph

end ShaderDepot
