import ShaderDepot.Log
import ShaderDepot.Storage.Disk
import ShaderDepot.Storage.OsPath

/-!
# Watching a folder

A watch reports the files below a folder that are made, written, removed or renamed, by their paths
from the folder.  The system names a changed file by a location of its own; its path is what remains
when a spelling of the watched folder is taken off the front.
-/

namespace ShaderDepot

structure MissingFolder where
  root : String
  deriving DecidableEq, Repr

def MissingFolder.message (e : MissingFolder) : String :=
  s!"shader directory '{e.root}' does not exist"

namespace Watch

/-- What is noted, in order, when a watch starts. -/
def startRecords (root : String) : List LogRecord := [
  ⟨.trace, .poller, "registering event source with poller: token=Token(0), interests=READABLE"⟩,
  ⟨.info, .watch, s!"Watching shader directory '{root}'"⟩]

def check (d : Disk) (root : String) : Except MissingFolder Unit :=
  if d.isFolderAt root then .ok () else .error ⟨root⟩

/-- The path of a file below one of the roots, which are spellings of one folder. -/
def relativePath? (roots : List OsPath) (location : OsPath) : Option String :=
  match roots.findSome? fun root => root.within? location with
  | none => none
  | some below =>
    let path := Path.normalize below.text
    if path = "" then none else some path

inductive Action
  | write (location : String) (bytes : ByteArray)
  | makeFolder (location : String)
  | read (location : String)
  | remove (location : String)
  | rename (location target : String)

def spell (place : Disk.Place) : String := String.ofList ('/' :: Text.joinWith '/' place)

/-- Whether an entry can be moved: not into itself, a folder only to a free place or in the place of an
empty folder, a file never in the place of a folder. -/
def canMove (d : Disk) (source target : Disk.Place) : Bool :=
  !source.isPrefixOf target &&
    match d.isFolder source, d.lookup? target with
    | _, none => true
    | true, some .folder => d.below target == [target]
    | false, some (.file _) => true
    | _, some _ => false

/-- The place to which an entry is to be moved.  The new location of a folder may end in slashes. -/
def moveTarget (d : Disk) (source : Disk.Place) (location : String) : Except IoFault Disk.Place :=
  if Location.endsInSlash location && !d.isFolder source then .error .notDirectory
  else d.target (String.ofList (location.toList.reverse.dropWhile (· == '/')).reverse)

def move (d : Disk) (source target : Disk.Place) : Disk :=
  -- What was at the target gives way.
  let kept := d.entries.entries.filter fun e => !(target.isPrefixOf e.1)
  { d with entries := ⟨kept.map fun e =>
      if source.isPrefixOf e.1 then (target ++ e.1.drop source.length, e.2) else e⟩ }

/-- The places that an action touches, and the disk after it.  One that fails touches nothing. -/
def perform (d : Disk) : Action → List Disk.Place × Disk
  | .write location bytes =>
    match d.target location, d.place location bytes with
    | .ok place, .ok d => ([place], d)
    | _, _ => ([], d)
  | .makeFolder location =>
    match d.makeFolders location with
    | .ok d' => (d'.entries.keys.filter fun place => (d.lookup? place).isNone, d')
    | .error _ => ([], d)
  | .read _ => ([], d)
  | .remove location =>
    match d.remove location with
    | .ok d' => (d.entries.keys.filter fun place => (d'.lookup? place).isNone, d')
    | .error _ => ([], d)
  | .rename location target =>
    match d.find location with
    | .ok source =>
      match moveTarget d source target with
      | .ok place =>
        if canMove d source place then ([source, place], move d source place) else ([], d)
      | .error _ => ([], d)
    | .error _ => ([], d)

/-- Where the system says a place lies, if it lies below the watched folder: the watch names things
from the location at which it was started. -/
def reported? (home root : String) (canonical place : Disk.Place) : Option String :=
  (canonical.isPrefixOf? place).map fun rest =>
    Location.join (Location.join home root) (String.ofList (Text.joinWith '/' rest))

/-- The paths that a watch of a folder reports while actions are done, ascending and each once. -/
def observe (d : Disk) (root : String) (actions : List Action) :
    Except MissingFolder (List String) :=
  match d.find root with
  | .error _ => .error ⟨root⟩
  | .ok canonical =>
    if !d.isFolder canonical then .error ⟨root⟩
    else
      let touched := (actions.foldl (fun (touched, d) action =>
        let (more, d) := perform d action
        (touched ++ more, d)) (([] : List Disk.Place), d)).1
      -- The system may name things from the folder as it was given or from its place.
      let roots : List OsPath := [root, spell canonical]
      let paths := touched.filterMap fun place => do
        relativePath? roots (← reported? (spell d.home) root canonical place)
      .ok ((paths.mergeSort fun a b => (compare a b).isLE).eraseDups)

end Watch

end ShaderDepot
