import ShaderDepot.Table
import ShaderDepot.Storage.Location

/-!
# A disk

A disk is a table of entries by place: the names on the way down from the root.  A process looks at it
from its working folder.  A location is followed step by step, and each step may fail as it does on
Linux, whose words for these faults are part of several messages.
-/

namespace ShaderDepot

/-- Why the disk, or what lies on it, refuses an operation. -/
inductive IoFault
  | notFound
  | exists
  | notDirectory
  | isDirectory
  | nameTooLong
  | nulByte
  | notText
  | other (text : String)
  deriving DecidableEq, Repr

def IoFault.message : IoFault → String
  | .notFound => "No such file or directory (os error 2)"
  | .exists => "File exists (os error 17)"
  | .notDirectory => "Not a directory (os error 20)"
  | .isDirectory => "Is a directory (os error 21)"
  | .nameTooLong => "File name too long (os error 36)"
  | .nulByte => "file name contained an unexpected NUL byte"
  | .notText => "stream did not contain valid UTF-8"
  | .other text => text

instance decidableEqBytes : DecidableEq ByteArray := ByteArray.instDecidableEq

namespace Disk

/-- The names on the way from the root. -/
abbrev Place := List (List Char)

inductive Entry
  | file (bytes : ByteArray)
  | folder
  deriving DecidableEq

end Disk

structure Disk where
  home : Disk.Place
  /-- Everything but the root. -/
  entries : Table Disk.Place Disk.Entry

namespace Disk

def maxName : Nat := 255

def maxLocation : Nat := 4096

/-- What stands at a place; the root is a folder. -/
def lookup? (d : Disk) (place : Place) : Option Entry :=
  if place = [] then some .folder else d.entries.get? place

def isFolder (d : Disk) (place : Place) : Bool := d.lookup? place = some .folder

/-- One step from a place; a name has to be short enough. -/
def step (d : Disk) (place : Place) (c : Location.Component) : Except IoFault Place :=
  if !d.isFolder place then .error .notDirectory
  else match c with
    | .root => .ok []
    | .here => .ok place
    | .up => .ok place.dropLast
    | .name n =>
      if (String.ofList n).utf8ByteSize ≤ maxName then .ok (place ++ [n]) else .error .nameTooLong

/-- Follows the steps that lead to an entry and must all exist. -/
def follow (d : Disk) (place : Place) (cs : List Location.Component) : Except IoFault Place :=
  cs.foldlM (fun place c => do
    let next ← d.step place c
    if (d.lookup? next).isSome then return next else throw .notFound) place

/-- The steps of a location, a dot being a step of its own and a final slash a last dot. -/
def steps (location : List Char) : List Location.Component :=
  (location.splitOn '/').filterMap (fun piece =>
    if piece = [] then none else if piece = ['.'] then some .here else Location.ofPiece piece)
    ++ if location.getLast? = some '/' then [.here] else []

/-- Where the first step starts, unless the location is refused as a whole. -/
def start (d : Disk) (location : String) : Except IoFault Place :=
  let s := location.toList
  if s.contains '\x00' then .error .nulByte
  else if s = [] then .error .notFound
  else if maxLocation ≤ location.utf8ByteSize then .error .nameTooLong
  else .ok (if s.head? = some '/' then [] else d.home)

def find (d : Disk) (location : String) : Except IoFault Place := do
  d.follow (← d.start location) (steps location.toList)

def exists? (d : Disk) (location : String) : Bool := (d.find location).toOption.isSome

def isFolderAt (d : Disk) (location : String) : Bool :=
  (d.find location).toOption.any d.isFolder

def read (d : Disk) (location : String) : Except IoFault ByteArray := do
  match d.lookup? (← d.find location) with
  | some (.file bytes) => return bytes
  | _ => throw .isDirectory

def readText (d : Disk) (location : String) : Except IoFault String := do
  match String.fromUTF8? (← d.read location) with
  | some text => return text
  | none => throw .notText

/-- The place at which a location's last step would make an entry. -/
def target (d : Disk) (location : String) : Except IoFault Place := do
  let cs := steps location.toList
  let parent ← d.follow (← d.start location) cs.dropLast
  match cs.getLast? with
  | some c => d.step parent c
  | none => return parent

/-- Makes or replaces a file.  The folder that holds it must exist. -/
def write (d : Disk) (location : String) (bytes : ByteArray) : Except IoFault Disk := do
  if Location.endsInSlash location then
    -- The way there is looked at first, and its fault is told first.
    let _ ← d.follow (← d.start location) (steps location.toList).dropLast.dropLast
    throw .isDirectory
  let place ← d.target location
  if d.isFolder place then throw .isDirectory
  return { d with entries := d.entries.insert place (.file bytes) }

def makeFoldersFrom (d : Disk) (place : Place) : List Location.Component → Except IoFault Disk
  | [] => if d.isFolder place then .ok d else .error .exists
  | c :: cs => do
    let next ← d.step place c
    let d := if (d.lookup? next).isSome then d else { d with entries := d.entries.insert next .folder }
    d.makeFoldersFrom next cs

/-- Makes a folder and those above it that are missing. -/
def makeFolders (d : Disk) (location : String) : Except IoFault Disk :=
  if location.isEmpty then .ok d
  else do d.makeFoldersFrom (← d.start location) (steps location.toList)

/-- Makes or replaces a file, and the folders above it that are missing. -/
def place (d : Disk) (location : String) (bytes : ByteArray) : Except IoFault Disk := do
  let d ← d.makeFolders ((Location.parent? location).getD "")
  d.write location bytes

def below (d : Disk) (place : Place) : List Place := d.entries.keys.filter place.isPrefixOf

/-- Whether a location ends in a name, not in a step by dots. -/
def endsInName (location : String) : Bool :=
  ((location.toList.splitOn '/').filter (· ≠ [])).getLast?.any fun piece =>
    piece ≠ ['.'] && piece ≠ ['.', '.']

/-- The disk without an entry and all that is in it.  An entry that is not named itself stays. -/
def remove (d : Disk) (location : String) : Except IoFault Disk := do
  let place ← d.find location
  return { d with entries := ⟨d.entries.entries.filter fun e =>
    !place.isPrefixOf e.1 || (e.1 = place && !endsInName location)⟩ }

/-- A disk with nothing but the way down to the working folder. -/
def empty (home : Place) : Disk where
  home := home
  entries := ⟨(List.range home.length).map fun n => (home.take (n + 1), .folder)⟩

/-- The files that are new or have other bytes than before. -/
def changedFiles (before after : Disk) : List (Place × ByteArray) :=
  after.entries.entries.filterMap fun (place, entry) =>
    match entry with
    | .file bytes => if before.lookup? place = some (.file bytes) then none else some (place, bytes)
    | .folder => none

/-- A file that can be read is one of the disk's entries. -/
theorem mem_values_of_read {d : Disk} {location : String} {bytes : ByteArray}
    (h : d.read location = .ok bytes) : Entry.file bytes ∈ d.entries.values := by
  simp only [read, bind, Except.bind] at h
  split at h
  · cases h
  · rename_i place _
    split at h
    · rename_i b hb
      cases h
      simp only [lookup?] at hb
      split at hb
      · cases hb
      · exact Table.mem_values_of_get? hb
    · cases h

end Disk

end ShaderDepot
