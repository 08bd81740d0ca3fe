import ShaderDepot.Storage.Disk
import ShaderDepot.Storage.OsPath

/-!
# Storage of shader sources

Sources are read by file name from one of two storages: a memory that maps names to texts as they are
spelled, or a folder on a disk.  Beside each source a storage has a place for its resolved text and one
for its compiled form.  A text that can be read is one of the finitely many that the storage holds
(`mem_texts_of_read`).
-/

namespace ShaderDepot

/-- Why a source's text cannot be had; each names the location that was asked for. -/
inductive ReadError
  | notFound (location : String)
  | io (location : String) (cause : IoFault)
  | invalidUtf8 (location : String)
  deriving DecidableEq, Repr

namespace ReadError

def location : ReadError → String
  | notFound l | io l _ | invalidUtf8 l => l

/-- What the system said, where it said something. -/
def cause? : ReadError → Option IoFault
  | io _ cause => some cause
  | _ => none

def message : ReadError → String
  | notFound l => s!"Shader source '{l}' not found"
  | io l cause => s!"Failed to read shader source '{l}': {cause.message}"
  | invalidUtf8 l => s!"Shader source '{l}' is not valid UTF-8"

end ReadError

/-- What an attempt to read gave is compared by its text or its error. -/
instance decidableEqRead : DecidableEq (Except ReadError String)
  | .ok a, .ok b => decidable_of_iff (a = b) ⟨congrArg _, Except.ok.inj⟩
  | .error a, .error b => decidable_of_iff (a = b) ⟨congrArg _, Except.error.inj⟩
  | .ok _, .error _ => isFalse nofun
  | .error _, .ok _ => isFalse nofun

def decodeText (location : String) (bytes : ByteArray) : Except ReadError String :=
  match String.fromUTF8? bytes with
  | some text => .ok text
  | none => .error (.invalidUtf8 location)

/-- What can stand in a memory in front of a name's text. -/
inductive Cover
  | bytes (bytes : ByteArray)
  | fault (fault : IoFault)
  deriving DecidableEq

/-- Texts by name.  A cover hides the text of its name until the name is written or removed. -/
structure MemoryFiles where
  texts : Table String String := ∅
  covers : Table String Cover := ∅

namespace MemoryFiles

def read (m : MemoryFiles) (name : String) : Except ReadError String :=
  match m.covers.get? name with
  | some (.bytes bytes) => decodeText name bytes
  | some (.fault fault) => .error (.io name fault)
  | none =>
    match m.texts.get? name with
    | some text => .ok text
    | none => .error (.notFound name)

def write (m : MemoryFiles) (name text : String) : MemoryFiles :=
  ⟨m.texts.insert name text, m.covers.erase name⟩

def cover (m : MemoryFiles) (name : String) (c : Cover) : MemoryFiles :=
  { m with covers := m.covers.insert name c }

def remove (m : MemoryFiles) (name : String) : MemoryFiles :=
  ⟨m.texts.erase name, m.covers.erase name⟩

end MemoryFiles

inductive Storage
  | memory (files : MemoryFiles)
  | folder (disk : Disk) (root : OsPath)

namespace Storage

def resolvedFolder : String := "resolved"

def compiledFolder : String := "compiled"

def sourceLocation (s : Storage) (file : String) : String :=
  match s with
  | memory _ => file
  | folder _ root => (root.push file).text

/-- Where something of a file's lies that is kept in a folder of its own. -/
def cacheLocation (s : Storage) (cache file : String) : String :=
  match s with
  | memory _ => s!"{cache}/{file}"
  | folder _ root => ((root.push cache).push file).text

def resolvedLocation (s : Storage) (file : String) : String := s.cacheLocation resolvedFolder file

def compiledLocation (s : Storage) (file : String) : String := s.cacheLocation compiledFolder file

def readDisk (disk : Disk) (location : String) : Except ReadError String :=
  match disk.read location with
  | .ok bytes => decodeText location bytes
  | .error .notFound => .error (.notFound location)
  | .error fault => .error (.io location fault)

def read (s : Storage) (file : String) : Except ReadError String :=
  match s with
  | memory files => files.read file
  | folder disk root => readDisk disk (root.push file).text

/-- Every text that the storage holds, under whatever name. -/
def texts : Storage → List String
  | memory files =>
    files.texts.values ++ files.covers.values.filterMap fun
      | .bytes bytes => String.fromUTF8? bytes
      | .fault _ => none
  | folder disk _ => disk.entries.values.filterMap fun
      | .file bytes => String.fromUTF8? bytes
      | .folder => none

theorem fromUTF8?_of_decodeText {location : String} {bytes : ByteArray} {text : String}
    (h : decodeText location bytes = .ok text) : String.fromUTF8? bytes = some text := by
  simp only [decodeText] at h
  split at h
  · cases h; assumption
  · cases h

theorem mem_texts_of_read {s : Storage} {file text : String} (h : s.read file = .ok text) :
    text ∈ s.texts := by
  cases s with
  | memory files =>
    simp only [read, MemoryFiles.read] at h
    simp only [texts, List.mem_append, List.mem_filterMap]
    split at h
    · rename_i bytes hc
      exact .inr ⟨_, Table.mem_values_of_get? hc, fromUTF8?_of_decodeText h⟩
    · cases h
    · split at h
      · rename_i t ht
        cases h
        exact .inl (Table.mem_values_of_get? ht)
      · cases h
  | folder disk root =>
    simp only [read, readDisk] at h
    split at h
    · rename_i bytes hb
      exact List.mem_filterMap.2
        ⟨_, Disk.mem_values_of_read hb, fromUTF8?_of_decodeText h⟩
    · cases h
    · cases h

end Storage

end ShaderDepot
