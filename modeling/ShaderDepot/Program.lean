import ShaderDepot.Device
import ShaderDepot.CompileUnit

/-!
# Programs

A program is compiled for one stage from one entry file with some definitions, and again whenever a
file it is made of changes.  What is set on it stays with it: each program object that it gets is given
the values and bindings set so far, and while it has none, setting only remembers.
-/

namespace ShaderDepot

structure ProgramId where
  index : Nat
  deriving DecidableEq, Repr, Inhabited

def ProgramId.display (id : ProgramId) : String := s!"program#{id.index}"

/-- What a program is asked for by.  The order of the definitions counts. -/
structure ProgramKey where
  path : String
  stage : Stage
  defines : List Define
  deriving DecidableEq, Repr, Inhabited

def ProgramKey.display (k : ProgramKey) : String :=
  let base := s!"{k.path} ({k.stage.name})"
  match k.defines with
  | [] => base
  | defines => base ++ " [" ++ ", ".intercalate (defines.map Define.display) ++ "]"

/-- Where a program is in its compile cycle. -/
inductive Build
  | uncompiled
  | compiling
  | valid
  | invalid
  deriving DecidableEq, Repr

def Build.name : Build → String
  | uncompiled => "Uncompiled"
  | compiling => "Compiling"
  | valid => "Valid"
  | invalid => "Invalid"

structure Program where
  key : ProgramKey
  entry : FileId
  handle? : Option ProgramHandle := none
  build : Build := .uncompiled
  /-- The size of the work groups of a valid compute program; otherwise zero. -/
  workGroup : Extent := .zero
  /-- The values last set, by uniform. -/
  uniforms : Table String UniformValue := ∅
  /-- The locations asked for since the last successful compile, absent ones among them. -/
  locations : Table String (Option UniformLocation) := ∅
  /-- The bindings last set of uniform blocks. -/
  uniformBlocks : Table String Nat := ∅
  /-- The bindings last set of storage blocks. -/
  storageBlocks : Table String Nat := ∅
  compileCount : Nat := 0
  deriving DecidableEq, Repr

namespace Program

def isValid (p : Program) : Bool := p.build = .valid

def usable? (p : Program) : Option ProgramHandle := p.handle?.filter fun _ => p.isValid

def record (level : LogLevel) (message : String) : LogRecord := ⟨level, .program, message⟩

/-- Gives the program's object, if it has one, back to the device. -/
def release (p : Program) : DeviceM Program := do
  if let some h := p.handle? then Device.deleteProgram h
  return { p with handle? := none }

/-- Gives up the program's object for good.  What was set on the program stays. -/
def dispose (p : Program) : DeviceM Program := do
  return { ← p.release with build := .uncompiled }

/-- The location of a uniform of a valid program; the device is asked once for each name. -/
def location (p : Program) (name : String) : DeviceM (Option UniformLocation × Program) := do
  match p.usable? with
  | none => return (none, p)
  | some h =>
    match p.locations.get? name with
    | some known => return (known, p)
    | none =>
      let found ← Device.askLocation h name
      return (found, { p with locations := p.locations.insert name found })

/-- Hands a value to an object, if the uniform is active; otherwise that is noted. -/
def forward (p : Program) (h : ProgramHandle) (name : String) (value : UniformValue)
    (inactive : LogRecord) : DeviceM Program := do
  let (location, p) ← p.location name
  match location with
  | some location => Device.setUniform h location value
  | none => DeviceM.note inactive
  return p

def keptRecord (k : ProgramKey) (name : String) (value : UniformValue) : LogRecord :=
  record .trace
    s!"{k.display}: uniform {value.typeName} {name} is not active, kept for later compiles"

def inactiveRecord (k : ProgramKey) (name : String) (value : UniformValue) : LogRecord :=
  record .trace s!"{k.display}: no active uniform {value.typeName} {name}"

def byName {α : Type} (t : Table String α) : List (String × α) :=
  t.entries.mergeSort fun a b => (compare a.1 b.1).isLE

/-- Gives a new object all that was set on the program, in the order of the names. -/
def replay (p : Program) (h : ProgramHandle) : DeviceM Program := do
  -- Locations of an earlier object mean nothing for this one.
  let p ← (byName p.uniforms).foldlM
    (fun p (name, value) => p.forward h name value (keptRecord p.key name value))
    { p with locations := ∅ }
  (byName p.uniformBlocks).forM fun (block, n) => Device.bindUniformBlock h block n
  (byName p.storageBlocks).forM fun (block, n) => Device.bindStorageBlock h block n
  return p

/-- What a compile does first: the program loses its object. -/
def retire (p : Program) : DeviceM Program :=
  { p with
    build := .compiling
    compileCount := p.compileCount + 1
    workGroup := .zero }.release

def adopt (p : Program) (h : ProgramHandle) (workGroup : Extent) : Program :=
  { p with
    handle? := some h
    build := .valid
    workGroup := if p.key.stage = .compute then workGroup else .zero }

/-- Compiles a unit into a new object.  Without one the program is invalid, and the author learns
why. -/
def compile (p : Program) (unit : CompileUnit) (listOnError : Bool) : DeviceM Program := do
  let p ← p.retire
  match ← Device.createProgram p.key.stage unit.text (some p.key.path) with
  | .error cause =>
    DeviceM.report (.creationFailed p.key.stage p.key.path cause)
    return { p with build := .invalid }
  | .ok h =>
    let device ← get
    if device.isLinked h then
      Device.setLabel (.program h) p.key.path
      let p ← (p.adopt h (device.workGroup h)).replay h
      DeviceM.note (record .debug s!"Compiled {p.key.display}")
      return p
    else
      -- The log was taken before the object goes.
      Device.deleteProgram h
      DeviceM.report
        (.compileFailed p.key.stage p.key.path (unit.localizeLog (device.infoLog h)))
      if listOnError then DeviceM.report (.listing unit.listing)
      return { p with build := .invalid }

/-- Sets a uniform.  The device hears of it if the program is valid and the value is another than
before. -/
def setUniform (p : Program) (name : String) (value : UniformValue) : DeviceM Program := do
  let previous := p.uniforms.get? name
  -- The value is kept in any case, for objects to come.
  let p := { p with uniforms := p.uniforms.insert name value }
  if previous.any (·.equal value) then return p
  match p.usable? with
  | some h => p.forward h name value (inactiveRecord p.key name value)
  | none => return p

def bindUniformBlock (p : Program) (block : String) (binding : Nat) : DeviceM Program := do
  if let some h := p.usable? then Device.bindUniformBlock h block binding
  return { p with uniformBlocks := p.uniformBlocks.insert block binding }

def bindStorageBlock (p : Program) (block : String) (binding : Nat) : DeviceM Program := do
  if let some h := p.usable? then Device.bindStorageBlock h block binding
  return { p with storageBlocks := p.storageBlocks.insert block binding }

end Program

end ShaderDepot
