import ShaderDepot.ChangeQueue
import ShaderDepot.IncludeGraph.Load
import ShaderDepot.Pipeline
import ShaderDepot.Settings
import ShaderDepot.Watch

/-!
# The depot

A depot owns the include graph, the programs and the pipelines of one device.  Equal requests share one
program or pipeline.  When files change, the files are read again, the programs made of them are
compiled again, and the pipelines of these programs are made anew when they are next bound.
-/

namespace ShaderDepot

structure Depot where
  settings : Settings
  graph : IncludeGraph
  programs : Array Program := #[]
  /-- The programs by what they are asked for by. -/
  keyIndex : Table ProgramKey ProgramId := ∅
  /-- The programs that start from each file. -/
  usages : Table FileId (List ProgramId) := ∅
  pipelines : Array Pipeline := #[]
  slotsIndex : Table StageSlots PipelineId := ∅
  /-- The pipelines that hold each program. -/
  dependents : Table ProgramId (List PipelineId) := ∅
  /-- The pipeline bound last, while that is known. -/
  bound : Option PipelineId := none
  changes : ChangeQueue := .empty
  watched : Option String := none
  compilations : Nat := 0
  /-- How often a compile left a program invalid. -/
  failures : Nat := 0
  deriving DecidableEq, Repr

inductive DepotError
  | unknownProgram (id : ProgramId)
  | unknownPipeline (id : PipelineId)
  | stageMismatch (program : ProgramId) (slot actual : Stage)
  | emptyPipeline
  | device (cause : DeviceError)
  | watch (cause : MissingFolder)
  deriving DecidableEq, Repr

def DepotError.message : DepotError → String
  | unknownProgram id => s!"unknown program {id.display}"
  | unknownPipeline id => s!"unknown pipeline {id.display}"
  | stageMismatch program slot actual =>
    s!"program {program.display} is a {actual.name} program but was placed in the {slot.name} slot"
  | emptyPipeline => "pipeline descriptor has no stages"
  | device cause => cause.message
  | watch cause => cause.message

structure DepotStats where
  sources : Nat
  programs : Nat
  pipelines : Nat
  compilations : Nat
  failures : Nat
  deriving DecidableEq, Repr

def DepotStats.display (s : DepotStats) : String :=
  s!"{s.sources} sources, {s.programs} programs, {s.pipelines} pipelines, " ++
    s!"{s.compilations} compilations ({s.failures} failed)"

namespace Depot

def create (settings : Settings) : Depot where
  settings := settings
  graph := { defaultVersion := settings.defaultVersion }

def record (level : LogLevel) (message : String) : LogRecord := ⟨level, .depot, message⟩

def stats (r : Depot) : DepotStats where
  sources := r.graph.size
  programs := r.programs.size
  pipelines := r.pipelines.size
  compilations := r.compilations
  failures := r.failures

/-! ## Programs -/

def program? (r : Depot) (id : ProgramId) : Option Program := r.programs[id.index]?

def findKey? (r : Depot) (key : ProgramKey) : Option ProgramId := r.keyIndex.get? key

def usersOf (r : Depot) (id : FileId) : List ProgramId := (r.usages.get? id).getD []

def dependentsOf (r : Depot) (id : ProgramId) : List PipelineId := (r.dependents.get? id).getD []

/-- The key of a request: paths that name one file are one path. -/
def keyOf (path : String) (stage : Stage) (defines : List Define) : ProgramKey :=
  ⟨Path.normalize path, stage, defines⟩

def findProgram? (r : Depot) (path : String) (stage : Stage) (defines : List Define) :
    Option ProgramId :=
  r.findKey? (keyOf path stage defines)

def source (s : Storage) (r : Depot) (path : String) : DeviceM (FileId × Depot) := do
  let (id, graph) ← DeviceM.ofTraced (r.graph.intern s path)
  return (id, { r with graph })

/-- The unit that a program is compiled from, as it would be now. -/
def resolveProgram (r : Depot) (p : Program) : Traced CompileUnit :=
  r.graph.resolve p.entry r.settings.sharedHeader p.key.defines

def resolve (r : Depot) (id : ProgramId) : Traced (Option CompileUnit) :=
  match r.program? id with
  | some p => some <$> r.resolveProgram p
  | none => pure none

def setProgram (r : Depot) (id : ProgramId) (p : Program) : Depot :=
  { r with programs := r.programs.modify id.index fun _ => p }

def compile (r : Depot) (id : ProgramId) : DeviceM Depot := do
  match r.program? id with
  | none => return r
  | some p =>
    let unit ← DeviceM.ofTraced (r.resolveProgram p)
    let p ← p.compile unit r.settings.listOnError
    return { r.setProgram id p with
      compilations := r.compilations + 1
      failures := if p.isValid then r.failures else r.failures + 1 }

/-- Gives a program that was not compiled yet its place. -/
def addProgram (r : Depot) (key : ProgramKey) (entry : FileId) : Depot :=
  let id : ProgramId := ⟨r.programs.size⟩
  { r with
    programs := r.programs.push { key, entry }
    keyIndex := r.keyIndex.insert key id
    usages := r.usages.insert entry (r.usersOf entry ++ [id]) }

/-- The program of a request, compiled when it is first asked for.  One that does not compile is a
program too. -/
def program (s : Storage) (r : Depot) (path : String) (stage : Stage) (defines : List Define) :
    DeviceM (ProgramId × Depot) := do
  let key := keyOf path stage defines
  match r.findKey? key with
  | some id => return (id, r)
  | none =>
    let (entry, r) ← r.source s key.path
    let id : ProgramId := ⟨r.programs.size⟩
    -- The program has its place first, so one that does not compile is found again and not made anew.
    let r ← (r.addProgram key entry).compile id
    return (id, r)

/-- Uses a program; the answer is missing if there is none with the id. -/
def withProgram {α : Type} (r : Depot) (id : ProgramId) (f : Program → DeviceM (α × Program)) :
    DeviceM (Option α × Depot) := do
  match r.program? id with
  | none => return (none, r)
  | some p =>
    let (a, p) ← f p
    return (some a, r.setProgram id p)

def changeProgram (r : Depot) (id : ProgramId) (f : Program → DeviceM Program) :
    DeviceM (Option Unit × Depot) :=
  r.withProgram id fun p => do return ((), ← f p)

def setUniform (r : Depot) (id : ProgramId) (name : String) (value : UniformValue) :
    DeviceM (Option Unit × Depot) :=
  r.changeProgram id (·.setUniform name value)

def location (r : Depot) (id : ProgramId) (name : String) :
    DeviceM (Option (Option UniformLocation) × Depot) :=
  r.withProgram id (·.location name)

def bindUniformBlock (r : Depot) (id : ProgramId) (block : String) (binding : Nat) :
    DeviceM (Option Unit × Depot) :=
  r.changeProgram id (·.bindUniformBlock block binding)

def bindStorageBlock (r : Depot) (id : ProgramId) (block : String) (binding : Nat) :
    DeviceM (Option Unit × Depot) :=
  r.changeProgram id (·.bindStorageBlock block binding)

/-! ## Pipelines -/

def pipeline? (r : Depot) (id : PipelineId) : Option Pipeline := r.pipelines[id.index]?

def slotFault? (r : Depot) (slots : StageSlots) : Option DepotError :=
  if slots.isEmpty then some .emptyPipeline
  else slots.filled.findSome? fun (slot, id) =>
    match r.program? id with
    | none => some (.unknownProgram id)
    | some p => if p.key.stage = slot then none else some (.stageMismatch id slot p.key.stage)

def findSlots? (r : Depot) (slots : StageSlots) : Option PipelineId := r.slotsIndex.get? slots

def addDependent (r : Depot) (program : ProgramId) (pipeline : PipelineId) : Depot :=
  { r with dependents := r.dependents.insert program (r.dependentsOf program ++ [pipeline]) }

def addPipeline (r : Depot) (slots : StageSlots) : Depot :=
  let id : PipelineId := ⟨r.pipelines.size⟩
  slots.filled.foldl (fun r (_, program) => r.addDependent program id) { r with
    pipelines := r.pipelines.push { slots }
    slotsIndex := r.slotsIndex.insert slots id }

def pipeline (r : Depot) (slots : StageSlots) : Traced (Except DepotError PipelineId × Depot) := do
  match r.slotFault? slots with
  | some fault => return (.error fault, r)
  | none =>
    match r.findSlots? slots with
    | some id => return (.ok id, r)
    | none =>
      let id : PipelineId := ⟨r.pipelines.size⟩
      Traced.note
        (record .debug s!"Created {id.display} with {slots.filled.length} stages")
      return (.ok id, r.addPipeline slots)

def setPipeline (r : Depot) (id : PipelineId) (p : Pipeline) : Depot :=
  { r with pipelines := r.pipelines.modify id.index fun _ => p }

def rebind (r : Depot) (id : PipelineId) (p : Pipeline) : DeviceM (Except DepotError Unit × Depot) := do
  let (built, p) ← p.rebuild r.programs
  let r := r.setPipeline id p
  match built with
  | .error cause => return (.error (.device cause), r)
  | .ok h =>
    Device.bindPipeline h
    return (.ok (), { r with bound := some id })

/-- Makes a pipeline current, and its object first if need be.  If it is known to be current, the
device is not bothered. -/
def bind (r : Depot) (id : PipelineId) : DeviceM (Except DepotError Unit × Depot) := do
  match r.pipeline? id with
  | none => return (.error (.unknownPipeline id), r)
  | some p =>
    if p.isDirty then r.rebind id p
    else if r.bound = some id then return (.ok (), r)
    else match p.handle? with
      -- A pipeline that is not dirty has its object, so this does not happen.
      | none => r.rebind id p
      | some h =>
        Device.bindPipeline h
        return (.ok (), { r with bound := some id })

/-- Forgets which pipeline is current, for others may have changed it. -/
def invalidate (r : Depot) : Depot := { r with bound := none }

/-! ## Dispatches -/

/-- The valid compute program of the current pipeline, if that is ready. -/
def boundCompute (r : Depot) : Traced (Option Program) := do
  match r.bound.bind r.pipeline? with
  | none => return none
  | some p =>
    if p.isDirty then
      -- What is attached may be an object of before the reload.
      Traced.note (record .warn
        "Dispatch skipped: the bound pipeline must be rebound after a reload")
      return none
    else return ((p.slots.get? .compute).bind r.program?).filter (·.isValid)

def dispatchGroups (r : Depot) (groups : Extent) : DeviceM Unit := do
  if (← DeviceM.ofTraced r.boundCompute).isSome then Device.dispatchCompute groups

/-- The least number of groups of a size that cover a number of threads. -/
def groupsFor (threads size : Nat) : Nat := (threads + size - 1) / size

/-- Dispatches enough work groups for a number of threads. -/
def dispatchThreads (r : Depot) (threads : Extent) : DeviceM Unit := do
  if let some p ← DeviceM.ofTraced r.boundCompute then
    let size := p.workGroup
    unless size.x = 0 ∨ size.y = 0 ∨ size.z = 0 do
      Device.dispatchCompute ⟨groupsFor threads.x size.x, groupsFor threads.y size.y,
        groupsFor threads.z size.z⟩

/-! ## Changes -/

def notify (r : Depot) (path : String) : Bool × Depot :=
  let (heard, changes) := r.changes.notify path
  (heard, { r with changes })

/-- Starts to watch a folder, in the place of another. -/
def watch (r : Depot) (disk : Disk) (root : String) : Traced (Except DepotError Unit × Depot) := do
  match Watch.check disk root with
  | .error cause => return (.error (.watch cause), r)
  | .ok () =>
    (Watch.startRecords root).forM Traced.note
    return (.ok (), { r with watched := some root })

def unwatch (r : Depot) : Depot := { r with watched := none }

/-- Reads the changed files again that the graph knows, and collects them. -/
def reloadFiles (s : Storage) (g : IncludeGraph) (paths : List String) :
    Traced (IncludeGraph × List FileId) :=
  paths.foldlM (fun (g, seeds) path =>
    match g.find? path with
    | some id => do return (← g.reload s id, seeds ++ [id])
    | none => do
      Traced.note (record .trace s!"Ignoring change to unused shader file {path}")
      return (g, seeds)) (g, [])

def programIds (r : Depot) : List ProgramId := (List.range r.programs.size).map ProgramId.mk

/-- The programs that start from one of the files, each once and in ascending order. -/
def programsFrom (r : Depot) (files : List FileId) : List ProgramId :=
  let found := files.flatMap r.usersOf
  r.programIds.filter (· ∈ found)

def spoilPipeline (r : Depot) (id : PipelineId) : Depot :=
  { r with pipelines := r.pipelines.modify id.index Pipeline.spoil }

def spoilDependents (r : Depot) (id : ProgramId) : Depot :=
  (r.dependentsOf id).foldl spoilPipeline r

def recompile (r : Depot) (id : ProgramId) : DeviceM Depot := do
  return (← r.compile id).spoilDependents id

def reloadRecord (files programs : Nat) : LogRecord :=
  record .info s!"Shader reload: {files} file(s) changed, {programs} program(s) recompiled"

/-- Takes in every change that was told, and counts the programs compiled for it. -/
def update (s : Storage) (r : Depot) : DeviceM (Nat × Depot) := do
  if r.changes.isEmpty then return (0, r)
  let (paths, changes) := r.changes.drain
  let (graph, seeds) ← DeviceM.ofTraced (reloadFiles s r.graph paths)
  let r := { r with graph, changes }
  if seeds.isEmpty then return (0, r)
  -- The new graph is asked who includes a file.  An include that is gone was in a file that was read again
  -- as well, so no program is missed.
  let programs := r.programsFrom (graph.includersClosure seeds)
  let r ← programs.foldlM recompile r
  DeviceM.note (reloadRecord paths.length programs.length)
  return (programs.length, r)

/-! ## The end -/

def dispose (r : Depot) : DeviceM Unit := do
  -- The pipelines go first, for programs are attached to them.
  r.pipelines.toList.forM fun p => discard p.dispose
  r.programs.toList.forM fun p => discard p.dispose
  DeviceM.note (record .debug
    s!"ShaderRepository: Destroyed {r.programs.size} programs and {r.pipelines.size} pipelines")

end Depot

end ShaderDepot
