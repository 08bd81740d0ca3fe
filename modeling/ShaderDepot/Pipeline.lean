import ShaderDepot.Program

/-!
# Pipelines

A pipeline joins programs, at most one for each stage.  Its device object is made when it is first
bound, and made anew when it is bound after one of its programs was compiled again.
-/

namespace ShaderDepot

structure PipelineId where
  index : Nat
  deriving DecidableEq, Repr, Inhabited

def PipelineId.display (id : PipelineId) : String := s!"pipeline#{id.index}"

/-- The programs of a pipeline, one slot for each stage. -/
structure StageSlots where
  slots : Vector (Option ProgramId) 6 := Vector.replicate 6 none
  deriving DecidableEq, Repr

namespace StageSlots

def empty : StageSlots := {}

def get? (s : StageSlots) (stage : Stage) : Option ProgramId := s.slots[stage.slot]

def insert (s : StageSlots) (stage : Stage) (program : ProgramId) : StageSlots :=
  ⟨s.slots.set stage.slot (some program)⟩

def graphics (vertex fragment : ProgramId) : StageSlots :=
  (empty.insert .vertex vertex).insert .fragment fragment

def compute (program : ProgramId) : StageSlots := empty.insert .compute program

/-- The filled slots, in stage order. -/
def filled (s : StageSlots) : List (Stage × ProgramId) :=
  Stage.all.filterMap fun stage => (s.get? stage).map (stage, ·)

def isEmpty (s : StageSlots) : Bool := s.filled.isEmpty

def contains (s : StageSlots) (program : ProgramId) : Bool := s.filled.any (·.2 == program)

@[simp] theorem get?_insert (s : StageSlots) (a b : Stage) (p : ProgramId) :
    (s.insert a p).get? b = if a = b then some p else s.get? b := by
  simp only [insert, get?, Fin.getElem_fin, Vector.getElem_set]
  by_cases h : a = b
  · simp [h]
  · have : (a.slot : Nat) ≠ b.slot := fun e => h (Stage.slot_injective (Fin.ext e))
    simp [h, this]

end StageSlots

structure Assembly where
  handle? : Option PipelineHandle := none
  /-- Whether the object has to be made before the next use. -/
  dirty : Bool := true
  deriving DecidableEq, Repr

structure Pipeline where
  slots : StageSlots
  assembly : Assembly := {}
  /-- How often the device object was made. -/
  buildCount : Nat := 0
  deriving DecidableEq, Repr

namespace Pipeline

def handle? (p : Pipeline) : Option PipelineHandle := p.assembly.handle?

def isDirty (p : Pipeline) : Bool := p.assembly.dirty

def spoil (p : Pipeline) : Pipeline := { p with assembly := { p.assembly with dirty := true } }

/-- Gives the pipeline's object, if it has one, back to the device. -/
def release (p : Pipeline) : DeviceM Pipeline := do
  if let some h := p.handle? then Device.deletePipeline h
  return { p with assembly := { p.assembly with handle? := none } }

/-- Gives up the pipeline's object for good. -/
def dispose (p : Pipeline) : DeviceM Pipeline := do return (← p.release).spoil

def skipRecord (stage : Stage) (path : String) : LogRecord :=
  ⟨.debug, .pipeline, s!"Skipping invalid {stage.name} stage {path} of pipeline"⟩

/-- Attaches a program's object to a stage; a stage without a valid program stays empty. -/
def attach (h : PipelineHandle) (stage : Stage) (program : Program) : DeviceM Unit :=
  match program.usable? with
  | some p => Device.attachStage h stage p
  | none => DeviceM.note (skipRecord stage program.key.path)

def members (p : Pipeline) (programs : Array Program) : List (Stage × Program) :=
  p.slots.filled.filterMap fun (stage, id) => programs[id.index]?.map (stage, ·)

def label (members : List (Stage × Program)) : String :=
  " + ".intercalate (members.map (·.2.key.path))

/-- Makes the device object anew.  If the device refuses, the pipeline has none. -/
def rebuild (p : Pipeline) (programs : Array Program) :
    DeviceM (Except DeviceError PipelineHandle × Pipeline) := do
  let p ← p.release
  match ← Device.createPipeline with
  -- It stays as dirty as it was, so the next use tries again.
  | .error cause => return (.error cause, p)
  | .ok h =>
    let members := p.members programs
    members.forM fun (stage, program) => attach h stage program
    Device.setLabel (.pipeline h) (label members)
    return (.ok h, { p with assembly := ⟨some h, false⟩, buildCount := p.buildCount + 1 })

end Pipeline

end ShaderDepot
