import ShaderDepot.Device.Compiler
import ShaderDepot.Table
import ShaderDepot.Text.Quoted
import ShaderDepot.Traced

/-!
# A graphics device

A device that keeps its objects in tables instead of on hardware.  Programs and pipelines are known by
numbers of 32 bits that count up from one with the requests for them.  The last number is not given out;
after it the counter wraps around, and an object replaces the one that has its number.  A request may be
refused in front of the device, and then takes no number, or by the device itself.  Every call that does
reach a table is an event.
-/

namespace ShaderDepot

namespace Device

structure ProgramObject where
  stage : Stage
  source : String
  result : CompileResult
  /-- The values written so far, by location. -/
  values : Table UniformLocation UniformValue := ∅
  deriving DecidableEq

/-- What the compiler makes of a text, before any value is written. -/
def ProgramObject.make (stage : Stage) (source : String) : ProgramObject where
  stage := stage
  source := source
  result := Compiler.compile stage source

/-- The program attached to each stage of a pipeline. -/
structure PipelineObject where
  stages : Table Stage ProgramHandle := ∅
  deriving DecidableEq

end Device

structure Device where
  style : LogStyle
  programs : Table ProgramHandle Device.ProgramObject := ∅
  pipelines : Table PipelineHandle Device.PipelineObject := ∅
  labels : Table LabelTarget String := ∅
  bound : Option PipelineHandle := none
  /-- How many requests for programs have taken a number. -/
  programRequests : Nat := 0
  /-- How many requests for pipelines have taken a number. -/
  pipelineRequests : Nat := 0
  /-- Whether the lock in front of the tables is poisoned, for good; only who makes objects minds it. -/
  poisoned : Bool := false
  /-- What keeps requests for programs from the device now. -/
  programFault : Option DeviceError := none
  /-- What keeps requests for pipelines from the device now. -/
  pipelineFault : Option DeviceError := none
  /-- What becomes of the next requests for programs, in turn; then `programFault` counts. -/
  programOutlook : List (Option DeviceError) := []
  /-- What becomes of the next requests for pipelines, in turn; then `pipelineFault` counts. -/
  pipelineOutlook : List (Option DeviceError) := []
  /-- How many requests for programs were refused. -/
  refusedPrograms : Nat := 0
  /-- What the compiler made of every program so far, deleted ones among them. -/
  archive : Table ProgramHandle CompileResult := ∅

abbrev DeviceM := StateT Device Traced

namespace DeviceM

def report (d : Diagnostic) : DeviceM Unit := fun device => do
  Traced.report d
  return ((), device)

def note (r : LogRecord) : DeviceM Unit := fun device => do
  Traced.note r
  return ((), device)

/-- A computation that leaves the device alone. -/
def ofTraced {α : Type} (x : Traced α) : DeviceM α := fun device => do return (← x, device)

end DeviceM

namespace Device

def create (style : LogStyle) : Device := { style }

/-! ## Numbers -/

/-- How many requests for objects of a kind have taken a number. -/
def requests (d : Device) : ObjectKind → Nat
  | .program => d.programRequests
  | .pipeline => d.pipelineRequests

/-- The number that the next request takes after some requests. -/
def numberAfter (requests : Nat) : UInt32 := .ofNat (requests + 1)

def exhausted (kind : ObjectKind) : DeviceError := .creationFailed s!"{kind.name} handles exhausted"

def poisonedLock : DeviceError :=
  .backend "Failed to lock HeadlessDevice state: poisoned lock: another task failed inside"

/-- Why the device refuses the next request for an object of a kind, which takes a number all the same. -/
def failure? (d : Device) (kind : ObjectKind) : Option DeviceError :=
  if numberAfter (d.requests kind) = .ofNat (UInt32.size - 1) then some (exhausted kind)
  else if d.poisoned then some poisonedLock
  else none

/-- A call that reaches the device, and what it does there. -/
def call (c : DeviceCall) (f : Device → Device) : DeviceM Unit := fun device => do
  Traced.calling c
  return ((), f device)

def record (level : LogLevel) (message : String) : LogRecord :=
  ⟨level, .device, "HeadlessDevice: " ++ message⟩

/-! ## Programs -/

def isLinked (d : Device) (h : ProgramHandle) : Bool :=
  (d.programs.get? h).any (·.result.linked)

def infoLog (d : Device) (h : ProgramHandle) : String :=
  ((d.programs.get? h).map (·.result.log d.style)).getD ""

def workGroup (d : Device) (h : ProgramHandle) : Extent :=
  match d.programs.get? h with
  | some p => if p.stage = .compute then p.result.workGroup else .zero
  | none => .zero

def location? (d : Device) (h : ProgramHandle) (name : String) : Option UniformLocation :=
  (d.programs.get? h).bind (·.result.location? name)

def source? (d : Device) (h : ProgramHandle) : Option String := (d.programs.get? h).map (·.source)

/-- The value last written to an active uniform. -/
def value? (d : Device) (h : ProgramHandle) (name : String) : Option UniformValue := do
  let p ← d.programs.get? h
  p.values.get? (← p.result.location? name)

def creationRecord (stage : Stage) (h : ProgramHandle) (label : Option String) : LogRecord :=
  let label := match label with
    | some label => s!"Some({Text.quote label})"
    | none => "None"
  record .trace s!"Created {stage.name} program {h.display} (label: {label})"

/-- What keeps the next request for a program from the device. -/
def programObstacle? (d : Device) : Option DeviceError := d.programOutlook.headD d.programFault

/-- Why the next request for a program is refused, if it is. -/
def programRefusal? (d : Device) : Option DeviceError :=
  d.programObstacle?.or (d.failure? .program)

/-- The device after a request for a program was refused.  One that reached it has taken a number. -/
def refuseProgram (d : Device) : Device :=
  { d with
    programOutlook := d.programOutlook.tail
    programRequests := if d.programObstacle?.isSome then d.programRequests else d.programRequests + 1
    refusedPrograms := d.refusedPrograms + 1 }

def nextProgramHandle (d : Device) : ProgramHandle := ⟨(numberAfter d.programRequests).toNat⟩

def addProgram (d : Device) (stage : Stage) (source : String) : Device :=
  let program := ProgramObject.make stage source
  { d with
    programOutlook := d.programOutlook.tail
    programs := d.programs.insert d.nextProgramHandle program
    archive := d.archive.insert d.nextProgramHandle program.result
    programRequests := d.programRequests + 1 }

/-- Compiles a text into a new program.  One that does not link gets a handle too. -/
def createProgram (stage : Stage) (source : String) (label : Option String) :
    DeviceM (Except DeviceError ProgramHandle) := fun d =>
  match d.programRefusal? with
  | some fault => pure (.error fault, d.refuseProgram)
  | none =>
    let h := d.nextProgramHandle
    ⟨(.ok h, d.addProgram stage source),
      [.call (.createProgram h stage), .log (creationRecord stage h label)]⟩

def askLocation (h : ProgramHandle) (name : String) : DeviceM (Option UniformLocation) := fun d =>
  ⟨(d.location? h name, d), [.call (.uniformLocation h name)]⟩

def store (d : Device) (h : ProgramHandle) (p : ProgramObject) (location : UniformLocation)
    (value : UniformValue) : Device :=
  { d with programs := d.programs.insert h { p with values := p.values.insert location value } }

/-- Writes a value to a location of a program that linked. -/
def setUniform (h : ProgramHandle) (location : UniformLocation) (value : UniformValue) :
    DeviceM Unit := fun d =>
  let call := Event.call (.setUniform h location value)
  match (d.programs.get? h).filter (·.result.linked) with
  | some p => ⟨((), d.store h p location value), [call]⟩
  | none =>
    ⟨((), d), [call, .log (record .warn s!"set_uniform on unusable program {h.display}")]⟩

def bindUniformBlock (h : ProgramHandle) (block : String) (binding : Nat) : DeviceM Unit :=
  call (.bindUniformBlock h block binding) id

def bindStorageBlock (h : ProgramHandle) (block : String) (binding : Nat) : DeviceM Unit :=
  call (.bindStorageBlock h block binding) id

def dropProgram (d : Device) (h : ProgramHandle) : Device :=
  { d with
    programs := d.programs.erase h
    labels := d.labels.erase (.program h) }

def deleteProgram (h : ProgramHandle) : DeviceM Unit := fun d =>
  let call := Event.call (.deleteProgram h)
  if d.programs.contains h then
    ⟨((), d.dropProgram h), [call, .log (record .trace s!"Destroyed program {h.display}")]⟩
  else ⟨((), d), [call, .log (record .warn s!"delete_program on unknown program {h.display}")]⟩

/-! ## Pipelines -/

def attached? (d : Device) (h : PipelineHandle) (stage : Stage) : Option ProgramHandle :=
  (d.pipelines.get? h).bind (·.stages.get? stage)

def pipelineObstacle? (d : Device) : Option DeviceError := d.pipelineOutlook.headD d.pipelineFault

def pipelineRefusal? (d : Device) : Option DeviceError :=
  d.pipelineObstacle?.or (d.failure? .pipeline)

def refusePipeline (d : Device) : Device :=
  { d with
    pipelineOutlook := d.pipelineOutlook.tail
    pipelineRequests :=
      if d.pipelineObstacle?.isSome then d.pipelineRequests else d.pipelineRequests + 1 }

def nextPipelineHandle (d : Device) : PipelineHandle := ⟨(numberAfter d.pipelineRequests).toNat⟩

def addPipeline (d : Device) : Device :=
  { d with
    pipelineOutlook := d.pipelineOutlook.tail
    pipelines := d.pipelines.insert d.nextPipelineHandle {}
    pipelineRequests := d.pipelineRequests + 1 }

def createPipeline : DeviceM (Except DeviceError PipelineHandle) := fun d =>
  match d.pipelineRefusal? with
  | some fault => pure (.error fault, d.refusePipeline)
  | none => ⟨(.ok d.nextPipelineHandle, d.addPipeline), [.call (.createPipeline d.nextPipelineHandle)]⟩

/-- The device with a program attached to a stage of a pipeline, if it knows the pipeline. -/
def attach (d : Device) (h : PipelineHandle) (stage : Stage) (program : ProgramHandle) : Device :=
  match d.pipelines.get? h with
  | some p => { d with pipelines := d.pipelines.insert h ⟨p.stages.insert stage program⟩ }
  | none => d

def attachStage (h : PipelineHandle) (stage : Stage) (program : ProgramHandle) : DeviceM Unit :=
  call (.attachStage h stage program) (·.attach h stage program)

/-- Makes a pipeline current, known to the device or not. -/
def bindPipeline (h : PipelineHandle) : DeviceM Unit :=
  call (.bindPipeline h) fun d => { d with bound := some h }

/-- The device without a pipeline and its label; the pipeline then is not current. -/
def dropPipeline (d : Device) (h : PipelineHandle) : Device :=
  { d with
    pipelines := d.pipelines.erase h
    labels := d.labels.erase (.pipeline h)
    bound := if d.bound = some h then none else d.bound }

def deletePipeline (h : PipelineHandle) : DeviceM Unit := fun d =>
  ⟨((), d.dropPipeline h),
    [.call (.deletePipeline h), .log (record .trace s!"Destroyed pipeline {h.display}")]⟩

def dispatchCompute (groups : Extent) : DeviceM Unit := call (.dispatchCompute groups) id

def setLabel (target : LabelTarget) (label : String) : DeviceM Unit :=
  call (.setLabel target label) fun d => { d with labels := d.labels.insert target label }

end Device

end ShaderDepot
