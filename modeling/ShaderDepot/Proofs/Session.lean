import ShaderDepot.Depot
import ShaderDepot.Proofs.Device.Journal

/-!
# Sessions

A session is a depot that is the only user of its device, over a storage that others may change at any
time.  Between two requests the files may become any others, told of or not, and any of the next objects
may be made to be refused, by the device or in front of it.
-/

namespace ShaderDepot

inductive Request
  | source (path : String)
  | program (path : String) (stage : Stage) (defines : List Define)
  | resolve (id : ProgramId)
  | location (id : ProgramId) (name : String)
  | setUniform (id : ProgramId) (name : String) (value : UniformValue)
  | bindUniformBlock (id : ProgramId) (block : String) (binding : Nat)
  | bindStorageBlock (id : ProgramId) (block : String) (binding : Nat)
  | pipeline (slots : StageSlots)
  | bind (id : PipelineId)
  | invalidate
  | dispatchGroups (groups : Extent)
  | dispatchThreads (threads : Extent)
  | notify (path : String)
  | watch (disk : Disk) (root : String)
  | unwatch
  | update

def Request.run (s : Storage) (r : Depot) : Request → DeviceM Depot
  | .source path => (·.2) <$> r.source s path
  | .program path stage defines => (·.2) <$> r.program s path stage defines
  | .resolve id => (fun _ => r) <$> DeviceM.ofTraced (r.resolve id)
  | .location id name => (·.2) <$> r.location id name
  | .setUniform id name value => (·.2) <$> r.setUniform id name value
  | .bindUniformBlock id block binding => (·.2) <$> r.bindUniformBlock id block binding
  | .bindStorageBlock id block binding => (·.2) <$> r.bindStorageBlock id block binding
  | .pipeline slots => (·.2) <$> DeviceM.ofTraced (r.pipeline slots)
  | .bind id => (·.2) <$> r.bind id
  | .invalidate => pure r.invalidate
  | .dispatchGroups groups => (fun _ => r) <$> r.dispatchGroups groups
  | .dispatchThreads threads => (fun _ => r) <$> r.dispatchThreads threads
  | .notify path => pure (r.notify path).2
  | .watch disk root => (·.2) <$> DeviceM.ofTraced (r.watch disk root)
  | .unwatch => pure r.unwatch
  | .update => (·.2) <$> r.update s

structure Session where
  storage : Storage
  depot : Depot
  journal : Journal

namespace Session

def device (σ : Session) : Device := σ.journal.device

/-- What keeps a device from making objects. -/
structure Obstacles where
  /-- What becomes of the next requests for programs, in turn; then `programFault` counts. -/
  programs : List (Option DeviceError) := []
  /-- What becomes of the next requests for pipelines, in turn; then `pipelineFault` counts. -/
  pipelines : List (Option DeviceError) := []
  programFault : Option DeviceError := none
  pipelineFault : Option DeviceError := none
  /-- Whether someone poisons the lock now.  There is no cure for that. -/
  poisoned : Bool := false

end Session

def Device.obstruct (d : Device) (o : Session.Obstacles) : Device :=
  { d with
    programOutlook := o.programs
    pipelineOutlook := o.pipelines
    programFault := o.programFault
    pipelineFault := o.pipelineFault
    poisoned := d.poisoned || o.poisoned }

def Journal.obstruct (j : Journal) (o : Session.Obstacles) : Journal := ⟨j.device.obstruct o, j.calls⟩

namespace Session

/-- A new depot on a new device. -/
def start (settings : Settings) (storage : Storage) (style : LogStyle) : Session :=
  ⟨storage, .create settings, ⟨.create style, []⟩⟩

@[simp] theorem storage_start (settings : Settings) (storage : Storage) (style : LogStyle) :
    (start settings storage style).storage = storage := rfl

inductive Action
  /-- The files become others. -/
  | edit (storage : Storage)
  /-- It is settled which of the next objects are refused, and what comes after these. -/
  | obstruct (obstacles : Obstacles)
  | ask (request : Request)

def step (σ : Session) : Action → Session
  | .edit storage => { σ with storage }
  | .obstruct obstacles => { σ with journal := σ.journal.obstruct obstacles }
  | .ask request =>
    let (depot, journal) := (request.run σ.storage σ.depot).play σ.journal
    { σ with depot, journal }

@[simp] theorem depot_step_ask (σ : Session) (request : Request) :
    (σ.step (.ask request)).depot = ((request.run σ.storage σ.depot).play σ.journal).1 := rfl

@[simp] theorem journal_step_ask (σ : Session) (request : Request) :
    (σ.step (.ask request)).journal = ((request.run σ.storage σ.depot).play σ.journal).2 := rfl

def run (σ : Session) (actions : List Action) : Session := actions.foldl step σ

/-- What the device has recorded when the depot is gone. -/
def close (σ : Session) : Journal := (σ.depot.dispose.play σ.journal).2

/-- The states of sessions between two things that happen. -/
inductive Reachable : Session → Prop
  | start (settings : Settings) (storage : Storage) (style : LogStyle) :
    Reachable (.start settings storage style)
  | step {σ : Session} (action : Action) : Reachable σ → Reachable (σ.step action)

theorem Reachable.run {σ : Session} (h : Reachable σ) (actions : List Action) :
    Reachable (σ.run actions) := by
  induction actions generalizing σ with
  | nil => exact h
  | cons action actions ih => exact ih (h.step action)

/-! ## A small session -/

def sampleFiles (text : String) : Storage := .memory { texts := ⟨[("a.comp", text)]⟩ }

/-- The shader is compiled, used and bound. -/
def sample : Session :=
  (start {} (sampleFiles "#version 430\nuniform int size;\n") .labeled).run
    [.ask (.program "a.comp" .compute []), .ask (.setUniform ⟨0⟩ "size" (.int .one #v[7])),
      .ask (.pipeline (.compute ⟨0⟩)), .ask (.bind ⟨0⟩)]

/-- The shader is compiled, its file becomes another, and the depot is told of it. -/
def editedSample : Session :=
  (start {} (sampleFiles "#version 430\n") .labeled).run
    [.ask (.program "a.comp" .compute []), .edit (sampleFiles "#version 460\n"),
      .ask (.notify "./a.comp")]

theorem reachable_sample : Reachable sample := .run (.start ..) _

theorem reachable_editedSample : Reachable editedSample := .run (.start ..) _

end Session

end ShaderDepot
