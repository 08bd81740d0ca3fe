import ShaderDepot.Proofs.Depot.Binding
import ShaderDepot.Proofs.Program.Outcome
import ShaderDepot.Proofs.Program.Replay

/-!
# What takes a number

A device that nothing keeps from making objects (`Device.Willing`) stays one.  Each compile takes the next
number of a program (`Program.willing_compile`) and each new attempt at a pipeline the next number of a
pipeline (`Pipeline.willing_rebuild`), and unless that is the number kept back, an object has it afterwards.
-/

namespace ShaderDepot

open Journal DeviceM

namespace Device

/-- Nothing keeps the device from making objects.  The requests for programs have taken `m` numbers, and
those for pipelines `n`. -/
structure Willing (d : Device) (m n : Nat) : Prop where
  poisoned : d.poisoned = false
  programOutlook : d.programOutlook = []
  programFault : d.programFault = none
  pipelineOutlook : d.pipelineOutlook = []
  pipelineFault : d.pipelineFault = none
  programRequests : d.programRequests = m
  pipelineRequests : d.pipelineRequests = n

/-- A device as it is seen by who looks only at what may keep it from making objects. -/
def besideObjects (d : Device) : Device :=
  { d with programs := ∅, pipelines := ∅, labels := ∅, bound := none, archive := ∅, refusedPrograms := 0 }

variable {d d' : Device} {m n : Nat}

theorem Willing.congr (h : d.Willing m n) (hd : d'.besideObjects = d.besideObjects) : d'.Willing m n where
  poisoned := (congrArg Device.poisoned hd).trans h.poisoned
  programOutlook := (congrArg Device.programOutlook hd).trans h.programOutlook
  programFault := (congrArg Device.programFault hd).trans h.programFault
  pipelineOutlook := (congrArg Device.pipelineOutlook hd).trans h.pipelineOutlook
  pipelineFault := (congrArg Device.pipelineFault hd).trans h.pipelineFault
  programRequests := (congrArg Device.programRequests hd).trans h.programRequests
  pipelineRequests := (congrArg Device.pipelineRequests hd).trans h.pipelineRequests

theorem Willing.programObstacle? (h : d.Willing m n) : d.programObstacle? = none := by
  rw [Device.programObstacle?, h.programOutlook]
  exact h.programFault

theorem Willing.pipelineObstacle? (h : d.Willing m n) : d.pipelineObstacle? = none := by
  rw [Device.pipelineObstacle?, h.pipelineOutlook]
  exact h.pipelineFault

/-- Only the number that is kept back is refused. -/
theorem Willing.programRefusal? (h : d.Willing m n)
    (hm : numberAfter m ≠ .ofNat (UInt32.size - 1)) : d.programRefusal? = none := by
  rw [Device.programRefusal?, h.programObstacle?, Option.none_or, failure?, requests, h.programRequests,
    if_neg hm, h.poisoned]
  rfl

theorem Willing.pipelineRefusal? (h : d.Willing m n)
    (hn : numberAfter n ≠ .ofNat (UInt32.size - 1)) : d.pipelineRefusal? = none := by
  rw [Device.pipelineRefusal?, h.pipelineObstacle?, Option.none_or, failure?, requests, h.pipelineRequests,
    if_neg hn, h.poisoned]
  rfl

theorem Willing.refuseProgram (h : d.Willing m n) : d.refuseProgram.Willing (m + 1) n where
  poisoned := h.poisoned
  programOutlook := by rw [Device.refuseProgram, h.programOutlook]; rfl
  programFault := h.programFault
  pipelineOutlook := h.pipelineOutlook
  pipelineFault := h.pipelineFault
  programRequests := by
    rw [Device.refuseProgram, h.programObstacle?]
    exact congrArg (· + 1) h.programRequests
  pipelineRequests := h.pipelineRequests

theorem Willing.addProgram (h : d.Willing m n) (stage : Stage) (source : String) :
    (d.addProgram stage source).Willing (m + 1) n where
  poisoned := h.poisoned
  programOutlook := by rw [Device.addProgram, h.programOutlook]; rfl
  programFault := h.programFault
  pipelineOutlook := h.pipelineOutlook
  pipelineFault := h.pipelineFault
  programRequests := congrArg (· + 1) h.programRequests
  pipelineRequests := h.pipelineRequests

theorem Willing.refusePipeline (h : d.Willing m n) : d.refusePipeline.Willing m (n + 1) where
  poisoned := h.poisoned
  programOutlook := h.programOutlook
  programFault := h.programFault
  pipelineOutlook := by rw [Device.refusePipeline, h.pipelineOutlook]; rfl
  pipelineFault := h.pipelineFault
  programRequests := h.programRequests
  pipelineRequests := by
    rw [Device.refusePipeline, h.pipelineObstacle?]
    exact congrArg (· + 1) h.pipelineRequests

theorem Willing.addPipeline (h : d.Willing m n) : d.addPipeline.Willing m (n + 1) where
  poisoned := h.poisoned
  programOutlook := h.programOutlook
  programFault := h.programFault
  pipelineOutlook := by rw [Device.addPipeline, h.pipelineOutlook]; rfl
  pipelineFault := h.pipelineFault
  programRequests := h.programRequests
  pipelineRequests := congrArg (· + 1) h.pipelineRequests

theorem Willing.afterDelete (h : d.Willing m n) (x : ProgramHandle) : (d.afterDelete x).Willing m n := by
  obtain ⟨programs, labels, hd⟩ := afterDelete_eq d x
  rw [hd]
  exact h.congr rfl

end Device

/-! ## Programs -/

namespace Program

open Device

variable {p : Program} {j : Journal} {m n : Nat} {unit : CompileUnit}

theorem willing_release (p : Program) (h : j.device.Willing m n) :
    (p.release.play j).2.device.Willing m n := by
  rw [journal_release]
  cases p.handle? with
  | none => exact h
  | some x => exact h.afterDelete x

theorem Ends.willing {out : Program × Journal} (he : Ends p unit j out) (h : j.device.Willing m n) :
    out.2.device.Willing (m + 1) n := by
  have hoffer : (p.offer unit j).device.Willing (m + 1) n := h.addProgram p.key.stage unit.text
  cases he with
  | refused hf => exact h.refuseProgram
  | @linked x hf hh hl =>
    have hbeside := leaves_replay (p.adopt x ((p.offer unit j).device.workGroup x)) x
      ((Device.setLabel (.program x) p.key.path).play (p.offer unit j)).2
    exact hoffer.congr (congrArg Device.besideObjects hbeside :)
  | @rejected x hf hh hl =>
    rw [play_deleteProgram]
    exact hoffer.afterDelete x

theorem willing_compile (p : Program) (h : j.device.Willing m n) (unit : CompileUnit)
    (listOnError : Bool) : ((p.compile unit listOnError).play j).2.device.Willing (m + 1) n :=
  (ends_compile p unit listOnError j).willing (p.willing_release h)

/-- A new object is given nothing if nothing was set. -/
theorem play_replay_of_blank (h : ProgramHandle) (hp : p.retained = {}) (j : Journal) :
    (p.replay h).play j = ({ p with locations := ∅ }, j) := by
  have hnone : ∀ {α : Type}, byName (∅ : Table String α) = [] := List.mergeSort_nil
  have huniforms : p.uniforms = ∅ := congrArg Retained.uniforms hp
  have huniform : p.uniformBlocks = ∅ := congrArg Retained.uniformBlocks hp
  have hstorage : p.storageBlocks = ∅ := congrArg Retained.storageBlocks hp
  simp only [replay, huniforms, hnone, List.foldlM_nil, play_bind, play_pure, huniform, hstorage,
    List.forM]

/-- A text that links gets an object with the next number, unless that is kept back. -/
theorem play_compile_of_linked (hp : p.retained = {}) (h : j.device.Willing m n)
    (hm : Device.numberAfter m ≠ .ofNat (UInt32.size - 1)) (unit : CompileUnit) (listOnError : Bool)
    (hl : (Compiler.compile p.key.stage unit.text).linked = true) :
    let out := (p.compile unit listOnError).play j
    out.1.handle? = some ⟨(Device.numberAfter m).toNat⟩ ∧
      out.2.device.programs.get? ⟨(Device.numberAfter m).toNat⟩ =
        some (.make p.key.stage unit.text) := by
  have hreleased := p.willing_release h
  have hgranted := hreleased.programRefusal? hm
  have he := ends_compile p unit listOnError j
  generalize (p.compile unit listOnError).play j = out at he
  cases he with
  | refused hf =>
    rw [hgranted] at hf
    cases hf
  | linked hf hh hl =>
    have hnext : (p.release.play j).2.device.nextProgramHandle = ⟨(numberAfter m).toNat⟩ := by
      rw [nextProgramHandle, hreleased.programRequests]
    subst hh
    have hblank : ∀ x size, (p.retired.adopt x size).retained = {} := fun _ _ => hp
    simp only [play_replay_of_blank _ (hblank _ _)]
    refine ⟨congrArg some hnext, (Table.get?_insert ..).trans (if_pos hnext)⟩
  | rejected hf hh hl' => exact absurd hl (Bool.eq_false_iff.mp hl')

end Program

/-! ## Pipelines -/

namespace Pipeline

open Device

variable {p : Pipeline} {j : Journal} {m n : Nat} {programs : Array Program}

theorem willing_release (p : Pipeline) (h : j.device.Willing m n) :
    (p.release.play j).2.device.Willing m n := by
  rw [play_release_eq]
  cases p.handle? with
  | none => exact h
  | some x => exact h.congr rfl

theorem Ends.willing {out : (Except DeviceError PipelineHandle × Pipeline) × Journal}
    (he : Ends p programs j out) (h : j.device.Willing m n) : out.2.device.Willing m (n + 1) := by
  cases he with
  | refused hf => exact h.refusePipeline
  | @made x hf hh =>
    obtain ⟨-, -, pipelines, hd⟩ := fill_beside p programs x (offer j)
    have hfilled : (p.fill programs x (offer j)).device.Willing m (n + 1) := by
      rw [hd]
      exact h.addPipeline.congr rfl
    exact hfilled.congr rfl

theorem willing_rebuild (p : Pipeline) (h : j.device.Willing m n) (programs : Array Program) :
    ((p.rebuild programs).play j).2.device.Willing m (n + 1) :=
  (p.ends_rebuild programs j).willing (p.willing_release h)

theorem slots_rebuild (p : Pipeline) (programs : Array Program) (j : Journal) :
    ((p.rebuild programs).play j).1.2.slots = p.slots := by
  have he := p.ends_rebuild programs j
  generalize (p.rebuild programs).play j = out at he
  cases he <;> rfl

/-- An object is made with the next number, unless that is kept back. -/
theorem handle?_rebuild (p : Pipeline) (h : j.device.Willing m n)
    (hn : numberAfter n ≠ .ofNat (UInt32.size - 1)) (programs : Array Program) :
    ((p.rebuild programs).play j).1.2.handle? = some ⟨(numberAfter n).toNat⟩ := by
  have hreleased := p.willing_release h
  have hgranted := hreleased.pipelineRefusal? hn
  have he := p.ends_rebuild programs j
  generalize (p.rebuild programs).play j = out at he
  cases he with
  | refused hf =>
    rw [hgranted] at hf
    cases hf
  | made hf hh =>
    rw [nextPipelineHandle, hreleased.pipelineRequests] at hh
    exact congrArg some hh

end Pipeline

end ShaderDepot
