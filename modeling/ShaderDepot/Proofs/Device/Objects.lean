import Mathlib.Tactic.Common
import ShaderDepot.Device

/-!
# The objects of a device

A device is seen through the programs and pipelines that it has.  Values, labels and the current
pipeline do not count here: most operations leave a device with the same objects
(`Device.SameObjects`).
-/

namespace ShaderDepot

namespace Device

/-- A program as the device made it, before any value was written. -/
def made? (d : Device) (h : ProgramHandle) : Option ProgramObject :=
  (d.programs.get? h).map fun o => { o with values := ∅ }

def Knows (d : Device) : LabelTarget → Prop
  | .program h => (d.made? h).isSome
  | .pipeline h => (d.pipelines.get? h).isSome

/-- Each program is what the compiler makes of its text, and so says the archive. -/
def Honest (d : Device) : Prop :=
  ∀ h o, d.made? h = some o → o = .make o.stage o.source ∧ d.archive.get? h = some o.result

/-- Two states of a device between which no object was asked for, made, given back or changed, unless a
value was written. -/
structure SameObjects (d d' : Device) : Prop where
  made : ∀ h, d'.made? h = d.made? h
  pipelines : d'.pipelines = d.pipelines
  archive : d'.archive = d.archive
  requests : ∀ kind, d'.requests kind = d.requests kind
  refusedPrograms : d'.refusedPrograms = d.refusedPrograms

variable {d d' d'' : Device}

theorem SameObjects.refl (d : Device) : SameObjects d d :=
  ⟨fun _ => rfl, rfl, rfl, fun _ => rfl, rfl⟩

theorem SameObjects.trans (h : SameObjects d d') (h' : SameObjects d' d'') : SameObjects d d'' where
  made a := (h'.made a).trans (h.made a)
  pipelines := h'.pipelines.trans h.pipelines
  archive := h'.archive.trans h.archive
  requests kind := (h'.requests kind).trans (h.requests kind)
  refusedPrograms := h'.refusedPrograms.trans h.refusedPrograms

theorem SameObjects.knows_iff (h : SameObjects d d') (t : LabelTarget) : d'.Knows t ↔ d.Knows t := by
  cases t with
  | program p => rw [Knows, Knows, h.made]
  | pipeline p => rw [Knows, Knows, h.pipelines]

theorem SameObjects.honest (h : SameObjects d d') (hd : d.Honest) : d'.Honest := by
  intro p o hp
  rw [h.made] at hp
  rw [h.archive]
  exact hd p o hp

/-! ## What is asked of a program -/

theorem isLinked_eq (d : Device) (h : ProgramHandle) :
    d.isLinked h = (d.made? h).any (·.result.linked) := by
  rw [isLinked, made?, Option.any_map]

theorem isLinked_iff {h : ProgramHandle} :
    d.isLinked h = true ↔ ∃ o, d.made? h = some o ∧ o.result.linked = true := by
  rw [isLinked_eq]
  cases d.made? h with
  | none => simp only [Option.any_none, Bool.false_eq_true, reduceCtorEq, false_and, exists_false]
  | some o => simp only [Option.any_some, Option.some.injEq, exists_eq_left']

theorem source?_eq (d : Device) (h : ProgramHandle) : d.source? h = (d.made? h).map (·.source) := by
  rw [source?, made?, Option.map_map]
  rfl

theorem location?_eq (d : Device) (h : ProgramHandle) (name : String) :
    d.location? h name = (d.made? h).bind (·.result.location? name) := by
  rw [location?, made?, Option.bind_map]
  rfl

theorem contains_programs_eq (d : Device) (h : ProgramHandle) :
    d.programs.contains h = (d.made? h).isSome := by
  rw [made?, Option.isSome_map]
  rfl

theorem made?_addProgram (d : Device) (stage : Stage) (source : String) (h : ProgramHandle) :
    (d.addProgram stage source).made? h =
      if d.nextProgramHandle = h then some (.make stage source) else d.made? h := by
  rw [made?, addProgram, Table.get?_insert]
  split <;> rfl

/-- The device after a program was given back; one that it does not know it minds no further. -/
def afterDelete (d : Device) (h : ProgramHandle) : Device :=
  if d.programs.contains h then d.dropProgram h else d

/-- Only programs and labels go. -/
theorem afterDelete_eq (d : Device) (h : ProgramHandle) :
    ∃ programs labels, d.afterDelete h = { d with programs, labels } := by
  unfold afterDelete
  split
  · exact ⟨_, _, rfl⟩
  · exact ⟨d.programs, d.labels, rfl⟩

theorem programs_afterDelete (d : Device) (h h' : ProgramHandle) :
    (d.afterDelete h).programs.get? h' = if h = h' then none else d.programs.get? h' := by
  unfold afterDelete
  split
  · exact Table.get?_erase ..
  · next hnot =>
    split
    · next e =>
      rw [← e]
      exact Option.not_isSome_iff_eq_none.mp hnot
    · rfl

theorem made?_afterDelete (d : Device) (h h' : ProgramHandle) :
    (d.afterDelete h).made? h' = if h = h' then none else d.made? h' := by
  rw [made?, programs_afterDelete]
  split <;> rfl

theorem labels_afterDelete (d : Device) {h : ProgramHandle} {t : LabelTarget} (hne : .program h ≠ t) :
    (d.afterDelete h).labels.get? t = d.labels.get? t := by
  unfold afterDelete
  split
  · exact (Table.get?_erase ..).trans (if_neg hne)
  · rfl

theorem sameObjects_store {h : ProgramHandle} {p : ProgramObject} (hp : d.programs.get? h = some p)
    (location : UniformLocation) (value : UniformValue) :
    SameObjects d (d.store h p location value) := by
  refine ⟨fun h' => ?_, rfl, rfl, fun _ => rfl, rfl⟩
  rw [made?, made?, store, Table.get?_insert]
  split
  · next e => rw [← e, hp]; rfl
  · rfl

/-! ## Objects made, given back and filled -/

theorem program_ne_pipeline (p : ProgramHandle) (q : PipelineHandle) :
    LabelTarget.program p ≠ .pipeline q := by
  intro h
  cases h

theorem knows_addProgram {d : Device} (stage : Stage) (source : String) (t : LabelTarget) :
    (d.addProgram stage source).Knows t ↔ .program d.nextProgramHandle = t ∨ d.Knows t := by
  cases t with
  | program h =>
    rw [Knows, made?_addProgram, LabelTarget.program.injEq]
    split
    · next e => exact iff_of_true rfl (.inl e)
    · next e => exact (or_iff_right e).symm
  | pipeline h => exact (or_iff_right (program_ne_pipeline _ _)).symm

theorem knows_afterDelete {d : Device} (h : ProgramHandle) (t : LabelTarget) :
    (d.afterDelete h).Knows t ↔ d.Knows t ∧ .program h ≠ t := by
  cases t with
  | program h' =>
    rw [Knows, made?_afterDelete, ne_eq, LabelTarget.program.injEq]
    split
    · next e => exact iff_of_false Bool.false_ne_true fun hn => hn.2 e
    · next e => exact (and_iff_left e).symm
  | pipeline h' =>
    obtain ⟨programs, labels, hd⟩ := afterDelete_eq d h
    rw [hd]
    exact (and_iff_left (program_ne_pipeline _ _)).symm

theorem honest_addProgram {d : Device} (hd : d.Honest) (stage : Stage) (source : String) :
    (d.addProgram stage source).Honest := by
  intro h o ho
  rw [made?_addProgram] at ho
  show _ ∧ (d.archive.insert _ _).get? h = _
  rw [Table.get?_insert]
  split at ho
  · next e =>
    -- The new program and what the archive says of it come from one text.
    obtain rfl := Option.some.inj ho
    rw [if_pos e]
    exact ⟨rfl, rfl⟩
  · next e =>
    rw [if_neg e]
    exact hd h o ho

theorem knows_addPipeline {d : Device} (t : LabelTarget) :
    d.addPipeline.Knows t ↔ .pipeline d.nextPipelineHandle = t ∨ d.Knows t := by
  cases t with
  | program p => exact (or_iff_right (program_ne_pipeline _ _).symm).symm
  | pipeline p =>
    show ((d.pipelines.insert d.nextPipelineHandle {}).get? p).isSome ↔ _
    rw [Table.get?_insert, LabelTarget.pipeline.injEq]
    split
    · next e => exact iff_of_true rfl (.inl e)
    · next e => exact (or_iff_right e).symm

theorem knows_dropPipeline {d : Device} (p : PipelineHandle) (t : LabelTarget) :
    (d.dropPipeline p).Knows t ↔ d.Knows t ∧ .pipeline p ≠ t := by
  cases t with
  | program p' => exact (and_iff_left (program_ne_pipeline _ _).symm).symm
  | pipeline p' =>
    show ((d.pipelines.erase p).get? p').isSome ↔ _
    rw [Table.get?_erase, ne_eq, LabelTarget.pipeline.injEq]
    split
    · next e => exact iff_of_false Bool.false_ne_true fun hn => hn.2 e
    · next e => exact (and_iff_left e).symm

theorem pipelines_attach {d : Device} {p : PipelineHandle} {o : PipelineObject}
    (hp : d.pipelines.get? p = some o) (stage : Stage) (h : ProgramHandle) (p' : PipelineHandle) :
    (d.attach p stage h).pipelines.get? p' =
      if p = p' then some ⟨o.stages.insert stage h⟩ else d.pipelines.get? p' := by
  rw [attach, hp]
  exact Table.get?_insert ..

theorem attach_eq (d : Device) (p : PipelineHandle) (stage : Stage) (h : ProgramHandle) :
    ∃ pipelines, d.attach p stage h = { d with pipelines } := by
  unfold attach
  split
  · exact ⟨_, rfl⟩
  · exact ⟨d.pipelines, rfl⟩

theorem knows_attach {d : Device} (p : PipelineHandle) (stage : Stage) (h : ProgramHandle)
    (t : LabelTarget) : (d.attach p stage h).Knows t ↔ d.Knows t := by
  unfold attach
  split
  · next o ho =>
    cases t with
    | program p' => rfl
    | pipeline p' =>
      show ((d.pipelines.insert p _).get? p').isSome ↔ _
      rw [Table.get?_insert]
      split
      · next e =>
        rw [← e, Knows, ho]
        rfl
      · rfl
  · rfl

end Device

end ShaderDepot
