import ShaderDepot.Proofs.Device.Creation

/-!
# What a device holds of a program

Beside the object that it made, a device holds the values written to the uniforms of a program, and the
calls tell which bindings its blocks were given.  An operation on another object leaves all of this
(`Journal.Untouched`); writing a value changes one uniform, as no two uniforms have one location.
-/

namespace ShaderDepot

/-- The binding that a call gives to a block of a program. -/
def DeviceCall.binding? (kind : BlockKind) (h : ProgramHandle) (block : String) :
    DeviceCall → Option Nat
  | bindUniformBlock h' block' n => if .uniform = kind ∧ h' = h ∧ block' = block then some n else none
  | bindStorageBlock h' block' n => if .storage = kind ∧ h' = h ∧ block' = block then some n else none
  | _ => none

namespace CompileResult

theorem location?_eq_some {r : CompileResult} {name : String} {location : UniformLocation}
    (h : r.location? name = some location) :
    ∃ i : Nat, r.uniforms.reverse[i]? = some name ∧
      location.number = (r.uniforms.reverse.length : Int) - 1 - i := by
  obtain ⟨i, hi, rfl⟩ := Option.map_eq_some_iff.mp h
  obtain ⟨n, hn, e⟩ := Option.bind_eq_some_iff.mp hi
  obtain rfl := Option.some.inj e
  obtain ⟨hlt, hname, -⟩ := List.idxOf?_eq_some_iff.mp hn
  exact ⟨n, List.getElem?_eq_some_iff.mpr ⟨hlt, hname⟩, rfl⟩

/-- No two uniforms have one location. -/
theorem location?_injective {r : CompileResult} {a b : String} {location : UniformLocation}
    (ha : r.location? a = some location) (hb : r.location? b = some location) : a = b := by
  obtain ⟨i, hi, hia⟩ := location?_eq_some ha
  obtain ⟨k, hk, hkb⟩ := location?_eq_some hb
  obtain rfl : k = i := by omega
  exact Option.some.inj (hi.symm.trans hk)

/-- As long as there are no more than `2 ^ 32` uniforms, numbers of 32 bits tell their locations apart. -/
theorem location?_injective_ofInt {r : CompileResult} (hsize : r.uniforms.length ≤ UInt32.size)
    {a b : String} {location location' : UniformLocation} (ha : r.location? a = some location)
    (hb : r.location? b = some location')
    (heq : Int32.ofInt location.number = .ofInt location'.number) : a = b := by
  obtain ⟨i, hi, hia⟩ := location?_eq_some ha
  obtain ⟨k, hk, hkb⟩ := location?_eq_some hb
  have hlt := (List.getElem?_eq_some_iff.mp hi).1
  have hlt' := (List.getElem?_eq_some_iff.mp hk).1
  rw [List.length_reverse] at hlt hlt' hia hkb
  have hmod := congrArg Int32.toInt heq
  rw [Int32.toInt_ofInt, Int32.toInt_ofInt] at hmod
  have hdvd : (2 ^ 32 : Int) ∣ location.number - location'.number :=
    Int.dvd_of_bmod_eq_zero (Int.bmod_eq_bmod_iff_bmod_sub_eq_zero.mp hmod)
  have hbound : UInt32.size = 2 ^ 32 := rfl
  obtain rfl : i = k := by omega
  exact Option.some.inj (hi.symm.trans hk)

end CompileResult

namespace Journal

/-- The binding that the last call for a block of a program gives it. -/
def binding? (j : Journal) (kind : BlockKind) (h : ProgramHandle) (block : String) : Option Nat :=
  (j.calls.filterMap (DeviceCall.binding? kind h block)).getLast?

/-- Nothing that the device holds of a program became another. -/
structure Untouched (h : ProgramHandle) (j j' : Journal) : Prop where
  object : j'.device.programs.get? h = j.device.programs.get? h
  binding : ∀ kind block, j'.binding? kind h block = j.binding? kind h block

variable {j j' j'' : Journal} {h h' : ProgramHandle} {c : DeviceCall} {d : Device}

theorem Untouched.refl (h : ProgramHandle) (j : Journal) : Untouched h j j :=
  ⟨rfl, fun _ _ => rfl⟩

theorem Untouched.trans (hu : Untouched h j j') (hu' : Untouched h j' j'') : Untouched h j j'' where
  object := hu'.object.trans hu.object
  binding kind block := (hu'.binding kind block).trans (hu.binding kind block)

theorem Untouched.location? (hu : Untouched h j j') (name : String) :
    j'.device.location? h name = j.device.location? h name := by
  rw [Device.location?, hu.object]
  rfl

theorem Untouched.value? (hu : Untouched h j j') (name : String) :
    j'.device.value? h name = j.device.value? h name := by
  rw [Device.value?, hu.object]
  rfl

theorem binding?_push (j : Journal) (c : DeviceCall) (d : Device) (kind : BlockKind)
    (h : ProgramHandle) (block : String) :
    (j.push c d).binding? kind h block =
      (c.binding? kind h block).or (j.binding? kind h block) := by
  rw [binding?, push, List.filterMap_append, List.getLast?_append, List.filterMap_cons]
  cases c.binding? kind h block <;> rfl

theorem untouched_push (hd : d.programs.get? h = j.device.programs.get? h)
    (hc : ∀ kind block, c.binding? kind h block = none) : Untouched h j (j.push c d) where
  object := hd
  binding kind block := by
    rw [binding?_push, hc, Option.none_or]

theorem untouched_same (hd : d.programs = j.device.programs) : Untouched h j ⟨d, j.calls⟩ where
  object := by rw [hd]
  binding _ _ := rfl

/-- No block of a program to come was given a binding. -/
theorem Sound.binding?_eq_none (hj : j.Sound) (hd : j.Distinct .program)
    (hn : ¬j.Issued (.program h)) (kind : BlockKind) (block : String) :
    j.binding? kind h block = none := by
  rw [binding?, List.getLast?_eq_none_iff, List.filterMap_eq_nil_iff]
  intro c hc
  by_contra hsome
  have hneeds : c.needs = [.program h] := by
    cases c with
    | bindUniformBlock a b n | bindStorageBlock a b n =>
      rw [DeviceCall.binding?] at hsome
      split at hsome
      · next e => rw [DeviceCall.needs, e.2.1]
      · exact absurd rfl hsome
    | _ => exact absurd rfl hsome
  -- The call needs the program, so some call made the program.
  exact hn (hj.named c hc _ (by rw [hneeds]; exact List.mem_singleton_self _) hd)

end Journal

namespace Device

open Journal

variable {j : Journal} {h h' : ProgramHandle}

theorem source?_of_make {d : Device} {stage : Stage} {text : String}
    (ho : d.programs.get? h = some (.make stage text)) : d.source? h = some text := by
  rw [source?, ho]
  rfl

theorem untouched_askLocation (h h' : ProgramHandle) (name : String) (j : Journal) :
    Untouched h' j ((askLocation h name).play j).2 :=
  untouched_push rfl fun _ _ => rfl

/-- A binding concerns one block of one program. -/
theorem binding?_bindBlock (kind kind' : BlockKind) (h h' : ProgramHandle) (block block' : String)
    (n : Nat) (j : Journal) :
    ((bindBlock kind h block n).play j).2.binding? kind' h' block' =
      if kind = kind' ∧ h = h' ∧ block = block' then some n else j.binding? kind' h' block' := by
  cases kind <;> exact (binding?_push ..).trans (by
    rw [DeviceCall.binding?]
    split <;> rfl)

theorem device_bindBlock (kind : BlockKind) (h : ProgramHandle) (block : String) (n : Nat)
    (j : Journal) : ((bindBlock kind h block n).play j).2.device = j.device := by
  cases kind <;> rfl

theorem untouched_bindBlock (kind : BlockKind) (block : String) (n : Nat) (hne : h ≠ h')
    (j : Journal) : Untouched h' j ((bindBlock kind h block n).play j).2 where
  object := by rw [device_bindBlock]
  binding kind' block' := by rw [binding?_bindBlock, if_neg fun e => hne e.2.1]

theorem play_setUniform_of_isLinked (hl : j.device.isLinked h = true) (location : UniformLocation)
    (value : UniformValue) :
    ∃ o, j.device.programs.get? h = some o ∧
      ((setUniform h location value).play j).2 =
        j.push (.setUniform h location value) (j.device.store h o location value) := by
  obtain ⟨o, ho, hlinked⟩ := (Option.any_eq_true _ _).mp hl
  have hfilter : (j.device.programs.get? h).filter (·.result.linked) = some o :=
    Option.filter_eq_some_iff.mpr ⟨ho, hlinked⟩
  refine ⟨o, ho, ?_⟩
  simp only [DeviceM.play, setUniform, hfilter]
  rfl

/-- What writing one value leaves of the device. -/
structure Written (h : ProgramHandle) (name : String) (value : UniformValue) (j j' : Journal) :
    Prop where
  others : ∀ h', h' ≠ h → Untouched h' j j'
  value : ∀ name', (j.device.location? h name').isSome →
    j'.device.value? h name' = if name = name' then some value else j.device.value? h name'
  binding : ∀ kind block, j'.binding? kind h block = j.binding? kind h block

theorem written_setUniform (hl : j.device.isLinked h = true) {name : String}
    {location : UniformLocation} (hn : j.device.location? h name = some location)
    (value : UniformValue) : Written h name value j ((setUniform h location value).play j).2 := by
  obtain ⟨o, ho, hplay⟩ := play_setUniform_of_isLinked hl location value
  have hlocation : ∀ name', j.device.location? h name' = o.result.location? name' := by
    intro name'
    rw [Device.location?, ho]
    rfl
  have hafter : (j.device.store h o location value).programs.get? h =
      some { o with values := o.values.insert location value } := by
    rw [store, Table.get?_insert, if_pos rfl]
  rw [hplay]
  refine ⟨fun h' hne => untouched_push ?_ fun _ _ => rfl, fun name' hactive => ?_, fun kind block => ?_⟩
  · show (j.device.programs.insert h _).get? h' = _
    rw [Table.get?_insert, if_neg hne.symm]
  · obtain ⟨location', hn'⟩ := Option.isSome_iff_exists.mp hactive
    rw [hlocation] at hn hn'
    have hbefore : j.device.value? h name' = o.values.get? location' := by
      rw [value?, ho]
      show (o.result.location? name').bind _ = _
      rw [hn']
      rfl
    have hnow : ((j.push (.setUniform h location value)
        (j.device.store h o location value)).device).value? h name' =
          (o.values.insert location value).get? location' := by
      show (j.device.store h o location value).value? h name' = _
      rw [value?, hafter]
      show (o.result.location? name').bind _ = _
      rw [hn']
      rfl
    rw [hnow, hbefore, Table.get?_insert]
    -- The locations are one exactly if the names are.
    refine if_congr ⟨fun e => ?_, fun e => ?_⟩ rfl rfl
    · rw [← e] at hn'
      exact CompileResult.location?_injective hn hn'
    · rw [e, hn'] at hn
      exact (Option.some.inj hn).symm
  · exact (binding?_push ..).trans (Option.none_or ..)

theorem untouched_addProgram (stage : Stage) (source : String) (hne : j.device.nextProgramHandle ≠ h) :
    Untouched h j (j.push (.createProgram j.device.nextProgramHandle stage)
      (j.device.addProgram stage source)) := by
  apply untouched_push
  · show (j.device.programs.insert j.device.nextProgramHandle _).get? h = _
    rw [Table.get?_insert, if_neg hne]
  · exact fun _ _ => rfl

theorem untouched_deleteProgram (hne : h' ≠ h) (j : Journal) :
    Untouched h' j ((deleteProgram h).play j).2 := by
  rw [play_deleteProgram]
  apply untouched_push
  · rw [programs_afterDelete, if_neg hne.symm]
  · exact fun _ _ => rfl

/-! ## Operations on pipelines -/

theorem untouched_setLabel (h : ProgramHandle) (target : LabelTarget) (label : String) (j : Journal) :
    Untouched h j ((setLabel target label).play j).2 :=
  untouched_push rfl fun _ _ => rfl

theorem untouched_createPipeline (h : ProgramHandle) (j : Journal) :
    Untouched h j (createPipeline.play j).2 := by
  cases hf : j.device.pipelineRefusal? with
  | some fault =>
    rw [play_createPipeline_of_refusal hf]
    exact untouched_same rfl
  | none =>
    rw [play_createPipeline hf]
    exact untouched_push rfl fun _ _ => rfl

theorem untouched_attachStage (h : ProgramHandle) (p : PipelineHandle) (stage : Stage)
    (program : ProgramHandle) (j : Journal) :
    Untouched h j ((attachStage p stage program).play j).2 := by
  obtain ⟨pipelines, hd⟩ := attach_eq j.device p stage program
  show Untouched h j (j.push (.attachStage p stage program) (j.device.attach p stage program))
  rw [hd]
  exact untouched_push rfl fun _ _ => rfl

theorem untouched_bindPipeline (h : ProgramHandle) (p : PipelineHandle) (j : Journal) :
    Untouched h j ((bindPipeline p).play j).2 :=
  untouched_push rfl fun _ _ => rfl

theorem untouched_deletePipeline (h : ProgramHandle) (p : PipelineHandle) (j : Journal) :
    Untouched h j ((deletePipeline p).play j).2 :=
  untouched_push rfl fun _ _ => rfl

theorem untouched_dispatchCompute (h : ProgramHandle) (groups : Extent) (j : Journal) :
    Untouched h j ((dispatchCompute groups).play j).2 :=
  untouched_push rfl fun _ _ => rfl

end Device

end ShaderDepot
