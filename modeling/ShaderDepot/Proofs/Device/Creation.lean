import ShaderDepot.Proofs.Device.Sound

/-!
# Objects made and given back

A device that makes an object or takes one back still fits its calls, and so does one that attaches a
program that linked to a pipeline.
-/

namespace ShaderDepot

namespace Device

open Journal

variable {j : Journal} {h : ProgramHandle}

/-! ## Programs made and given back -/

theorem play_createProgram_of_refusal (stage : Stage) (source : String) (label : Option String)
    {fault : DeviceError} (hf : j.device.programRefusal? = some fault) :
    (createProgram stage source label).play j =
      (.error fault, ⟨j.device.refuseProgram, j.calls⟩) := by
  simp only [DeviceM.play, createProgram, hf]
  exact congrArg (fun calls => (_, (⟨_, calls⟩ : Journal))) (List.append_nil _)

theorem play_createProgram (stage : Stage) (source : String) (label : Option String)
    (hf : j.device.programRefusal? = none) :
    (createProgram stage source label).play j =
      (.ok j.device.nextProgramHandle,
        j.push (.createProgram j.device.nextProgramHandle stage)
          (j.device.addProgram stage source)) := by
  simp only [DeviceM.play, createProgram, hf]
  rfl

theorem requests_refuseProgram (d : Device) (kind : ObjectKind) :
    d.requests kind ≤ d.refuseProgram.requests kind := by
  cases kind with
  | program =>
    show d.programRequests ≤ if _ then d.programRequests else d.programRequests + 1
    split
    · exact Nat.le_refl _
    · exact Nat.le_succ _
  | pipeline => exact Nat.le_refl _

theorem sound_refuseProgram (hj : j.Sound) : Journal.Sound ⟨j.device.refuseProgram, j.calls⟩ where
  alive t := by
    rw [hj.alive]
    cases t <;> rfl
  honest := hj.honest
  archived := hj.archived
  numbered := hj.numbered.of_le (requests_refuseProgram j.device)
  granted := nofun
  named := hj.named
  lawful := hj.lawful

/-- A request that is not refused has not come to the number that is kept back. -/
theorem lt_of_programRefusal? {d : Device} (hf : d.programRefusal? = none)
    (hlt : d.programRequests + 1 < UInt32.size) : d.programRequests + 2 < UInt32.size := by
  have hfailure : d.failure? .program = none := (Option.or_eq_none_iff.mp hf).2
  by_contra hge
  have hlast : d.programRequests + 1 = UInt32.size - 1 := by
    have hsize : UInt32.size = 2 ^ 32 := rfl
    omega
  have hkept : numberAfter (d.requests .program) = .ofNat (UInt32.size - 1) :=
    congrArg UInt32.ofNat hlast
  rw [failure?, if_pos hkept] at hfailure
  cases hfailure

/-- A call that makes an object the calls before it did not make, and has to do with no other. -/
theorem permitted_of_creates {archive : Table ProgramHandle CompileResult} {c : DeviceCall} {t : LabelTarget}
    (hcreates : c.creates? = some t) (hneeds : c.needs = []) (huses : c.uses? = none)
    (hwrites : c.writes? = none) (hnew : ¬j.Issued t) : Permitted archive j.calls c where
  fresh t' ht' := by
    rw [hcreates] at ht'
    obtain rfl := Option.some.inj ht'
    exact fun c' hc' hct => hnew ⟨c', hc', hct⟩
  alive t' ht' := by
    rw [hneeds] at ht'
    cases ht'
  linked h hh := by
    rw [huses] at hh
    cases hh
  located h location hh := by
    rw [hwrites] at hh
    cases hh

theorem sound_addProgram (hj : j.Sound) (hf : j.device.programRefusal? = none) (stage : Stage)
    (source : String) :
    (j.push (.createProgram j.device.nextProgramHandle stage)
      (j.device.addProgram stage source)).Sound := by
  have harchive : ∀ h, (j.device.addProgram stage source).archive.get? h = _ :=
    fun h => Table.get?_insert ..
  refine hj.push (fun t => ?_) (honest_addProgram hj.honest stage source) (fun h result hr => ?_) ?_
    (fun hzero => ?_) (List.forall_mem_nil _) fun hd => ?_
  · rw [knows_addProgram]
    exact or_congr Option.some_inj.symm (and_iff_left (Option.some_ne_none t).symm).symm
  · rw [harchive] at hr
    rw [issued_push]
    split at hr
    · next e => exact .inr (congrArg (fun h => some (LabelTarget.program h)) e)
    · exact .inl (hj.archived h result hr)
  · exact hj.numbered.push_of_some (t := .program j.device.nextProgramHandle) rfl
      fun kind => by cases kind <;> rfl
  · exact lt_of_programRefusal? hf (hj.granted hzero)
  · -- The number is a new one, so no call before this made the object, and the archive knows nothing of it.
    have hnew : ¬j.Issued (.program j.device.nextProgramHandle) := (hd .program).not_issued rfl
    refine ⟨permitted_of_creates rfl rfl rfl rfl hnew, fun h result hr => ?_⟩
    rw [harchive, if_neg, hr]
    rintro rfl
    exact hnew (hj.archived _ _ hr)

theorem play_deleteProgram (h : ProgramHandle) (j : Journal) :
    (deleteProgram h).play j = ((), j.push (.deleteProgram h) (j.device.afterDelete h)) := by
  unfold afterDelete
  cases hc : j.device.programs.contains h <;> simp only [DeviceM.play, deleteProgram, hc] <;> rfl

theorem sound_afterDelete (hj : j.Sound) (hk : j.Distinct .program → j.device.Knows (.program h)) :
    (j.push (.deleteProgram h) (j.device.afterDelete h)).Sound := by
  have hknows := fun t => knows_afterDelete (d := j.device) h t
  have hmade := made?_afterDelete j.device h
  obtain ⟨programs, labels, hd⟩ := afterDelete_eq j.device h
  rw [hd] at hknows hmade ⊢
  refine hj.push_of_fits (fits_mention rfl rfl rfl fun t ht => ?_) (fun t => ?_) (fun a o ho => ?_) rfl
    (fun kind => by cases kind <;> rfl) rfl
  · rwa [List.mem_singleton.mp ht]
  · rw [hknows]
    exact and_congr_right' (not_congr Option.some_inj.symm)
  · rw [hmade] at ho
    split at ho
    · cases ho
    · -- The archive also speaks of programs that are gone.
      exact hj.honest a o ho

/-! ## Pipelines made, filled and given back -/

theorem play_createPipeline_of_refusal {fault : DeviceError}
    (hf : j.device.pipelineRefusal? = some fault) :
    createPipeline.play j = (.error fault, ⟨j.device.refusePipeline, j.calls⟩) := by
  simp only [DeviceM.play, createPipeline, hf]
  exact congrArg (fun calls => (_, (⟨_, calls⟩ : Journal))) (List.append_nil _)

theorem play_createPipeline (hf : j.device.pipelineRefusal? = none) :
    createPipeline.play j =
      (.ok j.device.nextPipelineHandle,
        j.push (.createPipeline j.device.nextPipelineHandle) j.device.addPipeline) := by
  simp only [DeviceM.play, createPipeline, hf]
  rfl

theorem requests_refusePipeline (d : Device) (kind : ObjectKind) :
    d.requests kind ≤ d.refusePipeline.requests kind := by
  cases kind with
  | program => exact Nat.le_refl _
  | pipeline =>
    show d.pipelineRequests ≤ if _ then d.pipelineRequests else d.pipelineRequests + 1
    split
    · exact Nat.le_refl _
    · exact Nat.le_succ _

theorem sound_refusePipeline (hj : j.Sound) : Journal.Sound ⟨j.device.refusePipeline, j.calls⟩ where
  alive t := by
    rw [hj.alive]
    cases t <;> rfl
  honest := hj.honest
  archived := hj.archived
  numbered := hj.numbered.of_le (requests_refusePipeline j.device)
  granted := hj.granted
  named := hj.named
  lawful := hj.lawful

theorem sound_addPipeline (hj : j.Sound) :
    (j.push (.createPipeline j.device.nextPipelineHandle) j.device.addPipeline).Sound := by
  refine hj.push (fun t => ?_) hj.honest (fun h result hr => issued_push.mpr (.inl ?_)) ?_ hj.granted
    (List.forall_mem_nil _) fun hd => ⟨?_, fun _ _ hr => hr⟩
  · rw [knows_addPipeline]
    exact or_congr Option.some_inj.symm (and_iff_left (Option.some_ne_none t).symm).symm
  · exact hj.archived h result hr
  · exact hj.numbered.push_of_some (t := .pipeline j.device.nextPipelineHandle) rfl
      fun kind => by cases kind <;> rfl
  · exact permitted_of_creates rfl rfl rfl rfl ((hd .pipeline).not_issued rfl)

theorem play_deletePipeline (p : PipelineHandle) (j : Journal) :
    (deletePipeline p).play j = ((), j.push (.deletePipeline p) (j.device.dropPipeline p)) := rfl

theorem sound_dropPipeline (hj : j.Sound) {p : PipelineHandle}
    (hk : j.Distinct .pipeline → j.device.Knows (.pipeline p)) :
    (j.push (.deletePipeline p) (j.device.dropPipeline p)).Sound := by
  refine hj.push_of_fits (fits_mention rfl rfl rfl fun t ht => ?_) (fun t => ?_) hj.honest rfl
    (fun kind => by cases kind <;> rfl) rfl
  · rwa [List.mem_singleton.mp ht]
  · rw [knows_dropPipeline]
    exact and_congr_right' (not_congr Option.some_inj.symm)

theorem sound_attach (hj : j.Sound) {p : PipelineHandle}
    (hp : j.Distinct .pipeline → j.device.Knows (.pipeline p))
    (hl : j.Distinct .program → j.device.isLinked h) (stage : Stage) :
    (j.push (.attachStage p stage h) (j.device.attach p stage h)).Sound := by
  have hknows := fun t => knows_attach (d := j.device) p stage h t
  -- Of the device only the table of pipelines becomes another, with the same handles in it.
  obtain ⟨pipelines, hd⟩ := attach_eq j.device p stage h
  rw [hd] at hknows ⊢
  refine hj.push_of_fits ⟨rfl, fun t ht hdistinct => ?_, fun hdistinct h' hh => ?_, nofun⟩ (fun t => ?_)
    hj.honest rfl (fun kind => by cases kind <;> rfl) rfl
  · rcases List.mem_cons.mp ht with rfl | ht
    · exact hp hdistinct
    · obtain rfl := List.mem_singleton.mp ht
      exact knows_program_of_isLinked (hl hdistinct)
  · rw [← Option.some.inj hh]
    exact hl hdistinct
  · rw [hknows]
    exact (and_iff_left nofun).symm

end Device

end ShaderDepot
