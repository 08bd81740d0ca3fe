import ShaderDepot.Proofs.Program.Mirror

/-!
# A new object is given what was set

A compile that succeeds hands all that was set on a program to the new object, each value and each
binding once, so that afterwards the object holds what was set (`follows_compile`).
-/

namespace ShaderDepot

namespace Program

open Device Journal DeviceM

variable {p p' : Program} {j j' : Journal} {h : ProgramHandle}

/-! ## The order of names -/

section

variable {α : Type} {t : Table String α}

theorem nodup_byName (ht : t.Unique) : ((byName t).map (·.1)).Nodup :=
  ((List.mergeSort_perm t.entries _).map _).nodup_iff.mpr ht

theorem lookup_byName (ht : t.Unique) (name : String) : (byName t).lookup name = t.get? name := by
  have hperm : (byName t).Perm t.entries := List.mergeSort_perm t.entries _
  cases hget : t.get? name with
  | some a =>
    have hmem := hperm.mem_iff.mpr (Table.mem_entries_of_get? hget)
    exact Table.lookup_eq_some_of_mem (nodup_byName ht) hmem
  | none =>
    refine Table.lookup_eq_none fun hmem => ?_
    rw [(hperm.map _).mem_iff] at hmem
    have hsome : (t.get? name).isSome := Table.isSome_get?_iff.mpr hmem
    rw [hget] at hsome
    cases hsome

end

/-! ## Handing on -/

/-- What handing on some values leaves of a program and of the device. -/
structure Replayed (values : List (String × UniformValue)) (h : ProgramHandle) (p : Program)
    (j : Journal) (p' : Program) (j' : Journal) : Prop where
  used : Used p j p' j'
  retained : p'.retained = p.retained
  others : ∀ h', h' ≠ h → Untouched h' j j'
  value : ∀ name, (j.device.location? h name).isSome →
    j'.device.value? h name = (values.lookup name).or (j.device.value? h name)
  binding : ∀ kind block, j'.binding? kind h block = j.binding? kind h block

theorem replayed_foldlM (values : List (String × UniformValue)) (hn : (values.map (·.1)).Nodup)
    (record : Program → String × UniformValue → LogRecord) (hj : j.Sound) (hv : p.build = .valid)
    (hold : p.Holds j.device h) :
    Replayed values h p j
      ((values.foldlM (fun (p : Program) e => p.forward h e.1 e.2 (record p e)) p).play j).1
      ((values.foldlM (fun (p : Program) e => p.forward h e.1 e.2 (record p e)) p).play j).2 := by
  induction values generalizing p j with
  | nil =>
    rw [List.foldlM_nil, play_pure]
    exact ⟨.refl p hj, rfl, fun h' _ => .refl h' j, fun _ _ => rfl, fun _ _ => rfl⟩
  | cons e values ih =>
    obtain ⟨hfirst, hn⟩ := List.nodup_cons.mp hn
    rw [List.foldlM_cons, play_bind]
    have hu : p.usable? = some h := usable?_eq_some.mpr ⟨hold.handle, hv⟩
    have hused := used_forward hj (hold.settled hv) hu e.1 e.2 (record p e)
    have hw := written_forward hj (hold.settled hv) hu hold e.1 e.2 (record p e)
    have hretained := retained_forward p h e.1 e.2 (record p e) j
    generalize (p.forward h e.1 e.2 (record p e)).play j = r at hused hw hretained
    obtain ⟨p₁, j₁⟩ := r
    simp only at hused hw hretained ⊢
    have hrest := ih hn hused.quiet.sound (hused.build.trans hv) (hused.holds h hold)
    refine ⟨hused.trans hrest.used, hrest.retained.trans hretained,
      fun h' hne => (hw.others h' hne).trans (hrest.others h' hne), fun name hactive => ?_,
      fun kind block => (hrest.binding kind block).trans (hw.binding kind block)⟩
    have hactive' : (j₁.device.location? h name).isSome := by
      rwa [isSome_location?_of_used hused]
    rw [hrest.value name hactive', hw.value name hactive, List.lookup_cons]
    by_cases hname : name = e.1
    · -- The name does not come again among the rest.
      rw [hname, beq_self_eq_true, if_pos rfl, Table.lookup_eq_none hfirst]
      rfl
    · rw [beq_false_of_ne hname, if_neg (Ne.symm hname)]

/-- What handing on some bindings leaves of the device. -/
structure Bound (kind : BlockKind) (bindings : List (String × Nat)) (h : ProgramHandle)
    (j j' : Journal) : Prop where
  device : j'.device = j.device
  others : ∀ h', h' ≠ h → Untouched h' j j'
  binding : ∀ kind' block, j'.binding? kind' h block =
    (if kind = kind' then bindings.lookup block else none).or (j.binding? kind' h block)

theorem bound_forM (kind : BlockKind) (bindings : List (String × Nat))
    (hn : (bindings.map (·.1)).Nodup) (h : ProgramHandle) (j : Journal) :
    Bound kind bindings h j
      ((bindings.forM fun e => Device.bindBlock kind h e.1 e.2).play j).2 := by
  induction bindings generalizing j with
  | nil =>
    rw [List.forM, play_pure]
    refine ⟨rfl, fun h' _ => .refl h' j, fun kind' block => ?_⟩
    rw [List.lookup_nil, ite_self, Option.none_or]
  | cons e bindings ih =>
    obtain ⟨hfirst, hn⟩ := List.nodup_cons.mp hn
    rw [List.forM, play_bind]
    have hrest := ih hn ((Device.bindBlock kind h e.1 e.2).play j).2
    refine ⟨hrest.device.trans (device_bindBlock ..), fun h' hne => ?_, fun kind' block => ?_⟩
    · exact (untouched_bindBlock kind e.1 e.2 hne.symm j).trans (hrest.others h' hne)
    · rw [hrest.binding, binding?_bindBlock]
      by_cases hk : kind = kind'
      · rw [if_pos hk, if_pos hk, List.lookup_cons]
        by_cases hb : block = e.1
        · rw [hb, beq_self_eq_true, if_pos ⟨hk, rfl, rfl⟩, Table.lookup_eq_none hfirst]
          rfl
        · rw [beq_false_of_ne hb, if_neg fun he => hb he.2.2.symm]
      · rw [if_neg hk, if_neg hk, if_neg fun he => hk he.1]

/-! ## A new object -/

/-- The device has nothing yet of what may be set on a program. -/
structure Blank (j : Journal) (h : ProgramHandle) : Prop where
  value : ∀ name, j.device.value? h name = none
  binding : ∀ kind block, j.binding? kind h block = none

theorem Blank.untouched (hb : Blank j h) (hu : Untouched h j j') : Blank j' h where
  value name := (hu.value? name).trans (hb.value name)
  binding kind block := (hu.binding kind block).trans (hb.binding kind block)

theorem blank_addProgram (hj : j.Sound) (stage : Stage) (source : String)
    (hd : (j.push (.createProgram j.device.nextProgramHandle stage)
      (j.device.addProgram stage source)).Distinct .program) :
    Blank (j.push (.createProgram j.device.nextProgramHandle stage)
      (j.device.addProgram stage source)) j.device.nextProgramHandle where
  value name := by
    show (j.device.addProgram stage source).value? j.device.nextProgramHandle name = none
    rw [value?, addProgram, Table.get?_insert, if_pos rfl]
    cases hn : (ProgramObject.make stage source).result.location? name <;>
      · simp only [Option.bind_eq_bind, Option.bind_some, hn]
        rfl
  binding kind block := by
    rw [binding?_push]
    exact hj.binding?_eq_none hd.of_push (hd.not_issued (t := .program j.device.nextProgramHandle) rfl)
      kind block

theorem retained_replay (p : Program) (h : ProgramHandle) (j : Journal) :
    ((p.replay h).play j).1.retained = p.retained := by
  have hvalues := play_foldlM (motive := fun _ p' _ => p'.retained = p.retained)
    (fun p' (e : String × UniformValue) => p'.forward h e.1 e.2 (keptRecord p'.key e.1 e.2))
    (byName p.uniforms) (b := { p with locations := ∅ }) (j := j) rfl
    fun e _ p' j' hp => (retained_forward p' h e.1 e.2 _ j').trans hp
  unfold replay
  simp only [play_bind, play_pure]
  exact hvalues

theorem retained_compile (p : Program) (unit : CompileUnit) (listOnError : Bool) (j : Journal) :
    ((p.compile unit listOnError).play j).1.retained = p.retained := by
  have he := ends_compile p unit listOnError j
  generalize (p.compile unit listOnError).play j = out at he
  cases he with
  | refused hf => rfl
  | linked hf hh hl => exact retained_replay ..
  | rejected hf hh hl => rfl

/-- A new object is given all that was set on the program. -/
theorem mirrored_replay (hj : j.Sound) (hp : { p with locations := ∅ }.Holds j.device h)
    (hv : p.build = .valid) (ht : p.retained.Unique) (hb : Blank j h) :
    p.retained.Mirrored ((p.replay h).play j).2 h ∧
      ∀ h', h' ≠ h → Untouched h' j ((p.replay h).play j).2 := by
  have hvalid : build { p with locations := ∅ } = .valid := hv
  have hvalues := replayed_foldlM (byName p.uniforms) (nodup_byName ht.uniforms)
    (fun p e => keptRecord p.key e.1 e.2) hj hvalid hp
  unfold replay
  simp only [play_bind, play_pure]
  generalize (play _ j : Program × Journal) = r at hvalues ⊢
  obtain ⟨p', j'⟩ := r
  simp only at hvalues ⊢
  have hretained : p'.retained = p.retained := hvalues.retained
  have huniform : p'.uniformBlocks = p.uniformBlocks := congrArg Retained.uniformBlocks hretained
  have hstorage : p'.storageBlocks = p.storageBlocks := congrArg Retained.storageBlocks hretained
  rw [huniform, hstorage]
  have hblocks := bound_forM .uniform (byName p.uniformBlocks) (nodup_byName (ht.blocks .uniform)) h j'
  change Bound _ _ _ _
    (((byName p.uniformBlocks).forM fun e => Device.bindUniformBlock h e.1 e.2).play j').2 at hblocks
  generalize (play (List.forM (byName p.uniformBlocks) _) j' : PUnit × Journal).2 = j₁ at hblocks ⊢
  have hbuffers := bound_forM .storage (byName p.storageBlocks) (nodup_byName (ht.blocks .storage)) h j₁
  change Bound _ _ _ _
    (((byName p.storageBlocks).forM fun e => Device.bindStorageBlock h e.1 e.2).play j₁).2 at hbuffers
  generalize (play (List.forM (byName p.storageBlocks) _) j₁ : PUnit × Journal).2 = j₂ at hbuffers ⊢
  have hdevice : j₂.device = j'.device := hbuffers.device.trans hblocks.device
  refine ⟨⟨fun name hactive => ?_, fun kind block => ?_⟩, fun h' hne => ?_⟩
  · rw [hdevice, isSome_location?_of_used hvalues.used] at hactive
    have hlookup : (byName p.uniforms).lookup name = p.retained.uniforms.get? name :=
      lookup_byName ht.uniforms name
    rw [hdevice, hvalues.value name hactive, hb.value, Option.or_none, hlookup]
    cases p.retained.uniforms.get? name with
    | none => exact .none
    | some v => exact .some (.inl rfl)
  · rw [hbuffers.binding, hblocks.binding, hvalues.binding, hb.binding, Option.or_none]
    cases kind with
    | uniform =>
      rw [if_neg nofun, if_pos rfl, Option.none_or]
      exact lookup_byName (ht.blocks .uniform) block
    | storage =>
      rw [if_pos rfl, if_neg nofun, Option.or_none]
      exact lookup_byName (ht.blocks .storage) block
  · exact ((hvalues.others h' hne).trans (hblocks.others h' hne)).trans (hbuffers.others h' hne)

/-! ## A compile -/

theorem untouched_release (hne : p.handle? ≠ some h) (j : Journal) :
    Untouched h j (p.release.play j).2 := by
  unfold release
  cases hh : p.handle? with
  | none =>
    simp only [play_pure]
    exact .refl h j
  | some x =>
    simp only [play_bind, play_pure]
    refine untouched_deleteProgram ?_ j
    rintro rfl
    exact hne hh

/-- The program takes a new object, which the device has nothing in, for its own. -/
theorem follows_adopt {j₁ : Journal} (hj : j₁.Sound) (hl : j₁.device.isLinked h = true)
    (hb : j₁.Distinct .program → Blank j₁ h) (ht : p.retained.Unique)
    (hothers : j₁.Distinct .program → ∀ h', j.Issued (.program h') → p.handle? ≠ some h' →
      h' ≠ h ∧ Untouched h' j j₁)
    (p₁ : Program) (hretained : p₁.retained = p.retained) (workGroup : Extent) (label : String) :
    Follows p j p.retained
      (((p₁.adopt h workGroup).replay h).play ((Device.setLabel (.program h) label).play j₁).2).1
      (((p₁.adopt h workGroup).replay h).play ((Device.setLabel (.program h) label).play j₁).2).2 := by
  obtain ⟨hlabel, hhold, hused⟩ := used_adopt hj hl p₁ workGroup label
  have hkept := fun h' => untouched_setLabel h' (.program h) label j₁
  generalize ((Device.setLabel (.program h) label).play j₁).2 = j₂ at hlabel hhold hused hkept ⊢
  have hadopted : (p₁.adopt h workGroup).retained = p.retained := hretained
  have hreplay := fun hd =>
    mirrored_replay hlabel.sound hhold rfl (hadopted ▸ ht) ((hb hd).untouched (hkept h))
  rw [hadopted] at hreplay
  have hbefore : Journal.Distinct _ .program → j₁.Distinct .program := fun hd =>
    hd.of_initial (hlabel.calls.trans hused.quiet.calls)
  refine ⟨?_, fun hd h' hh => ?_, fun hd h' hissued hne => ?_⟩
  · exact (retained_replay ..).trans hadopted
  · obtain rfl : h = h' := Option.some.inj (hused.handle.symm.trans hh)
    exact (hreplay (hbefore hd)).1
  · obtain ⟨hapart, hu⟩ := hothers (hbefore hd) h' hissued hne
    exact (hu.trans (hkept h')).trans ((hreplay (hbefore hd)).2 h' hapart)

theorem Ends.follows {j₁ : Journal} {unit : CompileUnit} {out : Program × Journal}
    (he : Ends p.retired unit j₁ out) (hfreed : Freed p.handle? j j₁)
    (hold : ∀ h, p.handle? ≠ some h → Untouched h j j₁) (ht : p.retained.Unique) :
    Follows p j p.retained out.1 out.2 := by
  -- The new object has a number that no object had before.
  have hothers : (p.retired.offer unit j₁).Distinct .program → ∀ h : ProgramHandle,
      j.Issued (.program h) → p.handle? ≠ some h →
        h ≠ j₁.device.nextProgramHandle ∧ Untouched h j (p.retired.offer unit j₁) := by
    intro hd h hissued hne
    have hapart : j₁.device.nextProgramHandle ≠ h := by
      rintro rfl
      exact hd.not_issued (t := .program j₁.device.nextProgramHandle) rfl
        (hissued.of_initial hfreed.calls)
    exact ⟨hapart.symm, (hold h hne).trans (untouched_addProgram _ _ hapart)⟩
  cases he with
  | refused hf => exact .of_none rfl rfl fun _ h _ hne => (hold h hne).trans (untouched_same rfl)
  | linked hf hh hl =>
    subst hh
    have ho := offered_addProgram hfreed hf unit.text
    exact follows_adopt ho.sound (ho.isLinked_eq.trans hl)
      (blank_addProgram hfreed.sound p.key.stage unit.text) ht hothers p.retired rfl _ _
  | rejected hf hh hl =>
    subst hh
    refine .of_none rfl rfl fun hd h hissued hne => ?_
    obtain ⟨hapart, hu⟩ := hothers (hd.of_initial (prefix_play ..)) h hissued hne
    exact hu.trans (untouched_deleteProgram hapart _)

/-- A compile leaves what was set, and the new object, if there is one, gets it. -/
theorem follows_compile (hj : j.Sound) (hp : p.Settled j) (ht : p.retained.Unique)
    (unit : CompileUnit) (listOnError : Bool) :
    Follows p j p.retained ((p.compile unit listOnError).play j).1
      ((p.compile unit listOnError).play j).2 :=
  (ends_compile p unit listOnError j).follows (play_release hj fun _ hh hd => hp.knows hd hh).2
    (fun _ hne => untouched_release hne j) ht

end Program

end ShaderDepot
