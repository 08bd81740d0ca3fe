import ShaderDepot.Proofs.Device.Creation
import ShaderDepot.Proofs.Program.Use

/-!
# Compiling a program

A compile gives the program's old object back, and then ends in one of three ways (`Program.Ends`): the
device refuses, the new object links and gets what was set on the program, or the new object goes again.
Whichever it is, the program is settled after it, and no other object on the device is concerned
(`recompiled_compile`).
-/

namespace ShaderDepot

namespace Program

open Device Journal DeviceM

variable {p p' : Program} {j j' : Journal} {h : ProgramHandle}

/-! ## Giving an object back -/

/-- At most the object with a handle was given back. -/
structure Freed (handle? : Option ProgramHandle) (j j' : Journal) : Prop where
  sound : j'.Sound
  calls : j.calls <+: j'.calls
  issues : ∀ kind, j'.issues kind = j.issues kind
  made : ∀ h, j'.device.made? h = if handle? = some h then none else j.device.made? h
  pipelines : j'.device.pipelines = j.device.pipelines
  refusedPrograms : j'.device.refusedPrograms = j.device.refusedPrograms
  programRefusal : j'.device.programRefusal? = j.device.programRefusal?

theorem freed_deleteProgram (hj : j.Sound) (hk : j.Distinct .program → j.device.Knows (.program h)) :
    Freed (some h) j ((Device.deleteProgram h).play j).2 := by
  have hmade := made?_afterDelete j.device h
  have hsound := sound_afterDelete hj hk
  rw [play_deleteProgram]
  obtain ⟨programs, labels, hd⟩ := afterDelete_eq j.device h
  rw [hd] at hmade hsound ⊢
  refine ⟨hsound, prefix_push .., issues_push_of_none rfl _, fun h' => ?_, rfl, rfl, rfl⟩
  simp only [Option.some_inj]
  exact hmade h'

theorem play_release (hj : j.Sound)
    (hk : ∀ h, p.handle? = some h → j.Distinct .program → j.device.Knows (.program h)) :
    (p.release.play j).1 = { p with handle? := none } ∧ Freed p.handle? j (p.release.play j).2 := by
  unfold release
  cases hh : p.handle? with
  | none =>
    simp only [play_pure]
    refine ⟨trivial, hj, List.prefix_rfl, fun _ => rfl, fun h' => ?_, rfl, rfl, rfl⟩
    rw [if_neg nofun]
  | some h =>
    simp only [play_bind, play_pure]
    exact ⟨trivial, freed_deleteProgram hj (hk h hh)⟩

/-! ## The ways of a compile -/

/-- A program that a compile has taken its object from. -/
def retired (p : Program) : Program :=
  { p with
    build := .compiling
    compileCount := p.compileCount + 1
    workGroup := .zero
    handle? := none }

/-- The journal once a new object was made for a program. -/
def offer (p : Program) (unit : CompileUnit) (j : Journal) : Journal :=
  j.push (.createProgram j.device.nextProgramHandle p.key.stage)
    (j.device.addProgram p.key.stage unit.text)

/-- The ways in which a compile ends for a program that has given its object back. -/
inductive Ends (p : Program) (unit : CompileUnit) (j : Journal) : Program × Journal → Prop
  /-- The device makes no object. -/
  | refused {fault : DeviceError} (hf : j.device.programRefusal? = some fault) :
    Ends p unit j ({ p with build := .invalid }, ⟨j.device.refuseProgram, j.calls⟩)
  /-- The new object is given what was set on the program. -/
  | linked {h : ProgramHandle} (hf : j.device.programRefusal? = none)
      (hh : h = j.device.nextProgramHandle)
      (hl : (Compiler.compile p.key.stage unit.text).linked = true) :
    Ends p unit j (((p.adopt h ((p.offer unit j).device.workGroup h)).replay h).play
      ((Device.setLabel (.program h) p.key.path).play (p.offer unit j)).2)
  /-- The new object goes again. -/
  | rejected {h : ProgramHandle} (hf : j.device.programRefusal? = none)
      (hh : h = j.device.nextProgramHandle)
      (hl : (Compiler.compile p.key.stage unit.text).linked = false) :
    Ends p unit j ({ p with build := .invalid }, ((Device.deleteProgram h).play (p.offer unit j)).2)

theorem play_retire_eq (p : Program) (j : Journal) :
    p.retire.play j = (p.retired, (p.release.play j).2) := by
  unfold retire release
  cases p.handle? <;> simp only [play_bind, play_pure] <;> rfl

theorem sound_offer (hj : j.Sound) (hf : j.device.programRefusal? = none) (p : Program)
    (unit : CompileUnit) : (p.offer unit j).Sound := sound_addProgram hj hf p.key.stage unit.text

theorem made?_offer (p : Program) (unit : CompileUnit) (j : Journal) (a : ProgramHandle) :
    (p.offer unit j).device.made? a =
      if j.device.nextProgramHandle = a then some (.make p.key.stage unit.text)
      else j.device.made? a := made?_addProgram ..

theorem knows_offer (p : Program) (unit : CompileUnit) (j : Journal) :
    (p.offer unit j).device.Knows (.program j.device.nextProgramHandle) := by
  rw [Knows, made?_offer, if_pos rfl]
  rfl

theorem isLinked_offer (p : Program) (unit : CompileUnit) (j : Journal) :
    (p.offer unit j).device.isLinked j.device.nextProgramHandle =
      (Compiler.compile p.key.stage unit.text).linked := by
  show (j.device.addProgram p.key.stage unit.text).isLinked _ = _
  rw [Device.isLinked_eq, made?_addProgram, if_pos rfl]
  rfl

theorem ends_compile (p : Program) (unit : CompileUnit) (listOnError : Bool) (j : Journal) :
    Ends p.retired unit (p.release.play j).2 ((p.compile unit listOnError).play j) := by
  unfold compile
  rw [play_bind, play_retire_eq]
  generalize (p.release.play j).2 = j₁
  cases hf : j₁.device.programRefusal? with
  | some fault =>
    rw [play_bind, play_createProgram_of_refusal _ _ _ hf, play_bind, play_report, play_pure]
    exact .refused hf
  | none =>
    rw [play_bind, play_createProgram _ _ _ hf]
    simp only
    rw [play_bind, play_get]
    change Ends _ _ _ (play (if (offer p.retired unit j₁).device.isLinked _ = true then _ else _)
      (offer p.retired unit j₁))
    rw [isLinked_offer]
    cases hl : (Compiler.compile p.retired.key.stage unit.text).linked with
    | true =>
      rw [if_pos rfl, play_bind, play_bind, play_bind, play_note, play_pure]
      exact .linked hf rfl hl
    | false =>
      rw [if_neg Bool.false_ne_true, play_bind, play_bind, play_report]
      cases listOnError <;> simp only [Bool.false_eq_true, if_true, if_false, play_bind, play_report,
        play_pure] <;> exact .rejected hf rfl hl

/-! ## A new object -/

theorem used_replay (hj : j.Sound) (hp : { p with locations := ∅ }.Holds j.device h)
    (hv : p.build = .valid) :
    Used { p with locations := ∅ } j ((p.replay h).play j).1 ((p.replay h).play j).2 := by
  have hsettled : Settled { p with locations := ∅ } j := hp.settled hv
  have hvalues := play_foldlM
    (motive := fun _ p' j' => Used { p with locations := ∅ } j p' j')
    (fun p' (entry : String × UniformValue) =>
      p'.forward h entry.1 entry.2 (keptRecord p'.key entry.1 entry.2))
    (byName p.uniforms) (.refl _ hj) (by
      intro entry _ p' j' hu
      have husable : p'.usable? = some h :=
        usable?_eq_some.mpr ⟨hu.handle.trans hp.handle, hu.build.trans hv⟩
      exact hu.trans (used_forward hu.quiet.sound (hu.settled hsettled) husable ..))
  unfold replay
  simp only [play_bind, play_pure]
  generalize (play _ j : Program × Journal) = r at hvalues ⊢
  obtain ⟨p', j'⟩ := r
  -- The bindings follow the values, and the object is linked all the while.
  have hhold : ∀ j'', Quiet j' j'' → j''.device.isLinked h = true := by
    intro j'' hq
    rw [isLinked_eq, hq.same.made h, ← isLinked_eq]
    exact (hvalues.holds h hp).linked
  have hbindings : ∀ kind (bindings : List (String × Nat)) j'', Quiet j' j'' →
      Quiet j' ((bindings.forM fun e => Device.bindBlock kind h e.1 e.2).play j'').2 :=
    fun kind bindings j'' hq => play_forM _ bindings hq fun e _ j'' hq =>
      hq.trans (quiet_bindBlock hq.sound (fun _ => hhold j'' hq) kind e.1 e.2)
  have hblocks := hbindings .uniform (byName p'.uniformBlocks) j' (.refl hvalues.quiet.sound)
  exact hvalues.trans (used_quiet (hbindings .storage (byName p'.storageBlocks) _ hblocks)
    rfl rfl rfl rfl rfl)

/-- A new object that linked gets a label and is given what was set. -/
theorem used_adopt (hj : j.Sound) (hl : j.device.isLinked h = true) (p : Program) (workGroup : Extent)
    (label : String) :
    let q := p.adopt h workGroup
    let j' := ((Device.setLabel (.program h) label).play j).2
    Quiet j j' ∧ { q with locations := ∅ }.Holds j'.device h ∧
      Used { q with locations := ∅ } j' ((q.replay h).play j').1 ((q.replay h).play j').2 := by
  intro q j'
  have hlabel : Quiet j j' := quiet_setLabel hj (fun _ => knows_program_of_isLinked hl) label
  have hhold : { q with locations := ∅ }.Holds j'.device h := by
    -- No location is remembered from an earlier object.
    refine ⟨rfl, ?_, fun name found hf => nomatch hf⟩
    rw [Device.isLinked_eq, hlabel.same.made, ← Device.isLinked_eq, hl]
  exact ⟨hlabel, hhold, used_replay hlabel.sound hhold rfl⟩

/-! ## A compile -/

/-- What a compile of a text leaves of a program and of the device. -/
structure Recompiled (p : Program) (text : String) (j : Journal) (p' : Program) (j' : Journal) :
    Prop where
  key : p'.key = p.key
  entry : p'.entry = p.entry
  sound : j'.Sound
  calls : j.calls <+: j'.calls
  /-- The program holds a new object of the text, or it has none because of the text or because the
  device refused. -/
  outcome :
    (p'.build = .valid ∧ ∃ h, (j'.Distinct .program → ¬j.Issued (.program h)) ∧
      p'.Holds j'.device h ∧ j'.device.made? h = some (.make p.key.stage text)) ∨
    (p'.build = .invalid ∧ p'.handle? = none ∧
      ((Compiler.compile p.key.stage text).linked = true →
        j.device.refusedPrograms < j'.device.refusedPrograms))
  others : j'.Distinct .program → ∀ h, j.Issued (.program h) → p.handle? ≠ some h →
    j'.device.made? h = j.device.made? h
  pipelines : j'.device.pipelines = j.device.pipelines
  refusedPrograms : j.device.refusedPrograms ≤ j'.device.refusedPrograms
  /-- A device that does not refuse the next program refuses none. -/
  granted : j.device.programRefusal? = none →
    j'.device.refusedPrograms = j.device.refusedPrograms

variable {text : String}

theorem Recompiled.settled (hr : Recompiled p text j p' j') : p'.Settled j' := by
  rcases hr.outcome with ⟨hv, h, -, hold, -⟩ | ⟨hi, hn, -⟩
  · exact hold.settled hv
  · exact settled_of_none (by rw [hi]; exact nofun) hn

/-- The object that a program has afterwards. -/
theorem Recompiled.object (hr : Recompiled p text j p' j') (hh : p'.handle? = some h) :
    (j'.Distinct .program → ¬j.Issued (.program h)) ∧
      j'.device.made? h = some (.make p.key.stage text) := by
  rcases hr.outcome with ⟨-, a, hfresh, hold, hmade⟩ | ⟨-, hn, -⟩
  · obtain rfl := Option.some.inj (hold.handle.symm.trans hh)
    exact ⟨hfresh, hmade⟩
  · rw [hn] at hh
    cases hh

/-- A program is valid only if the text links, and if it does, unless the device refused. -/
theorem Recompiled.verdict (hr : Recompiled p text j p' j') :
    (p'.build = .valid → (Compiler.compile p.key.stage text).linked = true) ∧
      (j'.device.refusedPrograms = 0 → (Compiler.compile p.key.stage text).linked = true →
        p'.build = .valid) := by
  rcases hr.outcome with ⟨hv, h, -, hold, hmade⟩ | ⟨hi, -, hlt⟩
  · refine ⟨fun _ => ?_, fun _ _ => hv⟩
    have hl := hold.linked
    rw [Device.isLinked_eq, hmade, Option.any_some] at hl
    exact hl
  · refine ⟨fun hv => absurd (hi.symm.trans hv) nofun, fun hzero hl => ?_⟩
    have := hlt hl
    omega

/-- The device made an object of a text for a program that had given its own back. -/
structure Offered (p : Program) (text : String) (j j' : Journal) (h : ProgramHandle) : Prop where
  sound : j'.Sound
  calls : j.calls <+: j'.calls
  fresh : j'.Distinct .program → ¬j.Issued (.program h)
  made : j'.device.made? h = some (.make p.key.stage text)
  others : ∀ a : ProgramHandle, h ≠ a → p.handle? ≠ some a → j'.device.made? a = j.device.made? a
  pipelines : j'.device.pipelines = j.device.pipelines
  refusedPrograms : j'.device.refusedPrograms = j.device.refusedPrograms

theorem offered_addProgram {j₁ : Journal} (hfreed : Freed p.handle? j j₁)
    (hf : j₁.device.programRefusal? = none) (text : String) :
    Offered p text j (j₁.push (.createProgram j₁.device.nextProgramHandle p.key.stage)
      (j₁.device.addProgram p.key.stage text)) j₁.device.nextProgramHandle where
  sound := sound_addProgram hfreed.sound hf p.key.stage text
  calls := hfreed.calls.trans (prefix_push ..)
  fresh hd hissued := hd.not_issued (t := .program j₁.device.nextProgramHandle) rfl
    (hissued.of_initial hfreed.calls)
  made := by
    show (j₁.device.addProgram p.key.stage text).made? _ = _
    rw [made?_addProgram, if_pos rfl]
  others a hne hpa := by
    show (j₁.device.addProgram p.key.stage text).made? a = _
    rw [made?_addProgram, if_neg hne, hfreed.made, if_neg hpa]
  pipelines := hfreed.pipelines
  refusedPrograms := hfreed.refusedPrograms

/-- The object is none of those that were there. -/
theorem Offered.ne (ho : Offered p text j j' h) (hd : j'.Distinct .program) {a : ProgramHandle}
    (ha : j.Issued (.program a)) : h ≠ a := by
  rintro rfl
  exact ho.fresh hd ha

theorem Offered.isLinked_eq (ho : Offered p text j j' h) :
    j'.device.isLinked h = (Compiler.compile p.key.stage text).linked := by
  rw [Device.isLinked_eq, ho.made]
  rfl

theorem Offered.adopt (ho : Offered p text j j' h)
    (hl : (Compiler.compile p.key.stage text).linked = true) (p₁ : Program)
    (hkey : p₁.key = p.key) (hentry : p₁.entry = p.entry) (workGroup : Extent) (label : String) :
    Recompiled p text j
      (((p₁.adopt h workGroup).replay h).play ((Device.setLabel (.program h) label).play j').2).1
      (((p₁.adopt h workGroup).replay h).play ((Device.setLabel (.program h) label).play j').2).2 := by
  obtain ⟨hlabel, hhold, hused⟩ := used_adopt ho.sound (ho.isLinked_eq.trans hl) p₁ workGroup label
  have hquiet := hlabel.trans hused.quiet
  have hrefused : _ = j.device.refusedPrograms := hquiet.same.refusedPrograms.trans ho.refusedPrograms
  exact {
    key := hused.key.trans hkey
    entry := hused.entry.trans hentry
    sound := hquiet.sound
    calls := ho.calls.trans hquiet.calls
    outcome := by
      refine .inl ⟨hused.build, h, fun hd => ho.fresh (hd.of_initial hquiet.calls),
        hused.holds h hhold, ?_⟩
      rw [hquiet.same.made, ho.made]
    others := fun hd a ha hpa => by
      rw [hquiet.same.made, ho.others a (ho.ne (hd.of_initial hquiet.calls) ha) hpa]
    pipelines := by
      rw [hquiet.same.pipelines, ho.pipelines]
    refusedPrograms := Nat.le_of_eq hrefused.symm
    granted := fun _ => hrefused }

theorem Offered.reject (ho : Offered p text j j' h)
    (hl : (Compiler.compile p.key.stage text).linked = false) (p' : Program)
    (hkey : p'.key = p.key) (hentry : p'.entry = p.entry) (hbuild : p'.build = .invalid)
    (hhandle : p'.handle? = none) :
    Recompiled p text j p' ((Device.deleteProgram h).play j').2 := by
  have hknows : j'.device.Knows (.program h) := by
    rw [Device.Knows, ho.made]
    rfl
  have hfreed := freed_deleteProgram ho.sound fun _ => hknows
  exact {
    key := hkey
    entry := hentry
    sound := hfreed.sound
    calls := ho.calls.trans hfreed.calls
    outcome := .inr ⟨hbuild, hhandle, fun hlinked => absurd (hl.symm.trans hlinked) Bool.false_ne_true⟩
    others := fun hd a ha hpa => by
      -- The object that goes is the new one.
      have hne := ho.ne (hd.of_initial hfreed.calls) ha
      rw [hfreed.made, if_neg fun e => hne (Option.some.inj e), ho.others a hne hpa]
    pipelines := hfreed.pipelines.trans ho.pipelines
    refusedPrograms := Nat.le_of_eq (hfreed.refusedPrograms.trans ho.refusedPrograms).symm
    granted := fun _ => hfreed.refusedPrograms.trans ho.refusedPrograms }

theorem recompiled_refuseProgram {j₁ : Journal} (hfreed : Freed p.handle? j j₁) {fault : DeviceError}
    (hf : j₁.device.programRefusal? = some fault) (text : String) (hkey : p'.key = p.key)
    (hentry : p'.entry = p.entry) (hbuild : p'.build = .invalid) (hhandle : p'.handle? = none) :
    Recompiled p text j p' ⟨j₁.device.refuseProgram, j₁.calls⟩ where
  key := hkey
  entry := hentry
  sound := sound_refuseProgram hfreed.sound
  calls := hfreed.calls
  outcome := by
    refine .inr ⟨hbuild, hhandle, fun _ => ?_⟩
    rw [← hfreed.refusedPrograms]
    exact Nat.lt_succ_self _
  others _ a _ hpa := by
    show j₁.device.made? a = _
    rw [hfreed.made, if_neg hpa]
  pipelines := hfreed.pipelines
  refusedPrograms := by
    rw [← hfreed.refusedPrograms]
    exact Nat.le_succ _
  granted hnone := by
    rw [← hfreed.programRefusal, hf] at hnone
    cases hnone

theorem Ends.recompiled {j₁ : Journal} {unit : CompileUnit} {out : Program × Journal}
    (he : Ends p.retired unit j₁ out) (hfreed : Freed p.handle? j j₁) :
    Recompiled p unit.text j out.1 out.2 := by
  cases he with
  | refused hf => exact recompiled_refuseProgram hfreed hf unit.text rfl rfl rfl rfl
  | linked hf hh hl =>
    subst hh
    exact (offered_addProgram hfreed hf unit.text).adopt hl p.retired rfl rfl _ _
  | rejected hf hh hl =>
    subst hh
    exact (offered_addProgram hfreed hf unit.text).reject hl _ rfl rfl rfl rfl

/-- A settled program is compiled into a new object, or loses its object. -/
theorem recompiled_compile (hj : j.Sound) (hp : p.Settled j) (unit : CompileUnit)
    (listOnError : Bool) :
    Recompiled p unit.text j ((p.compile unit listOnError).play j).1
      ((p.compile unit listOnError).play j).2 :=
  (ends_compile p unit listOnError j).recompiled (play_release hj fun _ hh hd => hp.knows hd hh).2

end Program

end ShaderDepot
