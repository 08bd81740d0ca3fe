import ShaderDepot.Proofs.Device.Frame
import ShaderDepot.Proofs.Program.Compile

/-!
# What becomes of a program, to the letter

Using a program changes nothing of it but what was set and which locations are known, and nothing of the
device but values.  From the ways in which a compile ends follows what it leaves of the program's record,
of all objects and of their labels (`renewed_compile`).
-/

namespace ShaderDepot

namespace Program

open Device Journal DeviceM

variable {p p' : Program} {j j' : Journal} {h : ProgramHandle}

/-! ## Uses -/

/-- A program as it is seen by who does not look at what uses may change. -/
def fixed (p : Program) : Program :=
  { p with uniforms := ∅, locations := ∅, uniformBlocks := ∅, storageBlocks := ∅ }

theorem fixed_location (p : Program) (name : String) (j : Journal) :
    ((p.location name).play j).1.2.fixed = p.fixed := by
  unfold location
  split
  · rw [play_pure]
  · split
    · rw [play_pure]
    · rw [play_bind, play_pure]
      rfl

theorem leaves_location (p : Program) (name : String) :
    Leaves besidePrograms (p.location name) := by
  unfold location
  split
  · exact leaves_pure _
  · split
    · exact leaves_pure _
    · next h _ _ _ => exact (leaves_askLocation h name).bind fun _ => leaves_pure _

theorem fixed_forward (p : Program) (h : ProgramHandle) (name : String) (value : UniformValue)
    (inactive : LogRecord) (j : Journal) :
    ((p.forward h name value inactive).play j).1.fixed = p.fixed := by
  have hlocation := fixed_location p name j
  unfold forward
  rw [play_bind]
  generalize (p.location name).play j = r at hlocation
  obtain ⟨⟨location, p'⟩, j'⟩ := r
  cases location <;> simp only [play_bind, play_pure] <;> exact hlocation

theorem leaves_forward (p : Program) (h : ProgramHandle) (name : String) (value : UniformValue)
    (inactive : LogRecord) : Leaves besidePrograms (p.forward h name value inactive) := by
  refine (leaves_location p name).bind fun found => ?_
  obtain ⟨location, p'⟩ := found
  cases location with
  | none => exact (leaves_note _).bind fun _ => leaves_pure _
  | some location => exact (Device.leaves_setUniform h location value).bind fun _ => leaves_pure _

theorem fixed_setUniform (p : Program) (name : String) (value : UniformValue) (j : Journal) :
    ((p.setUniform name value).play j).1.fixed = p.fixed := by
  unfold setUniform
  dsimp only
  split
  · rw [play_pure]
    rfl
  · split
    · exact fixed_forward ..
    · rw [play_pure]
      rfl

theorem leaves_setUniform (p : Program) (name : String) (value : UniformValue) :
    Leaves besidePrograms (p.setUniform name value) := by
  unfold setUniform
  dsimp only
  split
  · exact leaves_pure _
  · split
    · exact leaves_forward _ _ name value _
    · exact leaves_pure _

theorem fixed_bindBlock (p : Program) (kind : BlockKind) (block : String) (n : Nat) (j : Journal) :
    ((p.bindBlock kind block n).play j).1.fixed = p.fixed := by
  rw [play_bindBlock]
  cases kind <;> rfl

theorem leaves_bindBlock (p : Program) (kind : BlockKind) (block : String) (n : Nat) :
    Leaves besidePrograms (p.bindBlock kind block n) := fun j => by
  rw [play_bindBlock]
  cases p.usable? with
  | none => rfl
  | some h => exact Device.leaves_bindBlock kind h block n j

theorem fixed_replay (p : Program) (h : ProgramHandle) (j : Journal) :
    ((p.replay h).play j).1.fixed = p.fixed := by
  have hvalues := play_foldlM (motive := fun _ p' _ => p'.fixed = p.fixed)
    (fun p' (entry : String × UniformValue) =>
      p'.forward h entry.1 entry.2 (keptRecord p'.key entry.1 entry.2))
    (byName p.uniforms) (b := { p with locations := ∅ }) (j := j) rfl
    fun entry _ p' j' hp => (fixed_forward p' h entry.1 entry.2 _ j').trans hp
  unfold replay
  simp only [play_bind, play_pure]
  exact hvalues

theorem leaves_replay (p : Program) (h : ProgramHandle) : Leaves besidePrograms (p.replay h) := by
  have hvalues := leaves_foldlM
    (fun p' (entry : String × UniformValue) =>
      leaves_forward p' h entry.1 entry.2 (keptRecord p'.key entry.1 entry.2))
    (byName p.uniforms) { p with locations := ∅ }
  have hbindings : ∀ kind (bindings : List (String × Nat)),
      Leaves besidePrograms (bindings.forM fun e => Device.bindBlock kind h e.1 e.2) :=
    fun kind bindings => leaves_forM (fun e => Device.leaves_bindBlock kind h e.1 e.2) bindings
  exact hvalues.bind fun p' => (hbindings .uniform (byName p'.uniformBlocks)).bind fun _ =>
    (hbindings .storage (byName p'.storageBlocks)).bind fun _ => leaves_pure p'

/-! ## What each way leaves -/

section

variable {unit : CompileUnit} {out : Program × Journal}

/-- What is left when a new object that linked is the program's own and was given what was set. -/
structure Adopted (p : Program) (unit : CompileUnit) (h : ProgramHandle) (j : Journal)
    (out : Program × Journal) : Prop where
  handle : out.1.handle? = some h
  compileCount : out.1.compileCount = p.compileCount
  workGroup : out.1.workGroup = (p.adopt h ((p.offer unit j).device.workGroup h)).workGroup
  same : SameObjects (p.offer unit j).device out.2.device
  issues : ∀ kind, out.2.issues kind = (p.offer unit j).issues kind
  labels : out.2.device.labels = j.device.labels.insert (.program h) p.key.path
  bound : out.2.device.bound = j.device.bound

theorem adopted_replay (hj : j.Sound) (hf : j.device.programRefusal? = none)
    (hh : h = j.device.nextProgramHandle)
    (hl : (Compiler.compile p.key.stage unit.text).linked = true) :
    Adopted p unit h j (((p.adopt h ((p.offer unit j).device.workGroup h)).replay h).play
      ((Device.setLabel (.program h) p.key.path).play (p.offer unit j)).2) := by
  subst hh
  set h := j.device.nextProgramHandle
  have hlinked : (p.offer unit j).device.isLinked h = true := (isLinked_offer p unit j).trans hl
  obtain ⟨hlabel, -, hused⟩ := used_adopt (sound_offer hj hf p unit) hlinked p
    ((p.offer unit j).device.workGroup h) p.key.path
  set j' := ((Device.setLabel (.program h) p.key.path).play (p.offer unit j)).2
  set q := p.adopt h ((p.offer unit j).device.workGroup h)
  have hfixed := fixed_replay q h j'
  have hbeside : _ = j'.device.besidePrograms := leaves_replay q h j'
  exact {
    handle := hused.handle
    compileCount := (congrArg (·.compileCount) hfixed :)
    workGroup := (congrArg (·.workGroup) hfixed :)
    same := hlabel.same.trans hused.quiet.same
    issues := fun kind => (hused.quiet.issues kind).trans (hlabel.issues kind)
    labels := (congrArg (·.labels) hbeside :)
    bound := (congrArg (·.bound) hbeside :) }

theorem Ends.compileCount (he : Ends p unit j out) (hj : j.Sound) :
    out.1.compileCount = p.compileCount := by
  cases he with
  | refused hf => rfl
  | linked hf hh hl => exact (adopted_replay hj hf hh hl).compileCount
  | rejected hf hh hl => rfl

/-- Of the objects only the one that the program has afterwards is new. -/
theorem Ends.made (he : Ends p unit j out) (hj : j.Sound) (hn : p.handle? = none)
    (hd : out.2.Distinct .program) (a : ProgramHandle) :
    out.2.device.made? a =
      if out.1.handle? = some a then some (.make p.key.stage unit.text) else j.device.made? a := by
  cases he with
  | refused hf =>
    rw [if_neg (by rw [hn]; exact nofun)]
    rfl
  | linked hf hh hl =>
    have ha := adopted_replay hj hf hh hl
    rw [ha.same.made, made?_offer, ha.handle, hh]
    exact if_congr Option.some_inj.symm rfl rfl
  | rejected hf hh hl =>
    subst hh
    rw [play_deleteProgram, if_neg (by rw [hn]; exact nofun)]
    show ((p.offer unit j).device.afterDelete _).made? a = _
    rw [made?_afterDelete, made?_offer]
    split
    · next e =>
      -- No object had the number of the one that went.
      subst e
      have hoffered : (p.offer unit j).Distinct .program := hd.of_initial (prefix_play ..)
      refine (Option.not_isSome_iff_eq_none.mp fun hsome => ?_).symm
      exact hoffered.not_issued (t := .program j.device.nextProgramHandle) rfl
        (hj.issued_of_knows (t := .program _) hsome)
    · rfl

/-- A program has the work groups that the device reports for its object. -/
theorem Ends.workGroup (he : Ends p unit j out) (hj : j.Sound) (hn : p.handle? = none)
    (hzero : p.workGroup = .zero) :
    out.1.workGroup = (out.1.handle?.map out.2.device.workGroup).getD .zero := by
  cases he with
  | refused hf =>
    rw [hn]
    exact hzero
  | linked hf hh hl =>
    have ha := adopted_replay hj hf hh hl
    generalize (play _ _ : Program × Journal) = out at ha ⊢
    -- A device reports no work groups but those of compute programs, and no others are kept.
    rw [ha.workGroup, ha.handle, Option.map_some, Option.getD_some, workGroup_eq out.2.device,
      ha.same.made, ← workGroup_eq, adopt, workGroup_eq, made?_offer, if_pos hh.symm]
    show (if p.key.stage = .compute then if p.key.stage = .compute then _ else _ else _) =
      if p.key.stage = .compute then _ else _
    split <;> rfl
  | rejected hf hh hl =>
    rw [hn]
    exact hzero

theorem issues_offer (p : Program) (unit : CompileUnit) (j : Journal) :
    ((p.offer unit j).issues .program).length = (j.issues .program).length + 1 ∧
      (p.offer unit j).issues .pipeline = j.issues .pipeline := by
  refine ⟨?_, (issues_push ..).trans (List.append_nil _)⟩
  rw [offer, issues_push, List.length_append]
  rfl

/-- One program was asked for, which was made or refused, and nothing else. -/
theorem Ends.attempted (he : Ends p unit j out) (hj : j.Sound) :
    (out.2.issues .program).length + out.2.device.refusedPrograms =
        (j.issues .program).length + j.device.refusedPrograms + 1 ∧
      out.2.issues .pipeline = j.issues .pipeline := by
  obtain ⟨hprograms, hpipelines⟩ := issues_offer p unit j
  have hrefused : (p.offer unit j).device.refusedPrograms = j.device.refusedPrograms := rfl
  cases he with
  | refused hf => exact ⟨rfl, rfl⟩
  | linked hf hh hl =>
    have ha := adopted_replay hj hf hh hl
    refine ⟨?_, (ha.issues .pipeline).trans hpipelines⟩
    rw [ha.issues, ha.same.refusedPrograms, hprograms, hrefused]
    omega
  | rejected hf hh hl =>
    obtain ⟨programs, labels, hd⟩ := afterDelete_eq (p.offer unit j).device j.device.nextProgramHandle
    subst hh
    rw [play_deleteProgram, hd]
    refine ⟨?_, (issues_push_of_none rfl _ _).trans hpipelines⟩
    rw [issues_push_of_none rfl, hprograms]
    show _ + (p.offer unit j).device.refusedPrograms = _
    rw [hrefused]
    omega

theorem Ends.bound (he : Ends p unit j out) (hj : j.Sound) : out.2.device.bound = j.device.bound := by
  cases he with
  | refused hf => rfl
  | linked hf hh hl => exact (adopted_replay hj hf hh hl).bound
  | rejected hf hh hl =>
    obtain ⟨programs, labels, hd⟩ := afterDelete_eq (p.offer unit j).device j.device.nextProgramHandle
    subst hh
    rw [play_deleteProgram, hd]
    rfl

theorem Ends.tidy (he : Ends p unit j out) (hj : j.Sound) (ht : j.device.Tidy) :
    out.2.device.Tidy := by
  have hoffer : (p.offer unit j).device.Tidy := ht.addProgram p.key.stage unit.text
  cases he with
  | refused hf => exact ht.congr rfl fun t ht => by cases t <;> exact ht
  | linked hf hh hl =>
    have ha := adopted_replay hj hf hh hl
    subst hh
    exact (hoffer.setLabel (knows_offer p unit j) p.key.path).congr ha.labels
      fun t => (ha.same.knows_iff t).mpr
  | rejected hf hh hl =>
    rw [play_deleteProgram]
    exact hoffer.afterDelete _

/-- The label of an object that was there before is as it was. -/
theorem Ends.labels (he : Ends p unit j out) (hj : j.Sound) (hd : out.2.Distinct .program)
    {t : LabelTarget} (ht : j.Issued t) :
    out.2.device.labels.get? t = j.device.labels.get? t := by
  have hne : (p.offer unit j).Distinct .program → .program j.device.nextProgramHandle ≠ t := by
    rintro hd rfl
    exact hd.not_issued (t := .program j.device.nextProgramHandle) rfl ht
  cases he with
  | refused hf => rfl
  | linked hf hh hl =>
    have ha := adopted_replay hj hf hh hl
    have hd : (p.offer unit j).Distinct .program := by
      rw [Distinct, ← ha.issues]
      exact hd
    rw [ha.labels, Table.get?_insert, hh, if_neg (hne hd)]
  | rejected hf hh hl =>
    subst hh
    have hd : (p.offer unit j).Distinct .program := hd.of_initial (prefix_play ..)
    rw [play_deleteProgram]
    exact labels_afterDelete _ (hne hd)

end

/-! ## A compile -/

theorem journal_release (p : Program) (j : Journal) :
    (p.release.play j).2 =
      p.handle?.elim j fun h => j.push (.deleteProgram h) (j.device.afterDelete h) := by
  unfold release
  cases p.handle? with
  | none => simp only [play_pure, Option.elim_none]
  | some h => simp only [play_bind, play_pure, play_deleteProgram, Option.elim_some]

theorem labels_release {t : LabelTarget} (ht : p.handle?.map .program ≠ some t) (j : Journal) :
    (p.release.play j).2.device.labels.get? t = j.device.labels.get? t := by
  rw [journal_release]
  cases hh : p.handle? with
  | none => rfl
  | some h =>
    refine labels_afterDelete _ ?_
    rintro rfl
    exact ht (by rw [hh]; rfl)

theorem tidy_release (p : Program) (ht : j.device.Tidy) : (p.release.play j).2.device.Tidy := by
  rw [journal_release]
  cases p.handle? with
  | none => exact ht
  | some h => exact ht.afterDelete h

theorem bound_release (p : Program) (j : Journal) :
    (p.release.play j).2.device.bound = j.device.bound := by
  rw [journal_release]
  cases p.handle? with
  | none => rfl
  | some h =>
    obtain ⟨programs, labels, hd⟩ := afterDelete_eq j.device h
    rw [Option.elim_some, hd]
    rfl

/-- What a compile leaves, also of the record of a program, of all objects and of the labels. -/
structure Renewed (p : Program) (text : String) (j : Journal) (p' : Program) (j' : Journal) : Prop
    extends Recompiled p text j p' j' where
  compileCount : p'.compileCount = p.compileCount + 1
  workGroup : p'.workGroup = (p'.handle?.map j'.device.workGroup).getD .zero
  /-- The program's object of before is gone, and the one that it has now is the only new one. -/
  made : j'.Distinct .program → ∀ a, j'.device.made? a =
    if p'.handle? = some a then some (.make p.key.stage text)
    else if p.handle? = some a then none else j.device.made? a
  bound : j'.device.bound = j.device.bound
  labels : j'.Distinct .program → ∀ t, j.Issued t → p.handle?.map .program ≠ some t →
    j'.device.labels.get? t = j.device.labels.get? t
  tidy : j.device.Tidy → j'.device.Tidy
  /-- One program was asked for, which was made or refused. -/
  attempted : (j'.issues .program).length + j'.device.refusedPrograms =
    (j.issues .program).length + j.device.refusedPrograms + 1
  issues : j'.issues .pipeline = j.issues .pipeline

theorem renewed_compile (hj : j.Sound) (hp : p.Settled j) (unit : CompileUnit)
    (listOnError : Bool) :
    Renewed p unit.text j ((p.compile unit listOnError).play j).1
      ((p.compile unit listOnError).play j).2 := by
  have hfreed := (play_release hj fun _ hh hd => hp.knows hd hh).2
  have he := ends_compile p unit listOnError j
  exact {
    toRecompiled := recompiled_compile hj hp unit listOnError
    compileCount := he.compileCount hfreed.sound
    workGroup := he.workGroup hfreed.sound rfl rfl
    made := fun hd a => by
      rw [he.made hfreed.sound rfl hd, hfreed.made]
      rfl
    bound := (he.bound hfreed.sound).trans (bound_release p j)
    labels := fun hd t ht hne => by
      rw [he.labels hfreed.sound hd (ht.of_initial hfreed.calls), labels_release hne]
    tidy := fun ht => he.tidy hfreed.sound (tidy_release p ht)
    attempted := by
      rw [(he.attempted hfreed.sound).1, hfreed.issues, hfreed.refusedPrograms]
    issues := (he.attempted hfreed.sound).2.trans (hfreed.issues .pipeline) }

end Program

end ShaderDepot
