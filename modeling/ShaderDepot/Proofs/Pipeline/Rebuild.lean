import ShaderDepot.Pipeline
import ShaderDepot.Proofs.Device.Creation
import ShaderDepot.Proofs.Program.Use
import ShaderDepot.Proofs.Table

/-!
# Making a pipeline anew

A pipeline gives its old object back and gets a new one, to which the objects of its valid programs are
attached, each at its stage (`rebuilt_rebuild`).  The programs and the other pipelines on the device are
left alone.
-/

namespace ShaderDepot

namespace Pipeline

open Device Journal DeviceM

variable {p : Pipeline} {j j' : Journal} {h : PipelineHandle}

/-! ## The members of a pipeline -/

/-- The object to attach at a stage. -/
def wanted? (p : Pipeline) (programs : Array Program) (stage : Stage) : Option ProgramHandle :=
  ((p.slots.get? stage).bind (programs[·.index]?)).bind Program.usable?

theorem members_eq (p : Pipeline) (programs : Array Program) :
    p.members programs = Stage.all.filterMap fun stage =>
      ((p.slots.get? stage).bind (programs[·.index]?)).map (stage, ·) := by
  rw [members, StageSlots.filled, List.filterMap_filterMap]
  congr 1
  funext stage
  cases p.slots.get? stage <;> rfl

theorem lookup_filterMap {α : Type} (f : Stage → Option α) (l : List Stage) (stage : Stage) :
    (l.filterMap fun s => (f s).map (s, ·)).lookup stage = if stage ∈ l then f stage else none := by
  induction l with
  | nil => rfl
  | cons s l ih =>
    rw [List.filterMap_cons]
    by_cases hs : stage = s
    · subst hs
      rw [if_pos (List.mem_cons_self ..)]
      cases hf : f stage with
      | none =>
        show (List.filterMap _ l).lookup stage = none
        rw [ih, hf, ite_self]
      | some a =>
        show ((stage, a) :: List.filterMap _ l).lookup stage = some a
        rw [List.lookup_cons, beq_self_eq_true]
    · have hmem : stage ∈ s :: l ↔ stage ∈ l := by
        rw [List.mem_cons]
        exact or_iff_right hs
      simp only [hmem, ← ih]
      cases f s with
      | none => rfl
      | some a =>
        show ((s, a) :: List.filterMap _ l).lookup stage = _
        rw [List.lookup_cons, beq_false_of_ne hs]

theorem nodup_filterMap {α : Type} (f : Stage → Option α) {l : List Stage} (hl : l.Nodup) :
    ((l.filterMap fun s => (f s).map (s, ·)).map (·.1)).Nodup := by
  have hkeys : (l.filterMap fun s => (f s).map (s, ·)).map (·.1) = l.filter (f · |>.isSome) := by
    induction l with
    | nil => rfl
    | cons s l ih =>
      rw [List.filterMap_cons, List.filter_cons]
      cases f s with
      | none => exact ih (List.nodup_cons.mp hl).2
      | some a => exact congrArg (s :: ·) (ih (List.nodup_cons.mp hl).2)
  rw [hkeys]
  exact hl.filter _

theorem lookup_members (p : Pipeline) (programs : Array Program) (stage : Stage) :
    (p.members programs).lookup stage = (p.slots.get? stage).bind (programs[·.index]?) := by
  rw [members_eq, lookup_filterMap, if_pos (Stage.mem_all stage)]

theorem nodup_members (p : Pipeline) (programs : Array Program) :
    ((p.members programs).map (·.1)).Nodup := by
  rw [members_eq]
  exact nodup_filterMap _ (by decide)

theorem mem_members {programs : Array Program} {m : Stage × Program} (h : m ∈ p.members programs) :
    ∃ i : Nat, programs[i]? = some m.2 := by
  obtain ⟨⟨stage, id⟩, -, hm⟩ := List.mem_filterMap.mp h
  obtain ⟨program, hp, rfl⟩ := Option.map_eq_some_iff.mp hm
  exact ⟨id.index, hp⟩

/-! ## Giving an object back -/

/-- Only pipelines changed on the device, and of these only the one with a handle, if no number was given
out again. -/
structure Altered (handle? : Option PipelineHandle) (j j' : Journal) : Prop where
  sound : j'.Sound
  calls : j.calls <+: j'.calls
  made : ∀ a, j'.device.made? a = j.device.made? a
  others : j'.Distinct .pipeline → ∀ a, j.device.Knows (.pipeline a) → handle? ≠ some a →
    j'.device.pipelines.get? a = j.device.pipelines.get? a
  refusedPrograms : j'.device.refusedPrograms = j.device.refusedPrograms

theorem Altered.refl (handle? : Option PipelineHandle) (hj : j.Sound) : Altered handle? j j :=
  ⟨hj, List.prefix_rfl, fun _ => rfl, fun _ _ _ _ => rfl, rfl⟩

theorem altered_quiet (handle? : Option PipelineHandle) (hq : Quiet j j') : Altered handle? j j' where
  sound := hq.sound
  calls := hq.calls
  made := hq.same.made
  others _ _ _ _ := by rw [hq.same.pipelines]
  refusedPrograms := hq.same.refusedPrograms

/-- Changes of an object that was not there at first count for nothing. -/
theorem Altered.trans_of {handle? handle'? : Option PipelineHandle} {j'' : Journal}
    (h : Altered handle? j j') (h' : Altered handle'? j' j'')
    (hne : j''.Distinct .pipeline → ∀ a, j.device.Knows (.pipeline a) → handle? ≠ some a →
      handle'? ≠ some a) : Altered handle? j j'' where
  sound := h'.sound
  calls := h.calls.trans h'.calls
  made a := (h'.made a).trans (h.made a)
  others hd a hk ha := by
    have hsame := h.others (hd.of_initial h'.calls) a hk ha
    have hk' : j'.device.Knows (.pipeline a) := by
      rw [Knows, hsame]
      exact hk
    exact (h'.others hd a hk' (hne hd a hk ha)).trans hsame
  refusedPrograms := h'.refusedPrograms.trans h.refusedPrograms

theorem Altered.trans {handle? : Option PipelineHandle} {j'' : Journal}
    (h : Altered handle? j j') (h' : Altered handle? j' j'') : Altered handle? j j'' :=
  h.trans_of h' fun _ _ _ ha => ha

theorem play_release (hj : j.Sound)
    (hk : ∀ h, p.handle? = some h → j.Distinct .pipeline → j.device.Knows (.pipeline h)) :
    (p.release.play j).1 = { p with assembly := { p.assembly with handle? := none } } ∧
      Altered p.handle? j (p.release.play j).2 := by
  unfold release
  cases hh : p.handle? with
  | none =>
    simp only [play_pure]
    exact ⟨trivial, .refl none hj⟩
  | some h =>
    simp only [play_bind, play_pure, play_deletePipeline]
    refine ⟨trivial, sound_dropPipeline hj (hk h hh), prefix_push .., fun _ => rfl, fun _ a _ ha => ?_,
      rfl⟩
    show (j.device.pipelines.erase h).get? a = _
    rw [Table.get?_erase, if_neg fun e => ha (congrArg some e)]

/-! ## Attaching programs -/

theorem play_attach (h : PipelineHandle) (stage : Stage) (program : Program) (j : Journal) :
    ((attach h stage program).play j).2 =
      match program.usable? with
      | some a => j.push (.attachStage h stage a) (j.device.attach h stage a)
      | none => j := by
  unfold attach
  cases program.usable? with
  | none => rw [play_note]
  | some a => rfl

theorem altered_attach (hj : j.Sound) {stage : Stage} {program : Program}
    (hsettled : program.Settled j) {o : PipelineObject}
    (ho : j.device.pipelines.get? h = some o) (hempty : o.stages.get? stage = none) :
    Altered (some h) j ((attach h stage program).play j).2 ∧
      ∃ o', ((attach h stage program).play j).2.device.pipelines.get? h = some o' ∧
        ∀ s, o'.stages.get? s = if stage = s then program.usable? else o.stages.get? s := by
  rw [play_attach]
  cases hu : program.usable? with
  | none =>
    -- Nothing is attached at the stage, as nothing was before.
    refine ⟨.refl _ hj, o, ho, fun s => ?_⟩
    split
    · next e => rw [← e, hempty]
    · rfl
  | some a =>
    have hl : j.Distinct .program → j.device.isLinked a = true := fun hd =>
      (hsettled.holds hd a (Program.usable?_eq_some.mp hu).1).linked
    have hk : j.device.Knows (.pipeline h) := by
      rw [Knows, ho]
      rfl
    obtain ⟨pipelines, hd⟩ := attach_eq j.device h stage a
    refine ⟨⟨sound_attach hj (fun _ => hk) hl stage, prefix_push .., fun a' => ?_, fun _ a' _ ha' => ?_,
      ?_⟩, ⟨o.stages.insert stage a⟩, ?_, fun s => Table.get?_insert ..⟩
    · show (j.device.attach h stage a).made? a' = _
      rw [hd]
      rfl
    · show (j.device.attach h stage a).pipelines.get? a' = _
      rw [pipelines_attach ho, if_neg fun e => ha' (congrArg some e)]
    · show (j.device.attach h stage a).refusedPrograms = _
      rw [hd]
    · show (j.device.attach h stage a).pipelines.get? h = _
      rw [pipelines_attach ho, if_pos rfl]

/-- Each member that has a usable object is attached at its stage. -/
theorem altered_forM_attach (members : List (Stage × Program))
    (hnodup : (members.map (·.1)).Nodup) (hj : j.Sound)
    (hsettled : ∀ m ∈ members, m.2.Settled j) {o : PipelineObject}
    (ho : j.device.pipelines.get? h = some o)
    (hempty : ∀ m ∈ members, o.stages.get? m.1 = none) :
    Altered (some h) j ((members.forM fun m => attach h m.1 m.2).play j).2 ∧
      ∃ o', ((members.forM fun m => attach h m.1 m.2).play j).2.device.pipelines.get? h = some o' ∧
        ∀ stage, o'.stages.get? stage =
          ((members.lookup stage).map Program.usable?).getD (o.stages.get? stage) := by
  induction members generalizing j o with
  | nil =>
    rw [List.forM, play_pure]
    exact ⟨.refl _ hj, o, ho, fun _ => rfl⟩
  | cons m members ih =>
    obtain ⟨hm, hnodup⟩ := List.nodup_cons.mp hnodup
    rw [List.forM, play_bind]
    obtain ⟨hfirst, o₁, ho₁, hstages₁⟩ := altered_attach hj (hsettled m (List.mem_cons_self ..)) ho
      (hempty m (List.mem_cons_self ..))
    obtain ⟨hrest, o₂, ho₂, hstages₂⟩ := ih hnodup hfirst.sound
      (fun m' hm' => (hsettled m' (List.mem_cons_of_mem _ hm')).congr hfirst.calls
        fun _ a _ => hfirst.made a) ho₁
      (fun m' hm' => by
        -- No two members stand at one stage, so the first one leaves the stages of the rest empty.
        rw [hstages₁, if_neg, hempty m' (List.mem_cons_of_mem _ hm')]
        intro e
        have hm₁ : m'.1 ∈ members.map (·.1) := List.mem_map_of_mem hm'
        rw [← e] at hm₁
        exact hm hm₁)
    refine ⟨hfirst.trans hrest, o₂, ho₂, fun stage => ?_⟩
    rw [hstages₂, hstages₁, List.lookup_cons]
    by_cases hs : stage = m.1
    · subst hs
      rw [Table.lookup_eq_none hm, beq_self_eq_true, if_pos rfl]
      rfl
    · rw [beq_false_of_ne hs, if_neg (Ne.symm hs)]

/-! ## A new object -/

theorem altered_addPipeline (handle? : Option PipelineHandle) (hj : j.Sound) :
    Altered handle? j
      (j.push (.createPipeline j.device.nextPipelineHandle) j.device.addPipeline) := by
  refine ⟨sound_addPipeline hj, prefix_push .., fun _ => rfl, fun hd a ha _ => ?_, rfl⟩
  show (j.device.pipelines.insert j.device.nextPipelineHandle {}).get? a = _
  rw [Table.get?_insert, if_neg]
  rintro rfl
  exact hd.not_issued (t := .pipeline j.device.nextPipelineHandle) rfl (hj.issued_of_knows ha)

/-- What making a pipeline anew leaves of it and of the device. -/
structure Rebuilt (p : Pipeline) (programs : Array Program) (j : Journal)
    (built : Except DeviceError PipelineHandle) (p' : Pipeline) (j' : Journal) : Prop where
  slots : p'.slots = p.slots
  altered : Altered p.handle? j j'
  /-- The pipeline has a new object with its programs attached, or none, for the device refused. -/
  outcome :
    (∃ h o, built = .ok h ∧ p'.assembly = ⟨some h, false⟩ ∧
      (j'.Distinct .pipeline → ¬j.device.Knows (.pipeline h)) ∧ j'.device.pipelines.get? h = some o ∧
      ∀ stage, o.stages.get? stage = p.wanted? programs stage) ∨
    (∃ cause, built = .error cause ∧ p'.assembly = ⟨none, p.isDirty⟩)

variable {programs : Array Program} {built : Except DeviceError PipelineHandle}

theorem Rebuilt.fresh (hr : Rebuilt p programs j built p' j') (hd : j'.Distinct .pipeline)
    (hh : p'.handle? = some h) : ¬j.device.Knows (.pipeline h) := by
  rcases hr.outcome with ⟨a, o, -, hassembly, hfresh, -⟩ | ⟨cause, -, hassembly⟩
  · rw [handle?, hassembly] at hh
    obtain rfl := Option.some.inj hh
    exact hfresh hd
  · rw [handle?, hassembly] at hh
    cases hh

theorem Rebuilt.known (hr : Rebuilt p programs j built p' j') (hh : p'.handle? = some h) :
    j'.device.Knows (.pipeline h) := by
  rcases hr.outcome with ⟨a, o, -, hassembly, -, ho, -⟩ | ⟨cause, -, hassembly⟩
  · rw [handle?, hassembly] at hh
    obtain rfl := Option.some.inj hh
    rw [Knows, ho]
    rfl
  · rw [handle?, hassembly] at hh
    cases hh

theorem Rebuilt.handle_of_ok (hr : Rebuilt p programs j (.ok h) p' j') : p'.handle? = some h := by
  rcases hr.outcome with ⟨a, o, ha, hassembly, -⟩ | ⟨cause, hc, -⟩
  · obtain rfl := Except.ok.inj ha
    rw [handle?, hassembly]
  · cases hc

/-- A dirty pipeline that is clean afterwards has the objects of its programs attached. -/
theorem Rebuilt.attached (hr : Rebuilt p programs j built p' j') (hdirty : p.isDirty = true)
    (hclean : p'.isDirty = false) :
    ∃ h o, p'.handle? = some h ∧ j'.device.pipelines.get? h = some o ∧
      ∀ stage, o.stages.get? stage = p'.wanted? programs stage := by
  rcases hr.outcome with ⟨a, o, -, hassembly, -, ho, hstages⟩ | ⟨cause, -, hassembly⟩
  · refine ⟨a, o, by rw [handle?, hassembly], ho, fun stage => ?_⟩
    rw [hstages, wanted?, wanted?, hr.slots]
  · rw [isDirty, hassembly, hdirty] at hclean
    cases hclean

/-- A new object is filled with what the pipeline wants at each stage. -/
theorem altered_fill (hj : j.Sound) (p : Pipeline) (programs : Array Program)
    (hsettled : ∀ (i : Nat) program, programs[i]? = some program → program.Settled j)
    (ho : j.device.pipelines.get? h = some {}) :
    Altered (some h) j (((p.members programs).forM fun m => attach h m.1 m.2).play j).2 ∧
      ∃ o, (((p.members programs).forM fun m => attach h m.1 m.2).play j).2.device.pipelines.get? h =
          some o ∧ ∀ stage, o.stages.get? stage = p.wanted? programs stage := by
  have hmembers : ∀ m ∈ p.members programs, m.2.Settled j := by
    intro m hm
    obtain ⟨i, hi⟩ := mem_members hm
    exact hsettled i m.2 hi
  obtain ⟨hfilled, o, ho', hstages⟩ := altered_forM_attach (p.members programs)
    (nodup_members p programs) hj hmembers ho fun _ _ => rfl
  refine ⟨hfilled, o, ho', fun stage => ?_⟩
  rw [hstages, lookup_members, wanted?]
  cases (p.slots.get? stage).bind (programs[·.index]?) <;> rfl

theorem rebuilt_rebuild (hj : j.Sound)
    (hk : ∀ h, p.handle? = some h → j.Distinct .pipeline → j.device.Knows (.pipeline h))
    (programs : Array Program)
    (hsettled : ∀ (i : Nat) program, programs[i]? = some program → program.Settled j) :
    Rebuilt p programs j ((p.rebuild programs).play j).1.1 ((p.rebuild programs).play j).1.2
      ((p.rebuild programs).play j).2 := by
  -- First the old object is given back.
  obtain ⟨hreleased, haltered⟩ := play_release hj hk
  unfold rebuild
  rw [play_bind]
  generalize p.release.play j = r at hreleased haltered
  obtain ⟨p₁, j₁⟩ := r
  simp only at hreleased haltered
  subst hreleased
  cases hf : j₁.device.pipelineRefusal? with
  | some fault =>
    rw [play_bind, play_createPipeline_of_refusal hf, play_pure]
    exact {
      slots := rfl
      altered := ⟨sound_refusePipeline haltered.sound, haltered.calls, haltered.made, haltered.others,
        haltered.refusedPrograms⟩
      outcome := .inr ⟨fault, rfl, rfl⟩ }
  | none =>
    -- Then a new one is made, filled and labelled.
    rw [play_bind, play_createPipeline hf]
    have hadded := altered_addPipeline p.handle? haltered.sound
    set h := j₁.device.nextPipelineHandle
    set j₂ := j₁.push (.createPipeline h) j₁.device.addPipeline
    -- While the numbers are distinct, the object of before cannot have had this one.
    have hnew : j₂.Distinct .pipeline → ¬j.device.Knows (.pipeline h) := fun hd hk' =>
      hd.not_issued (t := .pipeline h) rfl ((hj.issued_of_knows hk').of_initial haltered.calls)
    have ho : j₂.device.pipelines.get? h = some {} := by
      show (j₁.device.pipelines.insert h {}).get? h = _
      rw [Table.get?_insert, if_pos rfl]
    obtain ⟨hfilled, o, ho₃, hstages⟩ := altered_fill hadded.sound p programs
      (fun i q hq => (hsettled i q hq).congr (haltered.trans hadded).calls
        fun _ a _ => (haltered.trans hadded).made a) ho
    simp only [play_bind, play_pure]
    set j₃ := (((p.members programs).forM fun m => attach h m.1 m.2).play j₂).2 with hj₃
    have hk₃ : j₃.device.Knows (.pipeline h) := by
      rw [Knows, ho₃]
      rfl
    have hlabel := quiet_setLabel hfilled.sound (fun _ => hk₃) (label (p.members programs))
    have hrest := (haltered.trans hadded).trans_of hfilled fun hd a hk' _ => by
      -- An object that was there at first is not the new one.
      rintro ⟨rfl⟩
      exact hnew (hd.of_initial hfilled.calls) hk'
    exact {
      slots := rfl
      altered := hrest.trans (altered_quiet _ hlabel)
      outcome := by
        refine .inl ⟨h, o, rfl, rfl, fun hd => hnew (hd.of_initial ?_), ?_, hstages⟩
        · exact hfilled.calls.trans hlabel.calls
        · rw [← ho₃, hj₃]
          exact congrArg (·.get? h) hlabel.same.pipelines }

end Pipeline

end ShaderDepot
