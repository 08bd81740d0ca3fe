import ShaderDepot.Proofs.Device.Frame
import ShaderDepot.Proofs.Pipeline.Rebuild

/-!
# Which pipeline is current while one is made anew

A pipeline that is made anew first gives its old object back, which then is current no more.  After that
the device makes a new object or refuses (`Pipeline.Ends`).  In either case every other object that was
current still is (`remade_rebuild`), and a pipeline that was refused an object has lost nothing more than
its old one, so that trying again is as good as trying later (`play_rebuild_released`).
-/

namespace ShaderDepot

namespace Pipeline

open Device Journal DeviceM

variable {p p' : Pipeline} {j j' : Journal} {h : PipelineHandle}

/-! ## The ways of making a pipeline anew -/

/-- A pipeline that gave its object back. -/
def released (p : Pipeline) : Pipeline := { p with assembly := { p.assembly with handle? := none } }

/-- A pipeline that was made anew. -/
def withObject (p : Pipeline) (h : PipelineHandle) : Pipeline :=
  { p with assembly := ⟨some h, false⟩, buildCount := p.buildCount + 1 }

theorem play_release_eq (p : Pipeline) (j : Journal) :
    p.release.play j =
      (p.released, p.handle?.elim j fun h =>
        j.push (.deletePipeline h) (j.device.dropPipeline h)) := by
  unfold release
  cases p.handle? with
  | none => simp only [play_pure]; rfl
  | some h => simp only [play_bind, play_pure, play_deletePipeline]; rfl

theorem knows_release (p : Pipeline) (j : Journal) (t : LabelTarget) :
    (p.release.play j).2.device.Knows t ↔
      j.device.Knows t ∧ p.handle?.map .pipeline ≠ some t := by
  rw [play_release_eq]
  cases p.handle? with
  | none => exact (and_iff_left nofun).symm
  | some h =>
    exact (knows_dropPipeline h t).trans (and_congr_right' (not_congr Option.some_inj.symm))

theorem tidy_release (p : Pipeline) (ht : j.device.Tidy) : (p.release.play j).2.device.Tidy := by
  rw [play_release_eq]
  cases p.handle? with
  | none => exact ht
  | some h => exact ht.dropPipeline h

theorem bound_release (p : Pipeline) (j : Journal) :
    (p.release.play j).2.device.bound =
      if j.device.bound = p.handle? then none else j.device.bound := by
  rw [play_release_eq]
  cases p.handle? with
  | none =>
    show j.device.bound = _
    split
    · next hn => exact hn
    · rfl
  | some h => rfl

/-- The journal once a new object was made. -/
def offer (j : Journal) : Journal :=
  j.push (.createPipeline j.device.nextPipelineHandle) j.device.addPipeline

/-- The journal once the programs of a pipeline were attached to its new object. -/
def fill (p : Pipeline) (programs : Array Program) (h : PipelineHandle) (j : Journal) : Journal :=
  (((p.members programs).forM fun m => attach h m.1 m.2).play j).2

/-- The ways in which making a pipeline anew ends, for one that gave its object back. -/
inductive Ends (p : Pipeline) (programs : Array Program) (j : Journal) :
    (Except DeviceError PipelineHandle × Pipeline) × Journal → Prop
  | refused {fault : DeviceError} (hf : j.device.pipelineRefusal? = some fault) :
    Ends p programs j ((.error fault, p), ⟨j.device.refusePipeline, j.calls⟩)
  | made {h : PipelineHandle} (hf : j.device.pipelineRefusal? = none)
      (hh : h = j.device.nextPipelineHandle) :
    Ends p programs j
      ((.ok h, p.withObject h),
        ((setLabel (.pipeline h) (label (p.members programs))).play
          (p.fill programs h (offer j))).2)

theorem ends_rebuild (p : Pipeline) (programs : Array Program) (j : Journal) :
    Ends p.released programs (p.release.play j).2 ((p.rebuild programs).play j) := by
  unfold rebuild
  rw [play_bind, play_release_eq]
  generalize Option.elim p.handle? j _ = j₁
  simp only
  cases hf : j₁.device.pipelineRefusal? with
  | some fault =>
    rw [play_bind, play_createPipeline_of_refusal hf]
    simp only [play_pure]
    exact .refused hf
  | none =>
    rw [play_bind, play_createPipeline hf]
    simp only [play_bind, play_pure]
    exact .made hf rfl

/-- Only what comes after the release counts. -/
theorem play_rebuild_released (p : Pipeline) (programs : Array Program) (j : Journal) :
    (p.released.rebuild programs).play (p.release.play j).2 = (p.rebuild programs).play j := by
  simp only [rebuild, play_bind, play_release_eq]
  rfl

/-! ## What each way leaves -/

section

variable {programs : Array Program} {out : (Except DeviceError PipelineHandle × Pipeline) × Journal}

theorem knows_attach (h : PipelineHandle) (stage : Stage) (program : Program) (j : Journal)
    (t : LabelTarget) :
    ((attach h stage program).play j).2.device.Knows t ↔ j.device.Knows t := by
  rw [play_attach]
  cases program.usable? with
  | none => rfl
  | some a => exact Device.knows_attach h stage a t

theorem attach_beside (h : PipelineHandle) (stage : Stage) (program : Program) (j : Journal) :
    ∃ pipelines, ((attach h stage program).play j).2.device = { j.device with pipelines } := by
  rw [play_attach]
  cases program.usable? with
  | none => exact ⟨_, rfl⟩
  | some a => exact attach_eq j.device h stage a

theorem issues_attach (h : PipelineHandle) (stage : Stage) (program : Program) (j : Journal)
    (kind : ObjectKind) : ((attach h stage program).play j).2.issues kind = j.issues kind := by
  rw [play_attach]
  cases program.usable? with
  | none => rfl
  | some a => exact issues_push_of_none rfl _ kind

/-- Attaching programs changes neither which objects are there or were made, nor labels, nor what is
current. -/
theorem fill_beside (p : Pipeline) (programs : Array Program) (h : PipelineHandle) (j : Journal) :
    (∀ t, (p.fill programs h j).device.Knows t ↔ j.device.Knows t) ∧
      (∀ kind, (p.fill programs h j).issues kind = j.issues kind) ∧
      ∃ pipelines, (p.fill programs h j).device = { j.device with pipelines } := by
  refine play_forM
    (motive := fun j' => (∀ t, j'.device.Knows t ↔ j.device.Knows t) ∧
      (∀ kind, j'.issues kind = j.issues kind) ∧
      ∃ pipelines, j'.device = { j.device with pipelines })
    (fun m : Stage × Program => attach h m.1 m.2) (p.members programs)
    ⟨fun _ => Iff.rfl, fun _ => rfl, _, rfl⟩ ?_
  rintro m - j' ⟨hknows, hissues, pipelines, hd⟩
  obtain ⟨pipelines', hd'⟩ := attach_beside h m.1 m.2 j'
  refine ⟨fun t => (knows_attach h m.1 m.2 j' t).trans (hknows t),
    fun kind => (issues_attach h m.1 m.2 j' kind).trans (hissues kind), pipelines', ?_⟩
  rw [hd', hd]

theorem Ends.knows (he : Ends p programs j out) (hn : p.handle? = none) (t : LabelTarget) :
    out.2.device.Knows t ↔ out.1.2.handle?.map .pipeline = some t ∨ j.device.Knows t := by
  cases he with
  | refused hf =>
    rw [hn]
    have : Knows j.device.refusePipeline t ↔ j.device.Knows t := by cases t <;> rfl
    exact this.trans (or_iff_right nofun).symm
  | made hf hh =>
    obtain ⟨hknows, -, -⟩ := fill_beside p programs _ (offer j)
    have hlabel : ∀ (d : Device) labels, Knows { d with labels } t ↔ d.Knows t := by
      intro d labels
      cases t <;> rfl
    refine (hlabel _ _).trans ((hknows t).trans ((knows_addPipeline t).trans ?_))
    rw [← hh]
    exact or_congr Option.some_inj.symm Iff.rfl

theorem Ends.tidy (he : Ends p programs j out) (ht : j.device.Tidy) : out.2.device.Tidy := by
  cases he with
  | refused hf => exact ht.congr rfl fun t ht => by cases t <;> exact ht
  | made hf hh =>
    obtain ⟨hknows, -, pipelines, hd⟩ := fill_beside p programs _ (offer j)
    have hfilled := ht.addPipeline.congr (congrArg Device.labels hd :) fun t => (hknows t).mpr
    refine hfilled.setLabel ((hknows _).mpr ((knows_addPipeline _).mpr (.inl ?_))) _
    rw [hh]

theorem Ends.bound (he : Ends p programs j out) : out.2.device.bound = j.device.bound := by
  cases he with
  | refused hf => rfl
  | made hf hh =>
    obtain ⟨-, -, pipelines, hd⟩ := fill_beside p programs _ (offer j)
    exact (congrArg Device.bound hd :)

/-- The device makes as many pipelines as are counted, and no programs. -/
theorem Ends.counts (he : Ends p programs j out) :
    (out.2.issues .pipeline).length + p.buildCount =
        (j.issues .pipeline).length + out.1.2.buildCount ∧
      out.2.issues .program = j.issues .program ∧
      out.2.device.refusedPrograms = j.device.refusedPrograms := by
  cases he with
  | refused hf => exact ⟨rfl, rfl, rfl⟩
  | @made h hf hh =>
    obtain ⟨-, hissues, pipelines, hd⟩ := fill_beside p programs h (offer j)
    have hall : ∀ kind, (((setLabel (.pipeline h) (label (p.members programs))).play
        (p.fill programs h (offer j))).2).issues kind = (offer j).issues kind := fun kind =>
      (issues_push_of_none rfl _ kind).trans (hissues kind)
    have hcount : (p.withObject h).buildCount = p.buildCount + 1 := rfl
    refine ⟨?_, (hall .program).trans ((issues_push ..).trans (List.append_nil _)),
      (congrArg Device.refusedPrograms hd :)⟩
    rw [hall, offer, issues_push, List.length_append]
    show _ + 1 + _ = _ + (p.withObject h).buildCount
    omega

theorem counts_release (p : Pipeline) (j : Journal) :
    (∀ kind, (p.release.play j).2.issues kind = j.issues kind) ∧
      (p.release.play j).2.device.refusedPrograms = j.device.refusedPrograms := by
  rw [play_release_eq]
  cases p.handle? with
  | none => exact ⟨fun _ => rfl, rfl⟩
  | some h => exact ⟨issues_push_of_none rfl _, rfl⟩

/-- What making a pipeline anew leaves of all objects, of the labels and of what is current. -/
structure Remade (p : Pipeline) (j : Journal) (p' : Pipeline) (j' : Journal) : Prop where
  /-- The pipeline's object of before is gone, and the one that it has now is the only new one. -/
  knows : ∀ t, j'.device.Knows t ↔
    p'.handle?.map .pipeline = some t ∨ j.device.Knows t ∧ p.handle?.map .pipeline ≠ some t
  tidy : j.device.Tidy → j'.device.Tidy
  bound : j'.device.bound = if j.device.bound = p.handle? then none else j.device.bound
  /-- The device makes as many pipelines as are counted. -/
  built : (j'.issues .pipeline).length + p.buildCount = (j.issues .pipeline).length + p'.buildCount
  programs : j'.issues .program = j.issues .program
  refusedPrograms : j'.device.refusedPrograms = j.device.refusedPrograms

theorem remade_rebuild (p : Pipeline) (programs : Array Program) (j : Journal) :
    Remade p j ((p.rebuild programs).play j).1.2 ((p.rebuild programs).play j).2 := by
  have he := ends_rebuild p programs j
  obtain ⟨hbuilt, hprograms, hrefused⟩ := he.counts
  obtain ⟨hissues₀, hrefused₀⟩ := counts_release p j
  exact {
    knows := fun t => (he.knows rfl t).trans (or_congr_right (knows_release p j t))
    tidy := fun ht => he.tidy (tidy_release p ht)
    bound := he.bound.trans (bound_release p j)
    built := by
      rw [hissues₀] at hbuilt
      exact hbuilt
    programs := hprograms.trans (hissues₀ .program)
    refusedPrograms := hrefused.trans hrefused₀ }

end

end Pipeline

end ShaderDepot
