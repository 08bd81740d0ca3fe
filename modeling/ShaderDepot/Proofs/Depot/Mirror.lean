import ShaderDepot.Proofs.Depot.Growth
import ShaderDepot.Proofs.Program.Replay

/-!
# The device mirrors what was set on the programs of a depot

In a depot in order every program has its object to itself, so what is done with one program leaves what
the device holds of the others.  Hence the objects of all programs go on to hold what was set on them
(`Depot.Mirrors`), while nothing but setting changes what was set (`Depot.retained`).
-/

namespace ShaderDepot

open Device Journal DeviceM

/-! ## Pipelines -/

namespace Pipeline

theorem untouched_attach (x : ProgramHandle) (h : PipelineHandle) (stage : Stage) (program : Program)
    (j : Journal) : Untouched x j ((attach h stage program).play j).2 := by
  unfold attach
  cases program.usable? with
  | none =>
    simp only [play_note]
    exact .refl x j
  | some a => exact untouched_attachStage x h stage a j

theorem untouched_release (x : ProgramHandle) (p : Pipeline) (j : Journal) :
    Untouched x j (p.release.play j).2 := by
  unfold release
  cases p.handle? with
  | none =>
    simp only [play_pure]
    exact .refl x j
  | some h =>
    simp only [play_bind, play_pure]
    exact untouched_deletePipeline x h j

theorem untouched_rebuild (x : ProgramHandle) (p : Pipeline) (programs : Array Program) (j : Journal) :
    Untouched x j ((p.rebuild programs).play j).2 := by
  have hreleased := untouched_release x p j
  unfold rebuild
  rw [play_bind]
  generalize p.release.play j = r at hreleased
  obtain ⟨p₁, j₁⟩ := r
  have hcreated := hreleased.trans (untouched_createPipeline x j₁)
  rw [play_bind]
  generalize createPipeline.play j₁ = r at hcreated
  obtain ⟨built, j₂⟩ := r
  cases built with
  | error cause =>
    simp only [play_pure]
    exact hcreated
  | ok h =>
    simp only [play_bind, play_pure]
    have hfilled := play_forM (motive := Untouched x j) (fun m : Stage × Program => attach h m.1 m.2)
      (p₁.members programs) hcreated fun m _ j' hu => hu.trans (untouched_attach x h m.1 m.2 j')
    exact hfilled.trans (untouched_setLabel x ..)

end Pipeline

namespace Depot

variable {s : Storage} {r r' r'' : Depot} {j j' j'' : Journal} {id : ProgramId} {p p' : Program}
  {pending loose : List ProgramId}

/-- What was set on a program; nothing was on one that is not there. -/
def retained (r : Depot) (id : ProgramId) : Retained := (r.program? id).elim {} Program.retained

/-- The device holds of each program what was set on it, while the numbers of programs are distinct. -/
structure Mirrors (r : Depot) (j : Journal) : Prop where
  unique : ∀ id p, r.program? id = some p → p.retained.Unique
  mirrored : j.Distinct .program → ∀ id p h, r.program? id = some p → p.handle? = some h →
    p.retained.Mirrored j h

theorem retained_of_program? (hp : r.program? id = some p) : r.retained id = p.retained := by
  rw [retained, hp]
  rfl

/-! ## Nothing is set -/

/-- The programs are the same, and so is what the device holds of any. -/
structure Keeps (r : Depot) (j : Journal) (r' : Depot) (j' : Journal) : Prop where
  programs : r'.programs = r.programs
  untouched : ∀ h, Untouched h j j'

theorem Keeps.of_programs (h : r'.programs = r.programs) : Keeps r j r' j := ⟨h, fun x => .refl x j⟩

theorem Keeps.program? (h : Keeps r j r' j') (id : ProgramId) : r'.program? id = r.program? id := by
  rw [Depot.program?, h.programs]
  rfl

theorem Keeps.retained (h : Keeps r j r' j') (id : ProgramId) : r'.retained id = r.retained id := by
  rw [Depot.retained, h.program?]
  rfl

theorem Keeps.mirrors (h : Keeps r j r' j') (hcalls : j.calls <+: j'.calls) (hm : r.Mirrors j) :
    r'.Mirrors j' where
  unique id p hp := hm.unique id p ((h.program? id).symm.trans hp)
  mirrored hd id p x hp hx := (hm.mirrored (hd.of_initial hcalls) id p x
    ((h.program? id).symm.trans hp) hx).untouched (h.untouched x)

theorem keeps_pipeline (r : Depot) (slots : StageSlots) (j : Journal) :
    Keeps r j (r.pipeline slots).value.2 j := by
  apply Keeps.of_programs
  unfold Depot.pipeline
  split
  · rfl
  · split
    · rfl
    · obtain ⟨dependents, heq⟩ := addPipeline_eq r slots
      show (r.addPipeline slots).programs = r.programs
      rw [heq]

theorem keeps_rebind (r : Depot) (id : PipelineId) (p : Pipeline) (j : Journal) :
    Keeps r j ((r.rebind id p).play j).1.2 ((r.rebind id p).play j).2 := by
  have hbuilt := fun x => Pipeline.untouched_rebuild x p r.programs j
  unfold Depot.rebind
  rw [play_bind]
  generalize (p.rebuild r.programs).play j = built at hbuilt
  obtain ⟨⟨built, p'⟩, j'⟩ := built
  cases built with
  | error cause =>
    simp only [play_pure]
    exact ⟨rfl, hbuilt⟩
  | ok h =>
    simp only [play_bind, play_pure]
    exact ⟨rfl, fun x => (hbuilt x).trans (untouched_bindPipeline x h j')⟩

theorem keeps_bind (r : Depot) (id : PipelineId) (j : Journal) :
    Keeps r j ((r.bind id).play j).1.2 ((r.bind id).play j).2 := by
  unfold Depot.bind
  cases r.pipeline? id with
  | none =>
    simp only [play_pure]
    exact .of_programs rfl
  | some p =>
    simp only
    split
    · exact keeps_rebind r id p j
    · split
      · simp only [play_pure]
        exact .of_programs rfl
      · cases p.handle? with
        | none => exact keeps_rebind r id p j
        | some h =>
          simp only [play_bind, play_pure]
          exact ⟨rfl, fun x => untouched_bindPipeline x h j⟩

theorem keeps_dispatchGroups (r : Depot) (groups : Extent) (j : Journal) :
    Keeps r j r ((r.dispatchGroups groups).play j).2 := by
  unfold dispatchGroups
  rw [play_bind, play_ofTraced (calls_boundCompute r)]
  split
  · exact ⟨rfl, fun x => untouched_dispatchCompute x groups j⟩
  · rw [play_pure]
    exact .of_programs rfl

theorem keeps_dispatchThreads (r : Depot) (threads : Extent) (j : Journal) :
    Keeps r j r ((r.dispatchThreads threads).play j).2 := by
  unfold dispatchThreads
  rw [play_bind, play_ofTraced (calls_boundCompute r)]
  split
  · simp only
    split
    · rw [play_pure]
      exact .of_programs rfl
    · exact ⟨rfl, fun x => untouched_dispatchCompute x _ j⟩
  · rw [play_pure]
    exact .of_programs rfl

theorem keeps_watch (r : Depot) (disk : Disk) (root : String) (j : Journal) :
    Keeps r j (r.watch disk root).value.2 j := by
  apply Keeps.of_programs
  unfold Depot.watch
  split <;> rfl

/-! ## One program changes -/

theorem retained_setProgram (hp : r.program? id = some p) (a : ProgramId) :
    (r.setProgram id p').retained a = if id = a then p'.retained else r.retained a := by
  rw [retained, program?_setProgram_of hp]
  split <;> rfl

/-- What is done with one program does not concern the objects of the others. -/
theorem Mirrors.setProgram (hm : r.Mirrors j) (h : r.InOrder j pending loose)
    (hcalls : j.calls <+: j'.calls) (hp : r.program? id = some p) {t : Retained} (hf : p.Follows j t p' j') (ht : t.Unique) :
    (r.setProgram id p').Mirrors j' where
  unique a q hq := by
    rw [program?_setProgram_of hp] at hq
    split at hq
    · obtain rfl := Option.some.inj hq
      rwa [hf.retained]
    · exact hm.unique a q hq
  mirrored hd a q x hq hx := by
    have hbefore := hd.of_initial hcalls
    rw [program?_setProgram_of hp] at hq
    split at hq
    · obtain rfl := Option.some.inj hq
      rw [hf.retained]
      exact hf.mirrored hd x hx
    · next hne =>
      -- The object of another program was issued before, and is not the object of this one.
      refine (hm.mirrored hbefore a q x hq hx).untouched (hf.others hd x ?_ fun hpx => hne ?_)
      · exact h.sound.issued_of_knows ((h.owns.settled a q hq).knows hbefore hx)
      · exact h.owns.apart hbefore id a p q x hp hq hpx hx

/-- What a compile of programs leaves of what was set. -/
structure Carries (r : Depot) (r' : Depot) (j' : Journal) : Prop where
  mirrors : r'.Mirrors j'
  retained : ∀ a, r'.retained a = r.retained a

theorem Mirrors.compile (hm : r.Mirrors j) (h : r.InOrder j pending loose) (id : ProgramId) :
    Carries r ((r.compile id).play j).1 ((r.compile id).play j).2 := by
  cases hp : r.program? id with
  | none =>
    rw [play_compile_of_none hp]
    exact ⟨hm, fun _ => rfl⟩
  | some p =>
    obtain ⟨compilations, failures, hplay⟩ := play_compile hp j
    have hf := Program.follows_compile h.sound (h.owns.settled id p hp) (hm.unique id p hp)
      (r.resolveProgram p).value r.settings.listOnError
    have hset := hm.setProgram h (prefix_play ..) hp hf (hm.unique id p hp)
    rw [hplay]
    refine ⟨⟨hset.unique, hset.mirrored⟩, fun a => (retained_setProgram hp a).trans ?_⟩
    split
    · next e => rw [← e, hf.retained, retained_of_program? hp]
    · rfl

theorem Mirrors.recompile (hm : r.Mirrors j) (h : r.InOrder j (id :: pending) []) :
    Carries r ((r.recompile id).play j).1 ((r.recompile id).play j).2 := by
  have hcompiled := hm.compile h id
  unfold Depot.recompile
  rw [play_bind, play_pure, Depot.spoilDependents, foldl_spoilPipeline_eq]
  exact ⟨⟨hcompiled.mirrors.unique, hcompiled.mirrors.mirrored⟩, hcompiled.retained⟩

theorem Mirrors.update (hm : r.Mirrors j) (h : r.InOrder j [] []) (s : Storage) :
    Carries r ((r.update s).play j).1.2 ((r.update s).play j).2 := by
  have hreread : Carries r (r.reread s) j := ⟨⟨hm.unique, hm.mirrored⟩, fun _ => rfl⟩
  have horder := h.reread s
  rw [play_update]
  exact (play_foldlM (motive := fun rest r' j' => r'.InOrder j' rest [] ∧ Carries r r' j')
    Depot.recompile (r.affected s) ⟨horder, hreread⟩ fun id rest r' j' ⟨h', hc⟩ => by
      have hnext := hc.mirrors.recompile h'
      exact ⟨h'.recompile, hnext.mirrors, fun a => (hnext.retained a).trans (hc.retained a)⟩).2

/-! ## A program is added -/

theorem Mirrors.addProgram (hm : r.Mirrors j) (key : ProgramKey) (entry : FileId) :
    Carries r (r.addProgram key entry) j := by
  have hadd := program?_addProgram r key entry
  refine ⟨⟨fun a q hq => ?_, fun hd a q x hq hx => ?_⟩, fun a => ?_⟩
  · rw [hadd] at hq
    split at hq
    · obtain rfl := Option.some.inj hq
      exact Retained.unique_empty
    · exact hm.unique a q hq
  · rw [hadd] at hq
    split at hq
    · obtain rfl := Option.some.inj hq
      cases hx
    · exact hm.mirrored hd a q x hq hx
  · -- Nothing was set on the new program, and nothing was on the one that was not there.
    rw [retained, hadd]
    split
    · next e =>
      have hnone : r.program? a = none := by
        rw [e]
        exact Array.getElem?_eq_none (Nat.le_refl _)
      rw [retained, hnone]
      rfl
    · rfl

theorem Mirrors.program (hm : r.Mirrors j) (h : r.InOrder j [] []) (s : Storage) (path : String)
    (stage : Stage) (defines : List Define) :
    Carries r ((r.program s path stage defines).play j).1.2
      ((r.program s path stage defines).play j).2 := by
  cases hk : r.findKey? (keyOf path stage defines) with
  | some id =>
    simp only [Depot.program, hk, play_pure]
    exact ⟨hm, fun _ => rfl⟩
  | none =>
    rw [play_program_of_none hk]
    obtain ⟨-, -, -, hfind⟩ :=
      IncludeGraph.settled_intern s h.indexed.graph (keyOf path stage defines).path
    have hsource : Mirrors
        { r with graph := (r.graph.intern s (keyOf path stage defines).path).value.2 } j :=
      ⟨hm.unique, hm.mirrored⟩
    have hadded := hsource.addProgram (keyOf path stage defines)
      (r.graph.intern s (keyOf path stage defines).path).value.1
    have horder := (h.source s (keyOf path stage defines).path).addProgram hk hfind ⟨path, rfl⟩
    have hcompiled := hadded.mirrors.compile horder ⟨r.programs.size⟩
    exact ⟨hcompiled.mirrors, fun a => (hcompiled.retained a).trans (hadded.retained a)⟩

/-! ## A program is used -/

/-- What is done with a program is done with it if it is there. -/
theorem Mirrors.withProgram {α : Type} (hm : r.Mirrors j) (h : r.InOrder j [] []) (id : ProgramId)
    {f : Program → DeviceM (α × Program)} {set : Retained → Retained}
    (hf : ∀ p, r.program? id = some p →
      p.Follows j (set p.retained) ((f p).play j).1.2 ((f p).play j).2)
    (hset : ∀ t : Retained, t.Unique → (set t).Unique) :
    ((r.withProgram id f).play j).1.2.Mirrors ((r.withProgram id f).play j).2 ∧
      ∀ a, ((r.withProgram id f).play j).1.2.retained a =
        if id = a ∧ (r.program? a).isSome then set (r.retained a) else r.retained a := by
  cases hp : r.program? id with
  | none =>
    simp only [Depot.withProgram, hp, play_pure]
    refine ⟨hm, fun a => ?_⟩
    rw [if_neg]
    rintro ⟨rfl, hsome⟩
    rw [hp] at hsome
    cases hsome
  | some p =>
    simp only [Depot.withProgram, hp, play_bind, play_pure]
    have hfollows := hf p hp
    refine ⟨hm.setProgram h (prefix_play ..) hp hfollows (hset _ (hm.unique id p hp)), fun a => ?_⟩
    rw [retained_setProgram hp, hfollows.retained]
    by_cases ha : id = a
    · rw [if_pos ha, if_pos ⟨ha, by rw [← ha, hp]; rfl⟩, ← ha, retained_of_program? hp]
    · rw [if_neg ha, if_neg fun e => ha e.1]

end Depot

end ShaderDepot
