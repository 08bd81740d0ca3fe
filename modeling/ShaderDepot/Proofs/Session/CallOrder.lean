import ShaderDepot.Proofs.Session.Wrapped

/-!
# The calls of a session are lawful

From the first request to the end of its depot, a session keeps the protocol of the device, as long as no
number was taken twice.  That the requests do is part of the order of a depot; at the end every object is
given back once, since no two programs and no two pipelines share one.
-/

namespace ShaderDepot

open Device Journal DeviceM

variable {α : Type} {j j' : Journal}

/-! ## Giving objects back one after another -/

/-- At most the one object was given back. -/
structure Spared (target? : Option LabelTarget) (j j' : Journal) : Prop where
  sound : j'.Sound
  issues : ∀ kind, j'.issues kind = j.issues kind
  knows : ∀ t, j.device.Knows t → target? ≠ some t → j'.device.Knows t

theorem spared_dispose_program {p : Program} (hj : j.Sound)
    (hk : ∀ h, p.handle? = some h → j.device.Knows (.program h)) :
    Spared (p.handle?.map .program) j ((discard p.dispose : DeviceM PUnit).play j).2 := by
  obtain ⟨-, hfreed⟩ := Program.play_release hj fun h hh _ => hk h hh
  have hplay : ((discard p.dispose : DeviceM PUnit).play j).2 = (p.release.play j).2 := by
    simp only [Program.dispose, play_discard, play_bind, play_pure]
  rw [hplay]
  refine ⟨hfreed.sound, hfreed.issues, fun t ht hne => ?_⟩
  cases t with
  | program h =>
    have hne' : p.handle? ≠ some h := fun e => hne (by rw [e]; rfl)
    rw [Knows, hfreed.made h, if_neg hne']
    exact ht
  | pipeline h =>
    rw [Knows, hfreed.pipelines]
    exact ht

theorem spared_dispose_pipeline {p : Pipeline} (hj : j.Sound)
    (hk : ∀ h, p.handle? = some h → j.device.Knows (.pipeline h)) :
    Spared (p.handle?.map .pipeline) j ((discard p.dispose : DeviceM PUnit).play j).2 := by
  obtain ⟨-, haltered⟩ := Pipeline.play_release hj fun h hh _ => hk h hh
  have hplay : ((discard p.dispose : DeviceM PUnit).play j).2 = (p.release.play j).2 := by
    simp only [Pipeline.dispose, play_discard, play_bind, play_pure]
  rw [hplay]
  exact ⟨haltered.sound, (Pipeline.counts_release p j).1,
    fun t ht hne => (Pipeline.knows_release p j t).mpr ⟨ht, hne⟩⟩

/-- A loop gives back the objects of a list that are there and apart, and no others. -/
theorem spared_forM {f : α → DeviceM PUnit} {target? : α → Option LabelTarget}
    (hf : ∀ a j, j.Sound → (∀ t, target? a = some t → j.device.Knows t) →
      Spared (target? a) j ((f a).play j).2)
    {l : List α} (hj : j.Sound)
    (hapart : l.Pairwise fun a b => ∀ t, target? a = some t → target? b ≠ some t)
    (hk : ∀ a ∈ l, ∀ t, target? a = some t → j.device.Knows t) :
    ((l.forM f).play j).2.Sound ∧ (∀ kind, ((l.forM f).play j).2.issues kind = j.issues kind) ∧
      ∀ t, j.device.Knows t → (∀ a ∈ l, target? a ≠ some t) →
        ((l.forM f).play j).2.device.Knows t := by
  induction l generalizing j with
  | nil =>
    rw [List.forM, play_pure]
    exact ⟨hj, fun _ => rfl, fun t ht _ => ht⟩
  | cons a l ih =>
    rw [List.forM, play_bind]
    have hfirst := hf a j hj (hk a (List.mem_cons_self ..))
    obtain ⟨hne, hrest⟩ := List.pairwise_cons.mp hapart
    -- The objects of the rest are still there, for none of them is the first one.
    obtain ⟨hsound, hissues, hknows⟩ := ih hfirst.sound hrest fun b hb t ht =>
      hfirst.knows t (hk b (List.mem_cons_of_mem _ hb) t ht) fun e => hne b hb t e ht
    refine ⟨hsound, fun kind => (hissues kind).trans (hfirst.issues kind), fun t ht hnone => ?_⟩
    refine hknows t ?_ fun b hb => hnone b (List.mem_cons_of_mem _ hb)
    exact hfirst.knows t ht (hnone a (List.mem_cons_self ..))

/-- Members at two places of an array that cannot share a target are apart. -/
theorem pairwise_apart {β : Type} {l : Array α} {target? : α → Option β}
    (h : ∀ (i k : Nat) a b t, l[i]? = some a → l[k]? = some b → target? a = some t →
      target? b = some t → i = k) :
    l.toList.Pairwise fun a b => ∀ t, target? a = some t → target? b ≠ some t := by
  rw [List.pairwise_iff_getElem]
  intro i k hi hk hik t ha hb
  rw [Array.length_toList] at hi hk
  have heq := h i k _ _ t (Array.getElem?_eq_getElem hi) (Array.getElem?_eq_getElem hk) ha hb
  omega

/-! ## The end of a depot -/

namespace Depot

variable {r : Depot}

theorem apart_programs (h : r.Owns j) (hd : j.Distinct .program) :
    r.programs.toList.Pairwise fun p q =>
      ∀ t, p.handle?.map LabelTarget.program = some t → q.handle?.map .program ≠ some t := by
  apply pairwise_apart
  intro i k p q t hp hq ht ht'
  obtain ⟨x, hx, rfl⟩ := Option.map_eq_some_iff.mp ht
  obtain ⟨y, hy, e⟩ := Option.map_eq_some_iff.mp ht'
  cases e
  exact congrArg ProgramId.index (h.apart hd ⟨i⟩ ⟨k⟩ p q x hp hq hx hy)

theorem apart_pipelines (h : r.Owns j) (hd : j.Distinct .pipeline) :
    r.pipelines.toList.Pairwise fun p q =>
      ∀ t, p.handle?.map LabelTarget.pipeline = some t → q.handle?.map .pipeline ≠ some t := by
  apply pairwise_apart
  intro i k p q t hp hq ht ht'
  obtain ⟨x, hx, rfl⟩ := Option.map_eq_some_iff.mp ht
  obtain ⟨y, hy, e⟩ := Option.map_eq_some_iff.mp ht'
  cases e
  exact congrArg PipelineId.index (h.pipelinesApart hd ⟨i⟩ ⟨k⟩ p q x hp hq hx hy)

theorem InOrder.lawful_dispose (h : r.InOrder j [] []) (hd : ∀ kind, j.Distinct kind) :
    Lawful (r.dispose.play j).2.device.archive (r.dispose.play j).2.calls := by
  unfold dispose
  simp only [play_bind, play_note]
  have hpipeline : ∀ p ∈ r.pipelines.toList, ∀ t, p.handle?.map LabelTarget.pipeline = some t →
      j.device.Knows t := by
    intro p hp t ht
    obtain ⟨a, ha, rfl⟩ := Option.map_eq_some_iff.mp ht
    obtain ⟨i, hi⟩ := List.mem_iff_getElem?.mp hp
    rw [Array.getElem?_toList] at hi
    exact h.owns.known (hd _) ⟨i⟩ p a hi ha
  have hprogram : ∀ p ∈ r.programs.toList, ∀ t, p.handle?.map LabelTarget.program = some t →
      j.device.Knows t := by
    intro p hp t ht
    obtain ⟨a, ha, rfl⟩ := Option.map_eq_some_iff.mp ht
    obtain ⟨i, hi⟩ := List.mem_iff_getElem?.mp hp
    rw [Array.getElem?_toList] at hi
    exact (h.owns.settled ⟨i⟩ p hi).knows (hd _) ha
  obtain ⟨hsound, hissues, hknows⟩ := spared_forM (f := fun p : Pipeline => discard p.dispose)
    (fun p j hj hk => spared_dispose_pipeline hj fun a ha => hk _ (by rw [ha]; rfl))
    h.sound (apart_pipelines h.owns (hd _)) hpipeline
  -- The programs outlive the pipelines.
  have hleft : ∀ p ∈ r.programs.toList, ∀ t, p.handle?.map LabelTarget.program = some t →
      ((r.pipelines.toList.forM fun p => discard p.dispose).play j).2.device.Knows t := by
    intro p hp t ht
    apply hknows t (hprogram p hp t ht)
    obtain ⟨a, -, rfl⟩ := Option.map_eq_some_iff.mp ht
    intro q _ e
    obtain ⟨b, -, hb⟩ := Option.map_eq_some_iff.mp e
    exact program_ne_pipeline a b hb.symm
  obtain ⟨hsound', hissues', -⟩ := spared_forM (f := fun p : Program => discard p.dispose)
    (fun p j hj hk => spared_dispose_program hj fun a ha => hk _ (by rw [ha]; rfl))
    hsound (apart_programs h.owns (hd _)) hleft
  apply hsound'.lawful
  intro kind
  rw [Distinct, hissues', hissues]
  exact hd kind

end Depot

namespace Session

variable {σ : Session}

/-- As long as no number was taken twice, every call of a session is in order after the calls before it, and
so is every call at its end. -/
theorem calls_lawful (hσ : Reachable σ) (hprograms : σ.device.Roomy .program)
    (hpipelines : σ.device.Roomy .pipeline) :
    Lawful σ.device.archive σ.journal.calls ∧ Lawful σ.close.device.archive σ.close.calls := by
  have hin := hσ.inOrder
  have hd := hin.sound.numbered.distinct_all hprograms hpipelines
  exact ⟨hin.sound.lawful hd, hin.lawful_dispose hd⟩

theorem calls_lawful_sample :
    Lawful sample.close.device.archive
      [.createProgram ⟨1⟩ .compute, .setLabel (.program ⟨1⟩) "a.comp", .uniformLocation ⟨1⟩ "size",
        .setUniform ⟨1⟩ ⟨0⟩ (.int .one #v[7]), .createPipeline ⟨1⟩, .attachStage ⟨1⟩ .compute ⟨1⟩,
        .setLabel (.pipeline ⟨1⟩) "a.comp", .bindPipeline ⟨1⟩, .deletePipeline ⟨1⟩,
        .deleteProgram ⟨1⟩] := by
  have hlawful := (calls_lawful reachable_sample (by decide +kernel) (by decide +kernel)).2
  -- These are the calls that were recorded.
  convert hlawful using 1
  decide +kernel

/-- When it is not known which pipeline is current, binding one that is not dirty names its object. -/
theorem calls_bind_of_invalidated {id : PipelineId} {q : Pipeline} {x : PipelineHandle}
    (hq : σ.depot.pipeline? id = some q) (hclean : q.isDirty = false) (hx : q.handle? = some x) :
    (σ.run [.ask .invalidate, .ask (.bind id)]).journal.calls = σ.journal.calls ++ [.bindPipeline x] := by
  have hinvalidated : σ.step (.ask .invalidate) = ⟨σ.storage, σ.depot.invalidate, σ.journal⟩ := by
    simp only [step, Request.run, play_pure]
  have hbind := step_bind_of_clean (σ := ⟨σ.storage, σ.depot.invalidate, σ.journal⟩) hq hclean hx
    (Option.some_ne_none id).symm
  rw [run_cons, run_singleton, hinvalidated, hbind]
  rfl

/-- A number that was taken twice is named in a call after the object was given back. -/
theorem calls_unlawful_unboundSample :
    let σ := unboundSample.run [.ask .invalidate, .ask (.bind ⟨0⟩)]
    Reachable σ ∧ ∃ before, σ.journal.calls = before ++ [.bindPipeline ⟨1⟩] ∧
      ¬Alive before (.pipeline ⟨1⟩) := by
  intro σ
  obtain ⟨-, hpipeline, -, -, hgone⟩ := unboundSample_lost
  have hreachable : Reachable σ := reachable_unboundSample.run _
  refine ⟨hreachable, _, calls_bind_of_invalidated hpipeline rfl rfl, ?_⟩
  rw [reachable_unboundSample.inOrder.sound.alive, Knows, ← device, hgone]
  exact fun halive => by cases halive

end Session

end ShaderDepot
