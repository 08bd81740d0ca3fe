import ShaderDepot.Proofs.Depot.Books

/-!
# Pipelines of a depot in order

What becomes of a depot in order when a pipeline is added, made anew or bound.
-/

namespace ShaderDepot

namespace Depot

open Device Journal

variable {r : Depot} {j j' : Journal} {pending loose : List ProgramId} {id : PipelineId}
  {p p' : Pipeline}

/-! ## A pipeline is added -/

/-- The programs of slots with which nothing is wrong are there. -/
theorem isSome_program?_of_slotFault? {slots : StageSlots} (h : r.slotFault? slots = none)
    {stage : Stage} {a : ProgramId} (ha : slots.get? stage = some a) : (r.program? a).isSome := by
  unfold slotFault? at h
  split at h
  · cases h
  · have hnone := List.findSome?_eq_none_iff.mp h (stage, a) (mem_filled.mpr ha)
    cases hp : r.program? a with
    | none =>
      simp only [hp] at hnone
      cases hnone
    | some p => rfl

theorem InOrder.addPipeline (h : r.InOrder j pending loose) {slots : StageSlots}
    (hslots : ∀ stage a, slots.get? stage = some a → (r.program? a).isSome) :
    (r.addPipeline slots).InOrder j pending loose := by
  have hadd := pipeline?_addPipeline r slots
  have hindexed := h.indexed.addPipeline hslots
  obtain ⟨dependents, heq⟩ := addPipeline_eq r slots
  rw [heq] at hadd hindexed ⊢
  -- A new pipeline has no object yet, and is dirty until it is bound.
  refine ⟨h.sound, hindexed, ?_, ?_, ?_, ?_⟩
  · apply h.owns.inherit List.prefix_rfl
    · exact h.owns.settled
    · exact fun a q x hq hx => ⟨q, hq, hx⟩
    · intro a q x hq hx
      rw [hadd] at hq
      split at hq
      · obtain rfl := Option.some.inj hq
        cases hx
      · exact ⟨q, hq, hx⟩
    · exact fun x hx => hx
  · intro a q hq hn
    exact (h.compiled a q hq hn).congr List.prefix_rfl rfl rfl rfl rfl (fun _ _ _ => rfl) (Nat.le_refl _)
  · intro a q hq hclean
    rw [hadd] at hq
    split at hq
    · obtain rfl := Option.some.inj hq
      cases hclean
    · exact h.built a q hq hclean
  · intro hd a q hq hclean hl
    rw [hadd] at hq
    split at hq
    · obtain rfl := Option.some.inj hq
      cases hclean
    · exact (h.attached hd a q hq hclean hl).congr rfl rfl (fun _ _ => rfl) fun _ _ _ => rfl

/-! ## A pipeline is made anew -/

section

variable {built : Except DeviceError PipelineHandle}

theorem Owns.pipelines_of_ne (h : r.Owns j) (hp : r.pipeline? id = some p)
    (hr : p.Rebuilt r.programs j built p' j') (hd : j'.Distinct .pipeline) {a : PipelineId}
    {q : Pipeline} {x : PipelineHandle} (ha : a ≠ id) (hq : r.pipeline? a = some q)
    (hx : q.handle? = some x) :
    j'.device.pipelines.get? x = j.device.pipelines.get? x := by
  have hbefore := hd.of_initial hr.altered.calls
  apply hr.altered.others hd x (h.known hbefore a q x hq hx)
  intro hpx
  exact ha (h.pipelinesApart hbefore a id q p x hq hp hx hpx)

theorem Owns.rebuilt (h : r.Owns j) (hp : r.pipeline? id = some p)
    (hr : p.Rebuilt r.programs j built p' j') : (r.setPipeline id p').Owns j' := by
  have hset : ∀ a, (r.setPipeline id p').pipeline? a = if id = a then some p' else r.pipeline? a :=
    pipeline?_setPipeline_of hp
  have hcalls := hr.altered.calls
  -- The new object is no other pipeline's.
  have hnew : j'.Distinct .pipeline → ∀ a q x, r.pipeline? a = some q → q.handle? = some x →
      p'.handle? ≠ some x :=
    fun hd a q x hq hx hx' => hr.fresh hd hx' (h.known (hd.of_initial hcalls) a q x hq hx)
  constructor
  · intro a q hq
    exact (h.settled a q hq).congr hcalls fun _ x _ => hr.altered.made x
  · exact fun hd => h.apart (hd.of_initial hcalls)
  · intro hd a q x hq hx
    rw [hset] at hq
    split at hq
    · obtain rfl := Option.some.inj hq
      exact hr.known hx
    · next e =>
      rw [Knows, h.pipelines_of_ne hp hr hd (Ne.symm e) hq hx]
      exact h.known (hd.of_initial hcalls) a q x hq hx
  · intro hd a b q q' x hq hq' hx hx'
    rw [hset] at hq hq'
    split at hq <;> split at hq'
    · next ea eb => rw [← ea, ← eb]
    · obtain rfl := Option.some.inj hq
      exact absurd hx (hnew hd b q' x hq' hx')
    · obtain rfl := Option.some.inj hq'
      exact absurd hx' (hnew hd a q x hq hx)
    · exact h.pipelinesApart (hd.of_initial hcalls) a b q q' x hq hq' hx hx'

theorem InOrder.rebuilt (h : r.InOrder j pending []) (hp : r.pipeline? id = some p)
    (hdirty : p.isDirty = true) (hr : p.Rebuilt r.programs j built p' j') :
    (r.setPipeline id p').InOrder j' pending [] := by
  refine ⟨hr.altered.sound, h.indexed.setPipeline hp hr.slots, h.owns.rebuilt hp hr, ?_, ?_, ?_⟩
  · intro a q hq hn
    exact (h.compiled a q hq hn).congr hr.altered.calls rfl rfl rfl rfl
      (fun _ x _ => hr.altered.made x) (Nat.le_of_eq hr.altered.refusedPrograms.symm)
  · intro a q hq hclean
    rw [pipeline?_setPipeline_of hp] at hq
    split at hq
    · obtain rfl := Option.some.inj hq
      obtain ⟨x, -, hx, -⟩ := hr.attached hdirty hclean
      rw [hx]
      rfl
    · exact h.built a q hq hclean
  · intro hd a q hq hclean _
    rw [pipeline?_setPipeline_of hp] at hq
    split at hq
    · obtain rfl := Option.some.inj hq
      exact hr.attached hdirty hclean
    · next e =>
      -- The object of another pipeline was there before, so it is not the new one.
      have hattached := h.attached (hd.of_initial hr.altered.calls) a q hq hclean
        fun _ _ _ => List.not_mem_nil
      exact hattached.congr rfl rfl
        (fun x hx => h.owns.pipelines_of_ne hp hr hd (Ne.symm e) hq hx) fun _ _ _ => rfl

end

/-! ## A pipeline is bound -/

theorem InOrder.rebind (h : r.InOrder j pending []) (hp : r.pipeline? id = some p)
    (hdirty : p.isDirty = true) :
    ((r.rebind id p).play j).1.2.InOrder ((r.rebind id p).play j).2 pending [] := by
  have hr := Pipeline.rebuilt_rebuild h.sound (fun x hx hd => h.owns.known hd id p x hp hx) r.programs
    (fun i q hq => h.owns.settled ⟨i⟩ q hq)
  have hrebuilt := h.rebuilt hp hdirty hr
  unfold Depot.rebind
  rw [DeviceM.play_bind]
  generalize (p.rebuild r.programs).play j = built at hr hrebuilt
  obtain ⟨⟨built, p'⟩, j'⟩ := built
  cases built with
  | error cause =>
    -- The device refused: the pipeline stays dirty, and nothing is bound.
    simp only [DeviceM.play_pure]
    exact hrebuilt
  | ok x =>
    simp only [DeviceM.play_bind, DeviceM.play_pure]
    have hq := quiet_bindPipeline hrebuilt.sound fun _ => hr.known hr.handle_of_ok
    exact (hrebuilt.quiet hq).same rfl rfl rfl rfl rfl rfl rfl

theorem InOrder.bind (h : r.InOrder j pending []) (id : PipelineId) :
    ((r.bind id).play j).1.2.InOrder ((r.bind id).play j).2 pending [] := by
  unfold Depot.bind
  cases hp : r.pipeline? id with
  | none =>
    simp only [DeviceM.play_pure]
    exact h
  | some p =>
    simp only
    split
    · next hdirty => exact h.rebind hp hdirty
    · next hclean =>
      split
      · simp only [DeviceM.play_pure]
        exact h
      · -- A pipeline that is not dirty has its object.
        obtain ⟨x, hx⟩ := Option.isSome_iff_exists.mp (h.built id p hp (Bool.eq_false_iff.mpr hclean))
        have hk : j.Distinct .pipeline → j.device.Knows (.pipeline x) := fun hd =>
          h.owns.known hd id p x hp hx
        simp only [hx, DeviceM.play_bind, DeviceM.play_pure]
        exact (h.quiet (quiet_bindPipeline h.sound hk)).same rfl rfl rfl rfl rfl rfl rfl

end Depot

end ShaderDepot
