import ShaderDepot.Proofs.Depot.Invariant

/-!
# The books of a depot

A depot finds its programs by their keys and by their entry files, and the pipelines of a program by the
program.  These books go on to agree when a program or a pipeline is added or becomes another.
-/

namespace ShaderDepot

namespace Depot

variable {r : Depot}

/-! ## Programs -/

section

variable {id : ProgramId} {p p' : Program}

theorem program?_setProgram_of (hp : r.program? id = some p) (a : ProgramId) :
    (r.setProgram id p').program? a = if id = a then some p' else r.program? a := by
  rw [program?_setProgram]
  split
  · next e => rw [← e, hp]; rfl
  · rfl

/-- The books do not change when a program changes but for its key and entry. -/
theorem Indexed.setProgram (h : r.Indexed) (hp : r.program? id = some p) (hkey : p'.key = p.key)
    (hentry : p'.entry = p.entry) : (r.setProgram id p').Indexed := by
  -- Every program stands for one of the same key and entry.
  have hold : ∀ a q', (r.setProgram id p').program? a = some q' →
      ∃ q, r.program? a = some q ∧ q'.key = q.key ∧ q'.entry = q.entry := by
    intro a q' hq'
    rw [program?_setProgram_of hp] at hq'
    split at hq'
    · next e =>
      obtain rfl := Option.some.inj hq'
      exact ⟨p, e ▸ hp, hkey, hentry⟩
    · exact ⟨q', hq', rfl, rfl⟩
  refine ⟨h.graph, h.version, ?_, ?_, ?_, ?_, ?_⟩
  · intro a q' hq'
    obtain ⟨q, hq, hk, he⟩ := hold a q' hq'
    rw [hk, he]
    exact h.entry a q hq
  · intro a q' hq'
    obtain ⟨q, hq, hk, -⟩ := hold a q' hq'
    rw [hk]
    exact h.asked a q hq
  · intro key a
    rw [program?_setProgram_of hp]
    refine (h.keys key a).trans ?_
    split
    · next e =>
      rw [← e, hp]
      constructor
      · rintro ⟨q, hq, hk⟩
        obtain rfl := Option.some.inj hq
        exact ⟨p', rfl, hkey.trans hk⟩
      · rintro ⟨q, hq, hk⟩
        obtain rfl := Option.some.inj hq
        exact ⟨p, rfl, hkey.symm.trans hk⟩
    · rfl
  · intro a q' hq'
    obtain ⟨q, hq, -, he⟩ := hold a q' hq'
    rw [he]
    exact h.users a q hq
  · intro a q stage b hq hs
    obtain ⟨hb, hd⟩ := h.slots a q stage b hq hs
    refine ⟨?_, hd⟩
    rw [program?_setProgram, apply_ite Option.isSome, Option.isSome_map, ite_self]
    exact hb

end

section

variable {key : ProgramKey} {entry : FileId}

/-- A new program is found by its key and by its entry file. -/
theorem Indexed.addProgram (h : r.Indexed) (hkey : r.findKey? key = none)
    (hentry : r.graph.find? key.path = some entry)
    (hasked : ∃ path, Path.normalize path = key.path) : (r.addProgram key entry).Indexed := by
  have hadd := program?_addProgram r key entry
  have hlt : ∀ a q, r.program? a = some q → a ≠ ⟨r.programs.size⟩ := by
    rintro a q hq rfl
    exact Nat.lt_irrefl _ (lt_size_of_program? hq)
  refine ⟨h.graph, h.version, ?_, ?_, ?_, ?_, ?_⟩
  · intro a q hq
    rw [hadd] at hq
    split at hq
    · obtain rfl := Option.some.inj hq
      exact hentry
    · exact h.entry a q hq
  · intro a q hq
    rw [hadd] at hq
    split at hq
    · obtain rfl := Option.some.inj hq
      exact hasked
    · exact h.asked a q hq
  · intro key' a
    rw [findKey?_addProgram, hadd]
    split
    · next hk =>
      subst hk
      constructor
      · intro ha
        rw [if_pos (Option.some.inj ha).symm]
        exact ⟨_, rfl, rfl⟩
      · rintro ⟨q, hq, hqk⟩
        split at hq
        · next e => rw [e]
        · -- No program that was there had the key.
          have := (h.keys key a).mpr ⟨q, hq, hqk⟩
          rw [hkey] at this
          cases this
    · next hk =>
      rw [h.keys]
      constructor
      · -- A program that was there does not stand at the new place.
        rintro ⟨q, hq, hqk⟩
        rw [if_neg (hlt a q hq)]
        exact ⟨q, hq, hqk⟩
      · rintro ⟨q, hq, hqk⟩
        split at hq
        · obtain rfl := Option.some.inj hq
          exact absurd hqk hk
        · exact ⟨q, hq, hqk⟩
  · intro a q hq
    rw [hadd] at hq
    rw [usersOf_addProgram]
    split at hq
    · next e =>
      obtain rfl := Option.some.inj hq
      rw [if_pos rfl, e]
      exact List.mem_append_right _ (List.mem_singleton_self _)
    · have hu := h.users a q hq
      split
      · next e =>
        rw [e]
        exact List.mem_append_left _ hu
      · exact hu
  · intro a q stage b hq hs
    obtain ⟨hb, hd⟩ := h.slots a q stage b hq hs
    refine ⟨?_, hd⟩
    rw [hadd]
    split
    · rfl
    · exact hb

end

/-! ## Pipelines -/

section

variable {id : PipelineId} {p p' : Pipeline}

theorem pipeline?_setPipeline_of (hp : r.pipeline? id = some p) (a : PipelineId) :
    (r.setPipeline id p').pipeline? a = if id = a then some p' else r.pipeline? a := by
  rw [pipeline?_setPipeline]
  split
  · next e => rw [← e, hp]; rfl
  · rfl

/-- Where the pipelines change, the books agree when each pipeline is listed under its programs. -/
theorem Indexed.withPipelines (h : r.Indexed) {pipelines : Array Pipeline}
    {slotsIndex : Table StageSlots PipelineId} {dependents : Table ProgramId (List PipelineId)}
    (hslots : ∀ (id : PipelineId) p stage a, pipelines[id.index]? = some p →
      p.slots.get? stage = some a →
      (r.program? a).isSome ∧ id ∈ (dependents.get? a).getD []) :
    Indexed { r with pipelines, slotsIndex, dependents } where
  graph := h.graph
  version := h.version
  entry := h.entry
  asked := h.asked
  keys := h.keys
  users := h.users
  slots := hslots

theorem Indexed.setPipeline (h : r.Indexed) (hp : r.pipeline? id = some p)
    (hslots : p'.slots = p.slots) : (r.setPipeline id p').Indexed := by
  apply h.withPipelines
  intro a q stage b hq hs
  have hset : (r.setPipeline id p').pipeline? a = some q := hq
  rw [pipeline?_setPipeline_of hp] at hset
  split at hset
  · next e =>
    obtain rfl := Option.some.inj hset
    rw [hslots] at hs
    exact h.slots a p stage b (e ▸ hp) hs
  · exact h.slots a q stage b hset hs

theorem Indexed.addPipeline (h : r.Indexed) {slots : StageSlots}
    (hslots : ∀ stage a, slots.get? stage = some a → (r.program? a).isSome) :
    (r.addPipeline slots).Indexed := by
  have hadd := pipeline?_addPipeline r slots
  have hdependents : ∀ a b, a ∈ (r.addPipeline slots).dependentsOf b ↔ _ :=
    fun a b => mem_dependentsOf_addPipeline (r := r)
  obtain ⟨dependents, heq⟩ := addPipeline_eq r slots
  rw [heq] at hadd hdependents ⊢
  apply h.withPipelines
  intro a q stage b hq hs
  have hq' := (hadd a).symm.trans hq
  split at hq'
  · next e =>
    obtain rfl := Option.some.inj hq'
    exact ⟨hslots stage b hs, (hdependents a b).mpr (.inr ⟨e, stage, hs⟩)⟩
  · obtain ⟨hb, hd⟩ := h.slots a q stage b hq' hs
    exact ⟨hb, (hdependents a b).mpr (.inl hd)⟩

end

/-- A spoiled pipeline has its slots and its object as before, and a pipeline that is clean is none of
those that were spoiled. -/
theorem pipeline?_spoilDependents {a : PipelineId} {q' : Pipeline} {id : ProgramId}
    (hq' : (r.spoilDependents id).pipeline? a = some q') :
    ∃ q, r.pipeline? a = some q ∧ q'.slots = q.slots ∧ q'.handle? = q.handle? ∧
      (q'.isDirty = false → q.isDirty = false ∧ a ∉ r.dependentsOf id) := by
  rw [Depot.spoilDependents, pipeline?_foldl_spoilPipeline] at hq'
  split at hq'
  · obtain ⟨q, hq, rfl⟩ := Option.map_eq_some_iff.mp hq'
    exact ⟨q, hq, rfl, rfl, fun hd => nomatch hd⟩
  · next hm => exact ⟨q', hq', rfl, rfl, fun hd => ⟨hd, hm⟩⟩

theorem Indexed.spoilDependents (h : r.Indexed) (id : ProgramId) :
    (r.spoilDependents id).Indexed := by
  have hold := fun a q' => @pipeline?_spoilDependents r a q' id
  rw [Depot.spoilDependents, foldl_spoilPipeline_eq] at hold ⊢
  apply h.withPipelines
  intro a q' stage b hq' hs
  obtain ⟨q, hq, hslots, -⟩ := hold a q' hq'
  rw [hslots] at hs
  exact h.slots a q stage b hq hs

end Depot

end ShaderDepot
