import ShaderDepot.Proofs.Depot.Steps

/-!
# The books of a depot list nothing else

A depot that is in order finds its programs and pipelines in its books.  The books also list nothing
else: no program under a file that it does not start from, no pipeline under a program that it does not
hold, and each pipeline by its slots only (`Session.Reachable.listed`).
-/

namespace ShaderDepot

namespace Depot

open Device Journal DeviceM

variable {r r' : Depot} {j j' : Journal}

/-- The file that a program starts from. -/
def entryOf? (r : Depot) (id : ProgramId) : Option FileId := (r.program? id).map (·.entry)

/-- The slots of a pipeline. -/
def slotsOf? (r : Depot) (id : PipelineId) : Option StageSlots := (r.pipeline? id).map (·.slots)

structure Listed (r : Depot) : Prop where
  users : ∀ file id, id ∈ r.usersOf file → r.entryOf? id = some file
  dependents : ∀ a id, id ∈ r.dependentsOf a →
    ∃ slots stage, r.slotsOf? id = some slots ∧ slots.get? stage = some a
  slots : ∀ slots id, r.findSlots? slots = some id ↔ r.slotsOf? id = some slots

/-- What the books list stays right as long as the books, the entries and the slots stay. -/
theorem Listed.congr (h : r.Listed) (husages : r'.usages = r.usages)
    (hdependents : r'.dependents = r.dependents) (hindex : r'.slotsIndex = r.slotsIndex)
    (hentry : ∀ id, r'.entryOf? id = r.entryOf? id) (hslots : ∀ id, r'.slotsOf? id = r.slotsOf? id) :
    r'.Listed where
  users file id hid := by
    rw [hentry]
    rw [usersOf, husages] at hid
    exact h.users file id hid
  dependents a id hid := by
    rw [dependentsOf, hdependents] at hid
    simp only [hslots]
    exact h.dependents a id hid
  slots slots id := by
    rw [findSlots?, hindex, hslots]
    exact h.slots slots id

/-! ## Programs and pipelines that become others -/

theorem map_program?_setProgram {α : Type} {f : Program → α} {id : ProgramId} {p p' : Program}
    (hp : r.program? id = some p) (hf : f p' = f p) (a : ProgramId) :
    ((r.setProgram id p').program? a).map f = (r.program? a).map f := by
  rw [program?_setProgram_of hp]
  split
  · next e => rw [← e, hp, Option.map_some, Option.map_some, hf]
  · rfl

theorem entryOf?_setProgram {id : ProgramId} {p p' : Program} (hp : r.program? id = some p)
    (he : p'.entry = p.entry) (a : ProgramId) : (r.setProgram id p').entryOf? a = r.entryOf? a :=
  map_program?_setProgram hp he a

theorem slotsOf?_setPipeline {id : PipelineId} {p p' : Pipeline} (hp : r.pipeline? id = some p)
    (hs : p'.slots = p.slots) (a : PipelineId) :
    (r.setPipeline id p').slotsOf? a = r.slotsOf? a := by
  rw [slotsOf?, pipeline?_setPipeline_of hp]
  split
  · next e => rw [← e, slotsOf?, hp, Option.map_some, Option.map_some, hs]
  · rfl

theorem slotsOf?_spoilDependents (r : Depot) (id : ProgramId) (a : PipelineId) :
    (r.spoilDependents id).slotsOf? a = r.slotsOf? a := by
  rw [slotsOf?, spoilDependents, pipeline?_foldl_spoilPipeline]
  split
  · rw [slotsOf?, Option.map_map]
    rfl
  · rfl

/-! ## Programs and pipelines that are added -/

theorem entryOf?_addProgram (r : Depot) (key : ProgramKey) (entry : FileId) (a : ProgramId) :
    (r.addProgram key entry).entryOf? a =
      if a = ⟨r.programs.size⟩ then some entry else r.entryOf? a := by
  rw [entryOf?, program?_addProgram]
  split <;> rfl

theorem slotsOf?_addPipeline (r : Depot) (slots : StageSlots) (a : PipelineId) :
    (r.addPipeline slots).slotsOf? a =
      if a = ⟨r.pipelines.size⟩ then some slots else r.slotsOf? a := by
  rw [slotsOf?, pipeline?_addPipeline]
  split <;> rfl

theorem entryOf?_ne_size {id : ProgramId} {file : FileId} (h : r.entryOf? id = some file) :
    id ≠ ⟨r.programs.size⟩ := by
  obtain ⟨p, hp, -⟩ := Option.map_eq_some_iff.mp h
  rintro rfl
  exact Nat.lt_irrefl _ (lt_size_of_program? hp)

theorem slotsOf?_ne_size {id : PipelineId} {slots : StageSlots} (h : r.slotsOf? id = some slots) :
    id ≠ ⟨r.pipelines.size⟩ := by
  obtain ⟨p, hp, -⟩ := Option.map_eq_some_iff.mp h
  rintro rfl
  exact Nat.lt_irrefl _ (Array.getElem?_eq_some_iff.mp hp).1

theorem Listed.addProgram (h : r.Listed) (key : ProgramKey) (entry : FileId) :
    (r.addProgram key entry).Listed where
  users file id hid := by
    rw [usersOf_addProgram] at hid
    rw [entryOf?_addProgram]
    have hold : id ∈ r.usersOf file →
        (if id = ⟨r.programs.size⟩ then some entry else r.entryOf? id) = some file := by
      intro hid
      have hentry := h.users file id hid
      rw [if_neg (entryOf?_ne_size hentry), hentry]
    split at hid
    · next e =>
      subst e
      rcases List.mem_append.mp hid with hid | hid
      · exact hold hid
      · rw [List.mem_singleton.mp hid, if_pos rfl]
    · exact hold hid
  dependents := h.dependents
  slots := h.slots

theorem Listed.addPipeline (h : r.Listed) {slots : StageSlots} (hnew : r.findSlots? slots = none) :
    (r.addPipeline slots).Listed := by
  have hadd := slotsOf?_addPipeline r slots
  have hmem := @mem_dependentsOf_addPipeline r slots
  obtain ⟨dependents, heq⟩ := addPipeline_eq r slots
  rw [heq] at hadd hmem ⊢
  refine ⟨h.users, ?_, ?_⟩
  · intro a id hid
    rcases hmem.mp hid with hid | ⟨rfl, stage, hstage⟩
    · obtain ⟨slots', stage, hslots', hstage⟩ := h.dependents a id hid
      exact ⟨slots', stage, by rw [hadd, if_neg (slotsOf?_ne_size hslots'), hslots'], hstage⟩
    · exact ⟨slots, stage, by rw [hadd, if_pos rfl], hstage⟩
  · intro slots' id
    show (r.slotsIndex.insert slots _).get? slots' = some id ↔ _
    rw [hadd, Table.get?_insert]
    split
    · next e =>
      subst e
      constructor
      · intro hid
        rw [if_pos (Option.some.inj hid).symm]
      · intro hid
        split at hid
        · next e => rw [e]
        · -- No pipeline that was there had the slots.
          rw [(h.slots slots id).mpr hid] at hnew
          cases hnew
    · next hne =>
      refine (h.slots slots' id).trans ⟨fun hid => ?_, fun hid => ?_⟩
      · rw [if_neg (slotsOf?_ne_size hid), hid]
      · split at hid
        · exact absurd (Option.some.inj hid) hne
        · exact hid

/-! ## All steps -/

theorem Listed.rebind (h : r.Listed) {id : PipelineId} {p : Pipeline} (hp : r.pipeline? id = some p)
    {out : (Except DepotError Unit × Depot) × Journal} (hout : Rebinds r id p j out) :
    out.1.2.Listed := by
  cases hout with
  | refused fault hbuilt => exact h.congr rfl rfl rfl (fun _ => rfl) (slotsOf?_setPipeline hp rfl)
  | bound hbuilt => exact h.congr rfl rfl rfl (fun _ => rfl) (slotsOf?_setPipeline hp rfl)

theorem Listed.step (hs : Step (r, j) (r', j')) (h : r.Listed) : r'.Listed := by
  cases hs with
  | aside graph changes watched hdevice hissues => exact h.congr rfl rfl rfl (fun _ => rfl) fun _ => rfl
  | forget => exact h.congr rfl rfl rfl (fun _ => rfl) fun _ => rfl
  | use hr hp hu hfixed hbeside =>
    exact h.congr rfl rfl rfl (entryOf?_setProgram hp hu.entry) fun _ => rfl
  | addProgram key entry => exact h.addProgram key entry
  | compile hr hp hnew compilations failures =>
    exact h.congr rfl rfl rfl (entryOf?_setProgram hp hnew.entry) fun _ => rfl
  | spoil id =>
    have hslots := slotsOf?_spoilDependents r id
    unfold spoilDependents at hslots ⊢
    rw [foldl_spoilPipeline_eq] at hslots ⊢
    exact h.congr rfl rfl rfl (fun _ => rfl) hslots
  | addPipeline hnew => exact h.addPipeline hnew
  | rebind hr hp hdirty hout => exact h.rebind hp hout
  | bind hp hx => exact h.congr rfl rfl rfl (fun _ => rfl) fun _ => rfl

end Depot

theorem Session.Reachable.listed {σ : Session} (hσ : Reachable σ) : σ.depot.Listed := by
  refine hσ.invariant (P := fun r _ => r.Listed) (fun settings style => ?_) Depot.Listed.step
    fun _ _ _ h => h
  exact ⟨fun _ _ hid => (nomatch hid), fun _ _ hid => (nomatch hid),
    fun _ _ => ⟨fun h => (nomatch h), fun h => (nomatch h)⟩⟩

end ShaderDepot
