import Mathlib.Data.List.Induction
import ShaderDepot.Proofs.Depot.Listed

/-!
# Where programs and pipelines are filed

The books of a depot list each program once, under the file that it starts from, and each pipeline once
under each program that it holds; and what they find by its slots has programs in them that are there
and fit (`Depot.Filed`).  The key of a program and the slots of a pipeline stay for good
(`Depot.Step.keyOf?`, `Depot.Step.slotsOf?`).
-/

namespace ShaderDepot

theorem Stage.exists_slot : ∀ i : Fin 6, ∃ stage : Stage, stage.slot = i
  | 0 => ⟨vertex, rfl⟩
  | 1 => ⟨tessControl, rfl⟩
  | 2 => ⟨tessEvaluation, rfl⟩
  | 3 => ⟨geometry, rfl⟩
  | 4 => ⟨fragment, rfl⟩
  | 5 => ⟨compute, rfl⟩

namespace StageSlots

variable {slots slots' : StageSlots}

theorem ext_get? (h : ∀ stage, slots.get? stage = slots'.get? stage) : slots = slots' := by
  obtain ⟨xs⟩ := slots
  obtain ⟨ys⟩ := slots'
  congr 1
  apply Vector.ext
  intro i hi
  obtain ⟨stage, hstage⟩ := Stage.exists_slot ⟨i, hi⟩
  obtain rfl : (stage.slot : Nat) = i := congrArg Fin.val hstage
  exact h stage

/-- The slots after some programs were put in, one after the other. -/
def ofList (placements : List (Stage × ProgramId)) : StageSlots :=
  placements.foldl (fun slots e => slots.insert e.1 e.2) .empty

theorem get?_empty (stage : Stage) : empty.get? stage = none := by cases stage <;> rfl

/-- For each stage the program that was put in last counts. -/
theorem get?_ofList (placements : List (Stage × ProgramId)) (stage : Stage) :
    (ofList placements).get? stage = placements.reverse.lookup stage := by
  induction placements using List.reverseRecOn with
  | nil => exact get?_empty stage
  | append_singleton l e ih =>
    rw [ofList, List.foldl_append, List.foldl_cons, List.foldl_nil, get?_insert,
      List.reverse_append, List.reverse_singleton, List.singleton_append, List.lookup_cons]
    by_cases h : e.1 = stage
    · rw [if_pos h, h, beq_self_eq_true]
    · rw [if_neg h, beq_false_of_ne (Ne.symm h)]
      exact ih

theorem contains_eq {a : ProgramId} : slots.contains a = decide (a ∈ slots.filled.map (·.2)) := by
  rw [contains, ← List.elem_eq_mem, List.elem_eq_contains, List.contains_eq_any_beq, List.any_map]
  congr 1
  funext e
  exact Bool.beq_comm

theorem nodup_filled_fst (slots : StageSlots) : (slots.filled.map (·.1)).Nodup := by
  have hsublist : (slots.filled.map (·.1)).Sublist Stage.all := by
    rw [filled, List.map_filterMap]
    have hstage : (fun stage => ((slots.get? stage).map (stage, ·)).map (·.1)) =
        Option.guard fun stage => (slots.get? stage).isSome := by
      funext stage
      rw [Option.guard]
      cases slots.get? stage <;> rfl
    rw [hstage, List.filterMap_eq_filter]
    exact List.filter_sublist
  exact hsublist.nodup (by decide)

end StageSlots

namespace Depot

open Device Journal DeviceM

variable {r r' : Depot} {j j' : Journal}

def keyOf? (r : Depot) (id : ProgramId) : Option ProgramKey := (r.program? id).map (·.key)

/-- There is a program in some slot, and each is there and of the stage of its slot. -/
structure Fits (r : Depot) (slots : StageSlots) : Prop where
  nonempty : slots.isEmpty = false
  staged : ∀ stage a, slots.get? stage = some a → ∃ key, r.keyOf? a = some key ∧ key.stage = stage

theorem fits_iff {slots : StageSlots} : r.Fits slots ↔ r.slotFault? slots = none := by
  unfold slotFault?
  constructor
  · intro h
    rw [h.nonempty, if_neg Bool.false_ne_true]
    apply List.findSome?_eq_none_iff.mpr
    rintro ⟨stage, a⟩ he
    obtain ⟨key, hkey, hstage⟩ := h.staged stage a (mem_filled.mp he)
    obtain ⟨p, hp, rfl⟩ := Option.map_eq_some_iff.mp hkey
    simp only [hp, if_pos hstage]
  · intro h
    split at h
    · cases h
    · next hne =>
      refine ⟨Bool.eq_false_iff.mpr hne, fun stage a ha => ?_⟩
      have hfault := List.findSome?_eq_none_iff.mp h (stage, a) (mem_filled.mpr ha)
      dsimp only at hfault
      split at hfault
      · cases hfault
      · next p hp =>
        -- The program is there, and the one fault left to find is its stage.
        split at hfault
        · next hstage => exact ⟨p.key, Option.map_eq_some_iff.mpr ⟨p, hp, rfl⟩, hstage⟩
        · cases hfault

theorem Fits.mono {slots : StageSlots} (h : r.Fits slots)
    (hkey : ∀ a key, r.keyOf? a = some key → r'.keyOf? a = some key) : r'.Fits slots where
  nonempty := h.nonempty
  staged stage a ha := by
    obtain ⟨key, hk, hstage⟩ := h.staged stage a ha
    exact ⟨key, hkey a key hk, hstage⟩

/-- No program is in two slots, for it is of one stage. -/
theorem Fits.nodup {slots : StageSlots} (h : r.Fits slots) : (slots.filled.map (·.2)).Nodup := by
  have hstage : slots.filled.map (·.1) =
      (slots.filled.map (·.2)).map fun a => ((r.keyOf? a).map (·.stage)).getD .vertex := by
    rw [List.map_map]
    apply List.map_congr_left
    rintro ⟨stage, a⟩ he
    obtain ⟨key, hk, hs⟩ := h.staged stage a (mem_filled.mp he)
    show stage = ((r.keyOf? a).map (·.stage)).getD .vertex
    rw [hk, ← hs]
    rfl
  have hnodup := slots.nodup_filled_fst
  rw [hstage] at hnodup
  exact List.Nodup.of_map _ hnodup

structure Filed (r : Depot) : Prop where
  users : ∀ file id, (r.usersOf file).count id = if r.entryOf? id = some file then 1 else 0
  dependents : ∀ a id, (r.dependentsOf a).count id =
    if (r.slotsOf? id).any (·.contains a) then 1 else 0
  slots : ∀ slots id, r.findSlots? slots = some id → r.Fits slots

theorem Filed.congr (h : r.Filed) (husages : r'.usages = r.usages)
    (hdependents : r'.dependents = r.dependents) (hindex : r'.slotsIndex = r.slotsIndex)
    (hentry : ∀ id, r'.entryOf? id = r.entryOf? id) (hslots : ∀ id, r'.slotsOf? id = r.slotsOf? id)
    (hkey : ∀ id, r'.keyOf? id = r.keyOf? id) : r'.Filed where
  users file id := by
    rw [hentry, usersOf, husages]
    exact h.users file id
  dependents a id := by
    rw [hslots, dependentsOf, hdependents]
    exact h.dependents a id
  slots slots id hid := by
    rw [findSlots?, hindex] at hid
    apply (h.slots slots id hid).mono
    intro a key ha
    rwa [hkey]

/-! ## Keys -/

theorem keyOf?_setProgram {id : ProgramId} {p p' : Program} (hp : r.program? id = some p)
    (hk : p'.key = p.key) (a : ProgramId) : (r.setProgram id p').keyOf? a = r.keyOf? a :=
  map_program?_setProgram hp hk a

theorem keyOf?_addProgram (r : Depot) (key : ProgramKey) (entry : FileId) (a : ProgramId) :
    (r.addProgram key entry).keyOf? a =
      if a = ⟨r.programs.size⟩ then some key else r.keyOf? a := by
  rw [keyOf?, program?_addProgram]
  split <;> rfl

theorem keyOf?_ne_size {id : ProgramId} {key : ProgramKey} (h : r.keyOf? id = some key) :
    id ≠ ⟨r.programs.size⟩ := by
  obtain ⟨p, hp, -⟩ := Option.map_eq_some_iff.mp h
  rintro rfl
  exact Nat.lt_irrefl _ (lt_size_of_program? hp)

/-- A program that is there keeps its key. -/
theorem keyOf?_addProgram_of_some {id : ProgramId} {key : ProgramKey} (h : r.keyOf? id = some key)
    (key' : ProgramKey) (entry : FileId) : (r.addProgram key' entry).keyOf? id = some key := by
  rw [keyOf?_addProgram, if_neg (keyOf?_ne_size h), h]

/-! ## Programs and pipelines that are added -/

theorem Filed.addProgram (h : r.Filed) (key : ProgramKey) (entry : FileId) :
    (r.addProgram key entry).Filed where
  users file id := by
    rw [usersOf_addProgram, entryOf?_addProgram]
    by_cases hid : id = ⟨r.programs.size⟩
    · -- The new program was not listed before.
      have hnone : ∀ file, (r.usersOf file).count id = 0 := by
        intro file
        rw [h.users, if_neg fun e => entryOf?_ne_size e hid]
      rw [if_pos hid]
      by_cases hf : entry = file
      · rw [if_pos hf, if_pos (congrArg some hf), List.count_append, hnone, hid,
          List.count_singleton_self]
      · rw [if_neg hf, if_neg fun e => hf (Option.some.inj e), hnone]
    · rw [if_neg hid, ← h.users]
      by_cases hf : entry = file
      · have hother : [ProgramId.mk r.programs.size].count id = 0 :=
          List.count_eq_zero_of_not_mem fun hm => hid (List.mem_singleton.mp hm)
        rw [if_pos hf, hf, List.count_append, hother, Nat.add_zero]
      · rw [if_neg hf]
  dependents := h.dependents
  slots slots id hid := (h.slots slots id hid).mono fun _ _ ha => keyOf?_addProgram_of_some ha key entry

theorem count_dependentsOf_foldl (r : Depot) (l : List (Stage × ProgramId)) (id a : PipelineId)
    (b : ProgramId) :
    ((l.foldl (fun r e => r.addDependent e.2 id) r).dependentsOf b).count a =
      (r.dependentsOf b).count a + if a = id then (l.map (·.2)).count b else 0 := by
  induction l generalizing r with
  | nil => rw [List.foldl_nil, List.map_nil, List.count_nil, ite_self, Nat.add_zero]
  | cons e l ih =>
    rw [List.foldl_cons, ih, dependentsOf_addDependent, List.map_cons, List.count_cons]
    by_cases he : e.2 = b
    · rw [if_pos he, he, List.count_append, List.count_singleton]
      by_cases ha : a = id
      · simp only [ha, beq_self_eq_true, if_true]
        omega
      · simp only [if_neg ha, beq_false_of_ne (Ne.symm ha), Bool.false_eq_true, if_false]
    · rw [if_neg he, beq_false_of_ne he, if_neg Bool.false_ne_true, Nat.add_zero]

theorem Filed.addPipeline (h : r.Filed) {slots : StageSlots} (hfits : r.Fits slots) :
    (r.addPipeline slots).Filed := by
  have hadd := slotsOf?_addPipeline r slots
  have hcount := count_dependentsOf_foldl { r with
      pipelines := r.pipelines.push { slots }
      slotsIndex := r.slotsIndex.insert slots ⟨r.pipelines.size⟩ } slots.filled ⟨r.pipelines.size⟩
  obtain ⟨dependents, heq⟩ := addPipeline_eq r slots
  have hcount' : ∀ a b, ((r.addPipeline slots).dependentsOf b).count a =
      (r.dependentsOf b).count a +
        if a = ⟨r.pipelines.size⟩ then (slots.filled.map (·.2)).count b else 0 := hcount
  rw [heq] at hadd hcount' ⊢
  refine ⟨h.users, fun a id => ?_, fun slots' id hid => ?_⟩
  · rw [hcount', hadd, h.dependents]
    by_cases hid : id = ⟨r.pipelines.size⟩
    · -- The new pipeline was not listed before, and each of its programs is in one slot.
      have hnone : r.slotsOf? id = none := by
        cases hs : r.slotsOf? id with
        | none => rfl
        | some slots' => exact absurd hid (slotsOf?_ne_size hs)
      rw [if_pos hid, if_pos hid, hnone, Option.any_none, if_neg Bool.false_ne_true, Nat.zero_add,
        Option.any_some, hfits.nodup.count, StageSlots.contains_eq]
      exact if_congr decide_eq_true_iff.symm rfl rfl
    · rw [if_neg hid, if_neg hid, Nat.add_zero]
  · have hid : (r.slotsIndex.insert slots ⟨r.pipelines.size⟩).get? slots' = some id := hid
    rw [Table.get?_insert] at hid
    split at hid
    · next e => exact e ▸ ⟨hfits.nonempty, hfits.staged⟩
    · exact ⟨(h.slots slots' id hid).nonempty, (h.slots slots' id hid).staged⟩

/-! ## All steps -/

theorem Rebinds.slotsOf? {id : PipelineId} {p : Pipeline} (hp : r.pipeline? id = some p)
    {out : (Except DepotError Unit × Depot) × Journal} (hout : Rebinds r id p j out)
    (a : PipelineId) : out.1.2.slotsOf? a = r.slotsOf? a := by
  cases hout with
  | refused fault hbuilt =>
    have hs : p.released.slots = p.slots := rfl
    exact slotsOf?_setPipeline hp hs a
  | @bound x j' hbuilt =>
    have hs : (p.withObject x).slots = p.slots := rfl
    exact slotsOf?_setPipeline hp hs a

theorem Filed.rebind (h : r.Filed) {id : PipelineId} {p : Pipeline} (hp : r.pipeline? id = some p)
    {out : (Except DepotError Unit × Depot) × Journal} (hout : Rebinds r id p j out) :
    out.1.2.Filed := by
  cases hout with
  | refused fault hbuilt =>
    exact h.congr rfl rfl rfl (fun _ => rfl) (slotsOf?_setPipeline hp rfl) fun _ => rfl
  | bound hbuilt =>
    exact h.congr rfl rfl rfl (fun _ => rfl) (slotsOf?_setPipeline hp rfl) fun _ => rfl

theorem Filed.step (hs : Step (r, j) (r', j')) (h : r.Filed) : r'.Filed := by
  cases hs with
  | aside graph changes watched hdevice hissues =>
    exact h.congr rfl rfl rfl (fun _ => rfl) (fun _ => rfl) fun _ => rfl
  | forget => exact h.congr rfl rfl rfl (fun _ => rfl) (fun _ => rfl) fun _ => rfl
  | use hr hp hu hfixed hbeside =>
    exact h.congr rfl rfl rfl (entryOf?_setProgram hp hu.entry) (fun _ => rfl)
      (keyOf?_setProgram hp hu.key)
  | addProgram key entry => exact h.addProgram key entry
  | compile hr hp hnew compilations failures =>
    exact h.congr rfl rfl rfl (entryOf?_setProgram hp hnew.entry) (fun _ => rfl)
      (keyOf?_setProgram hp hnew.key)
  | spoil id =>
    have hslots := slotsOf?_spoilDependents r id
    unfold spoilDependents at hslots ⊢
    rw [foldl_spoilPipeline_eq] at hslots ⊢
    exact h.congr rfl rfl rfl (fun _ => rfl) hslots fun _ => rfl
  | addPipeline hnew hfault => exact h.addPipeline (fits_iff.mpr hfault)
  | rebind hr hp hdirty hout => exact h.rebind hp hout
  | bind hp hx => exact h.congr rfl rfl rfl (fun _ => rfl) (fun _ => rfl) fun _ => rfl

/-! ## What stays -/

theorem Step.keyOf? (hs : Step (r, j) (r', j')) {id : ProgramId} {key : ProgramKey}
    (h : r.keyOf? id = some key) : r'.keyOf? id = some key := by
  cases hs with
  | use hr hp hu hfixed hbeside => exact (keyOf?_setProgram hp hu.key id).trans h
  | compile hr hp hnew compilations failures => exact (keyOf?_setProgram hp hnew.key id).trans h
  | addProgram key entry => exact keyOf?_addProgram_of_some h key entry
  | spoil a =>
    unfold spoilDependents
    rw [foldl_spoilPipeline_eq]
    exact h
  | @addPipeline _ _ slots hnew hfault =>
    obtain ⟨dependents, heq⟩ := addPipeline_eq r slots
    rw [heq]
    exact h
  | rebind hr hp hdirty hout => cases hout <;> exact h
  | aside | forget | bind => exact h

theorem Step.slotsOf? (hs : Step (r, j) (r', j')) {id : PipelineId} {slots : StageSlots}
    (h : r.slotsOf? id = some slots) : r'.slotsOf? id = some slots := by
  cases hs with
  | spoil a => exact (slotsOf?_spoilDependents r a id).trans h
  | addPipeline hnew hfault =>
    rw [slotsOf?_addPipeline, if_neg (slotsOf?_ne_size h)]
    exact h
  | rebind hr hp hdirty hout => exact (hout.slotsOf? hp id).trans h
  | aside | forget | use | addProgram | compile | bind => exact h

end Depot

theorem Session.Reachable.filed {σ : Session} (hσ : Reachable σ) : σ.depot.Filed := by
  refine hσ.invariant (P := fun r _ => r.Filed) (fun settings style => ?_) Depot.Filed.step
    fun _ _ _ h => h
  exact ⟨fun _ _ => rfl, fun _ _ => rfl, fun _ _ h => nomatch h⟩

end ShaderDepot
