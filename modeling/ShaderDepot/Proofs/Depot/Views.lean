import Mathlib.Tactic.Common
import ShaderDepot.Depot

/-!
# What can be seen of a depot

A depot is seen through its programs and pipelines by their ids, and through the books that lead to
them: from a key to its program, from a file to the programs that start there, from a program to the
pipelines that hold it.
-/

namespace ShaderDepot

theorem ProgramId.index_inj {a b : ProgramId} : a.index = b.index ↔ a = b :=
  ⟨fun h => by cases a; cases b; exact congrArg _ h, congrArg _⟩

theorem PipelineId.index_inj {a b : PipelineId} : a.index = b.index ↔ a = b :=
  ⟨fun h => by cases a; cases b; exact congrArg _ h, congrArg _⟩

/-! ## Members that are replaced -/

theorem modify_const_modify_const {α : Type} (l : Array α) (i : Nat) (a b : α) :
    (l.modify i fun _ => a).modify i (fun _ => b) = l.modify i fun _ => b := by
  apply Array.ext_getElem?
  intro k
  simp only [Array.getElem?_modify]
  split
  · rw [Option.map_map]
    rfl
  · rfl

theorem modify_const_self {α : Type} {l : Array α} {i : Nat} {a : α} (h : l[i]? = some a) :
    (l.modify i fun _ => a) = l := by
  apply Array.ext_getElem?
  intro k
  rw [Array.getElem?_modify]
  split
  · next e => rw [← e, h, Option.map_some]
  · rfl

namespace Depot

variable {r : Depot}

theorem setProgram_setProgram (r : Depot) (id : ProgramId) (p q : Program) :
    (r.setProgram id p).setProgram id q = r.setProgram id q := by
  rw [setProgram, setProgram, setProgram, modify_const_modify_const]

theorem setProgram_self {id : ProgramId} {p : Program} (h : r.program? id = some p) :
    r.setProgram id p = r := by
  rw [setProgram, modify_const_self h]

theorem setPipeline_setPipeline (r : Depot) (id : PipelineId) (p q : Pipeline) :
    (r.setPipeline id p).setPipeline id q = r.setPipeline id q := by
  rw [setPipeline, setPipeline, setPipeline, modify_const_modify_const]

theorem setPipeline_self {id : PipelineId} {p : Pipeline} (h : r.pipeline? id = some p) :
    r.setPipeline id p = r := by
  rw [setPipeline, modify_const_self h]

/-! ## Programs -/

theorem program?_setProgram (r : Depot) (id a : ProgramId) (p : Program) :
    (r.setProgram id p).program? a =
      if id = a then (r.program? a).map fun _ => p else r.program? a := by
  rw [program?, setProgram, Array.getElem?_modify]
  exact if_congr (@ProgramId.index_inj id a) rfl rfl

theorem program?_addProgram (r : Depot) (key : ProgramKey) (entry : FileId) (a : ProgramId) :
    (r.addProgram key entry).program? a =
      if a = ⟨r.programs.size⟩ then some { key, entry } else r.program? a := by
  rw [program?, addProgram, Array.getElem?_push]
  exact if_congr (@ProgramId.index_inj a ⟨r.programs.size⟩) rfl rfl

theorem lt_size_of_program? {id : ProgramId} {p : Program} (h : r.program? id = some p) :
    id.index < r.programs.size := (Array.getElem?_eq_some_iff.mp h).1

theorem findKey?_addProgram (r : Depot) (key key' : ProgramKey) (entry : FileId) :
    (r.addProgram key entry).findKey? key' =
      if key = key' then some ⟨r.programs.size⟩ else r.findKey? key' := Table.get?_insert ..

theorem usersOf_addProgram (r : Depot) (key : ProgramKey) (entry file : FileId) :
    (r.addProgram key entry).usersOf file =
      if entry = file then r.usersOf entry ++ [⟨r.programs.size⟩] else r.usersOf file := by
  rw [usersOf, addProgram, Table.get?_insert]
  split <;> rfl

theorem mem_programIds {id : ProgramId} : id ∈ r.programIds ↔ id.index < r.programs.size := by
  simp only [programIds, List.mem_map, List.mem_range]
  exact ⟨fun ⟨_, h, e⟩ => e ▸ h, fun h => ⟨_, h, rfl⟩⟩

theorem mem_programsFrom {id : ProgramId} {p : Program} {files : List FileId} {file : FileId}
    (h : r.program? id = some p) (hu : id ∈ r.usersOf file) (hf : file ∈ files) :
    id ∈ r.programsFrom files := by
  rw [programsFrom, List.mem_filter, decide_eq_true_iff]
  exact ⟨mem_programIds.mpr (lt_size_of_program? h), List.mem_flatMap.mpr ⟨file, hf, hu⟩⟩

/-! ## Pipelines -/

theorem mem_filled {slots : StageSlots} {stage : Stage} {id : ProgramId} :
    (stage, id) ∈ slots.filled ↔ slots.get? stage = some id := by
  rw [StageSlots.filled, List.mem_filterMap]
  constructor
  · rintro ⟨s, -, h⟩
    obtain ⟨a, ha, e⟩ := Option.map_eq_some_iff.mp h
    cases e
    exact ha
  · intro h
    exact ⟨stage, Stage.mem_all stage, by rw [h]; rfl⟩

theorem pipeline?_setPipeline (r : Depot) (id a : PipelineId) (p : Pipeline) :
    (r.setPipeline id p).pipeline? a =
      if id = a then (r.pipeline? a).map fun _ => p else r.pipeline? a := by
  rw [pipeline?, setPipeline, Array.getElem?_modify]
  exact if_congr (@PipelineId.index_inj id a) rfl rfl

theorem pipeline?_spoilPipeline (r : Depot) (id a : PipelineId) :
    (r.spoilPipeline id).pipeline? a =
      if id = a then (r.pipeline? a).map Pipeline.spoil else r.pipeline? a := by
  rw [pipeline?, spoilPipeline, Array.getElem?_modify]
  exact if_congr (@PipelineId.index_inj id a) rfl rfl

/-- The depot after some pipelines were spoiled differs from it before in these pipelines only. -/
theorem pipeline?_foldl_spoilPipeline (r : Depot) (ids : List PipelineId) (a : PipelineId) :
    (ids.foldl spoilPipeline r).pipeline? a =
      if a ∈ ids then (r.pipeline? a).map Pipeline.spoil else r.pipeline? a := by
  induction ids generalizing r with
  | nil => rfl
  | cons id ids ih =>
    rw [List.foldl_cons, ih, pipeline?_spoilPipeline]
    by_cases ha : a ∈ ids
    · -- To spoil a pipeline twice is to spoil it once.
      rw [if_pos ha, if_pos (List.mem_cons_of_mem _ ha)]
      split
      · rw [Option.map_map]
        cases r.pipeline? a <;> rfl
      · rfl
    · rw [if_neg ha]
      by_cases he : id = a
      · rw [if_pos he, if_pos (he ▸ List.mem_cons_self ..)]
      · rw [if_neg he, if_neg]
        rw [List.mem_cons]
        exact fun h => h.elim (fun e => he e.symm) ha

theorem foldl_spoilPipeline_eq (r : Depot) (ids : List PipelineId) :
    ids.foldl spoilPipeline r = { r with pipelines := (ids.foldl spoilPipeline r).pipelines } := by
  induction ids generalizing r with
  | nil => rfl
  | cons id ids ih =>
    rw [List.foldl_cons, ih]
    rfl

theorem dependentsOf_addDependent (r : Depot) (a b : ProgramId) (id : PipelineId) :
    (r.addDependent a id).dependentsOf b =
      if a = b then r.dependentsOf a ++ [id] else r.dependentsOf b := by
  rw [dependentsOf, addDependent, Table.get?_insert]
  split <;> rfl

theorem foldl_addDependent_eq (r : Depot) (l : List (Stage × ProgramId)) (id : PipelineId) :
    l.foldl (fun r e => r.addDependent e.2 id) r =
      { r with dependents := (l.foldl (fun r e => r.addDependent e.2 id) r).dependents } := by
  induction l generalizing r with
  | nil => rfl
  | cons e l ih =>
    rw [List.foldl_cons, ih]
    rfl

theorem mem_dependentsOf_foldl (r : Depot) (l : List (Stage × ProgramId)) (id a : PipelineId)
    (b : ProgramId) :
    a ∈ (l.foldl (fun r e => r.addDependent e.2 id) r).dependentsOf b ↔
      a ∈ r.dependentsOf b ∨ a = id ∧ b ∈ l.map (·.2) := by
  induction l generalizing r with
  | nil => simp only [List.foldl_nil, List.map_nil, List.not_mem_nil, and_false, or_false]
  | cons e l ih =>
    rw [List.foldl_cons, ih, dependentsOf_addDependent, List.map_cons, List.mem_cons]
    by_cases he : e.2 = b
    · rw [if_pos he, he, List.mem_append, List.mem_singleton]
      grind
    · rw [if_neg he]
      grind

/-- A new pipeline stands after the others and is listed under its programs. -/
theorem addPipeline_eq (r : Depot) (slots : StageSlots) :
    ∃ dependents, r.addPipeline slots = { r with
        pipelines := r.pipelines.push { slots }
        slotsIndex := r.slotsIndex.insert slots ⟨r.pipelines.size⟩
        dependents } :=
  ⟨_, foldl_addDependent_eq ..⟩

theorem pipeline?_addPipeline (r : Depot) (slots : StageSlots) (a : PipelineId) :
    (r.addPipeline slots).pipeline? a =
      if a = ⟨r.pipelines.size⟩ then some { slots } else r.pipeline? a := by
  obtain ⟨dependents, h⟩ := addPipeline_eq r slots
  rw [h, pipeline?, Array.getElem?_push]
  exact if_congr (@PipelineId.index_inj a ⟨r.pipelines.size⟩) rfl rfl

theorem mem_dependentsOf_addPipeline {r : Depot} {slots : StageSlots} {a : PipelineId}
    {b : ProgramId} :
    a ∈ (r.addPipeline slots).dependentsOf b ↔
      a ∈ r.dependentsOf b ∨ a = ⟨r.pipelines.size⟩ ∧ ∃ stage, slots.get? stage = some b := by
  refine (mem_dependentsOf_foldl _ slots.filled ⟨r.pipelines.size⟩ a b).trans ?_
  refine or_congr Iff.rfl (and_congr_right' ?_)
  rw [List.mem_map]
  constructor
  · rintro ⟨⟨stage, id⟩, h, rfl⟩
    exact ⟨stage, mem_filled.mp h⟩
  · rintro ⟨stage, h⟩
    exact ⟨(stage, b), mem_filled.mpr h, rfl⟩

end Depot

end ShaderDepot
