import Mathlib.Algebra.GroupWithZero.Nat
import ShaderDepot.Proofs.Depot.Steps

/-!
# What a depot counts

The compilations that a depot counts are those of its programs, and as many as the programs that its
device was asked for; and its pipelines were made anew as often as the device made a pipeline
(`Depot.Counted`).  Each step keeps this (`Depot.Counted.step`).
-/

namespace ShaderDepot

theorem sum_map_modify {α : Type} (f : α → Nat) {l : List α} {i : Nat} {a : α}
    (h : l[i]? = some a) (b : α) :
    ((l.modify i fun _ => b).map f).sum + f a = (l.map f).sum + f b := by
  induction l generalizing i with
  | nil => cases h
  | cons c l ih =>
    cases i with
    | zero =>
      obtain rfl : c = a := Option.some.inj h
      rw [List.modify_zero_cons, List.map_cons, List.sum_cons, List.map_cons, List.sum_cons]
      omega
    | succ i =>
      have hrest := ih h
      rw [List.modify_succ_cons, List.map_cons, List.sum_cons, List.map_cons, List.sum_cons]
      omega

/-- What is not seen to change is summed up as before. -/
theorem map_modify_eq {α β : Type} {f : α → β} {change : α → α} (h : ∀ a, f (change a) = f a)
    (l : List α) (i : Nat) : (l.modify i change).map f = l.map f := by
  apply List.ext_getElem?
  intro k
  rw [List.getElem?_map, List.getElem?_map, List.getElem?_modify]
  cases l[k]? with
  | none => rfl
  | some a =>
    show some (f (if i = k then change a else a)) = some (f a)
    by_cases hk : i = k
    · rw [if_pos hk, h]
    · rw [if_neg hk]

namespace Depot

open Device Journal DeviceM

variable {r r' : Depot} {j j' : Journal} {d d' : Device}

structure Counted (r : Depot) (j : Journal) : Prop where
  compilations : r.compilations = (r.programs.toList.map (·.compileCount)).sum
  /-- A program was made or refused for each compilation. -/
  attempts : r.compilations = (j.issues .program).length + j.device.refusedPrograms
  builds : (r.pipelines.toList.map (·.buildCount)).sum = (j.issues .pipeline).length

theorem Counted.congr (h : r.Counted j) (hcompilations : r'.compilations = r.compilations)
    (hprograms : r'.programs.toList.map (·.compileCount) = r.programs.toList.map (·.compileCount))
    (hpipelines : r'.pipelines.toList.map (·.buildCount) = r.pipelines.toList.map (·.buildCount))
    (hissues : ∀ kind, j'.issues kind = j.issues kind)
    (hrefused : j'.device.refusedPrograms = j.device.refusedPrograms) : r'.Counted j' where
  compilations := by
    rw [hcompilations, hprograms]
    exact h.compilations
  attempts := by
    rw [hcompilations, hissues, hrefused]
    exact h.attempts
  builds := by
    rw [hpipelines, hissues]
    exact h.builds

theorem sum_compileCount_setProgram {id : ProgramId} {p : Program} (hp : r.program? id = some p)
    (p' : Program) :
    ((r.setProgram id p').programs.toList.map (·.compileCount)).sum + p.compileCount =
      (r.programs.toList.map (·.compileCount)).sum + p'.compileCount := by
  have hget : r.programs.toList[id.index]? = some p := by
    rw [Array.getElem?_toList]
    exact hp
  rw [setProgram, Array.toList_modify]
  exact sum_map_modify _ hget p'

theorem sum_buildCount_setPipeline {id : PipelineId} {p : Pipeline} (hp : r.pipeline? id = some p)
    (p' : Pipeline) :
    ((r.setPipeline id p').pipelines.toList.map (·.buildCount)).sum + p.buildCount =
      (r.pipelines.toList.map (·.buildCount)).sum + p'.buildCount := by
  have hget : r.pipelines.toList[id.index]? = some p := by
    rw [Array.getElem?_toList]
    exact hp
  rw [setPipeline, Array.toList_modify]
  exact sum_map_modify _ hget p'

/-- A pipeline that is spoiled was not made. -/
theorem map_buildCount_foldl_spoilPipeline (r : Depot) (ids : List PipelineId) :
    (ids.foldl spoilPipeline r).pipelines.toList.map (·.buildCount) =
      r.pipelines.toList.map (·.buildCount) := by
  have hspoil : ∀ p : Pipeline, p.spoil.buildCount = p.buildCount := fun _ => rfl
  induction ids generalizing r with
  | nil => rfl
  | cons id ids ih =>
    rw [List.foldl_cons, ih, spoilPipeline, Array.toList_modify]
    exact map_modify_eq hspoil _ _

theorem Counted.use (h : r.Counted j) {id : ProgramId} {p p' : Program} (hp : r.program? id = some p)
    (hcount : p'.compileCount = p.compileCount) (hq : Quiet j j') :
    (r.setProgram id p').Counted j' where
  compilations := by
    have hsum := sum_compileCount_setProgram hp p'
    have hcompilations := h.compilations
    show r.compilations = _
    omega
  attempts := by
    rw [hq.issues, hq.same.refusedPrograms]
    exact h.attempts
  builds := by
    rw [hq.issues]
    exact h.builds

theorem Counted.compile (h : r.Counted j) {id : ProgramId} {p p' : Program}
    (hp : r.program? id = some p) {text : String} (hnew : p.Renewed text j p' j')
    (failures : Nat) :
    Counted { r.setProgram id p' with compilations := r.compilations + 1, failures } j' where
  compilations := by
    have hsum := sum_compileCount_setProgram hp p'
    have hcompilations := h.compilations
    have hcount := hnew.compileCount
    show r.compilations + 1 = ((r.setProgram id p').programs.toList.map (·.compileCount)).sum
    omega
  attempts := by
    rw [hnew.attempted, ← h.attempts]
  builds := by
    rw [hnew.issues]
    exact h.builds

theorem Counted.rebind (h : r.Counted j) {id : PipelineId} {p : Pipeline}
    (hp : r.pipeline? id = some p) {out : (Except DepotError Unit × Depot) × Journal}
    (hout : Rebinds r id p j out) : out.1.2.Counted out.2 := by
  have hremade := p.remade_rebuild r.programs j
  -- The pipelines were made once more exactly if the device made one.
  have hset : ∀ {p' : Pipeline} {j' : Journal}, p.Remade j p' j' →
      (r.setPipeline id p').Counted j' := by
    intro p' j' hr
    have hsum := sum_buildCount_setPipeline hp p'
    have hbuilds := h.builds
    have hbuilt := hr.built
    refine ⟨h.compilations, ?_, by omega⟩
    rw [hr.programs, hr.refusedPrograms]
    exact h.attempts
  cases hout with
  | refused fault hbuilt =>
    rw [hbuilt] at hremade
    exact hset hremade
  | bound hbuilt =>
    rw [hbuilt] at hremade
    exact (hset hremade).congr rfl rfl rfl (issues_push_of_none rfl _) rfl

theorem Counted.step (hs : Step (r, j) (r', j')) (h : r.Counted j) : r'.Counted j' := by
  cases hs with
  | aside graph changes watched hdevice hissues =>
    exact h.congr rfl rfl rfl hissues (congrArg Device.refusedPrograms hdevice)
  | forget => exact h.congr rfl rfl rfl (fun _ => rfl) rfl
  | use hr hp hu hfixed hbeside =>
    exact h.use hp (congrArg Program.compileCount hfixed :) hu.quiet
  | addProgram key entry =>
    refine ⟨?_, h.attempts, h.builds⟩
    show r.compilations = ((r.programs.push { key, entry }).toList.map (·.compileCount)).sum
    rw [Array.toList_push, List.map_append, List.sum_append, ← h.compilations]
    rfl
  | compile hr hp hnew compilations failures hcompilations hfailures =>
    rw [hcompilations]
    exact h.compile hp hnew failures
  | spoil id =>
    have hcounts := map_buildCount_foldl_spoilPipeline r (r.dependentsOf id)
    unfold spoilDependents
    rw [foldl_spoilPipeline_eq]
    exact h.congr rfl rfl hcounts (fun _ => rfl) rfl
  | @addPipeline _ _ slots hnew hfault =>
    obtain ⟨dependents, heq⟩ := addPipeline_eq r slots
    rw [heq]
    refine ⟨h.compilations, h.attempts, ?_⟩
    show ((r.pipelines.push { slots }).toList.map (·.buildCount)).sum = _
    rw [Array.toList_push, List.map_append, List.sum_append, ← h.builds]
    rfl
  | rebind hr hp hdirty hout => exact h.rebind hp hout
  | bind hp hx => exact h.congr rfl rfl rfl (issues_push_of_none rfl _) rfl

end Depot

theorem Session.Reachable.counted {σ : Session} (hσ : Reachable σ) : σ.depot.Counted σ.journal :=
  hσ.invariant (P := fun r j => r.Counted j) (fun _ _ => ⟨rfl, rfl, rfl⟩) Depot.Counted.step
    fun _ _ _ h => h.congr rfl rfl rfl (fun _ => rfl) rfl

end ShaderDepot
