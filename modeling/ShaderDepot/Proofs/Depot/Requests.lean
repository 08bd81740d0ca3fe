import ShaderDepot.Proofs.ChangeQueue
import ShaderDepot.Proofs.Depot.Pipelines
import ShaderDepot.Proofs.Depot.Programs
import ShaderDepot.Proofs.Depot.Reload
import ShaderDepot.Proofs.Session

/-!
# Requests leave a depot in order

Whatever is asked of a depot in order, it is in order after it, and so it is in every reachable state
of a session (`Session.Reachable.inOrder`).
-/

namespace ShaderDepot

namespace Depot

open Device Journal DeviceM

variable {s : Storage} {r : Depot} {j : Journal} {pending : List ProgramId}

/-! ## Files and programs -/

theorem play_source (s : Storage) (r : Depot) (path : String) (j : Journal) :
    (r.source s path).play j =
      (((r.graph.intern s path).value.1, { r with graph := (r.graph.intern s path).value.2 }), j) := by
  unfold source
  rw [play_bind, play_ofTraced (IncludeGraph.calls_intern ..), play_pure]

/-- A file that gets a place is reached by no program that was there. -/
theorem InOrder.source (h : r.InOrder j pending []) (s : Storage) (path : String) :
    InOrder { r with graph := (r.graph.intern s path).value.2 } j pending [] := by
  obtain ⟨hs, hg, -, -⟩ := IncludeGraph.settled_intern s h.indexed.graph path
  exact h.setGraph pending hs hg fun a q _ ha => ⟨ha, fun b hb _ => Nat.not_le.mpr hb⟩

theorem play_program_of_none {path : String} {stage : Stage} {defines : List Define}
    (hk : r.findKey? (keyOf path stage defines) = none) (s : Storage) (j : Journal) :
    (r.program s path stage defines).play j =
      let key := keyOf path stage defines
      let found := (r.graph.intern s key.path).value
      let built := (({ r with graph := found.2 }.addProgram key found.1).compile
        ⟨r.programs.size⟩).play j
      ((⟨r.programs.size⟩, built.1), built.2) := by
  simp only [Depot.program, hk]
  simp only [play_bind, play_pure, play_source]

/-- A program that gets its place is compiled at once. -/
theorem InOrder.compileNew (h : r.InOrder j [] []) {key : ProgramKey} {entry : FileId}
    (hk : r.findKey? key = none) (hfind : r.graph.find? key.path = some entry)
    (hasked : ∃ path, Path.normalize path = key.path) :
    (((r.addProgram key entry).compile ⟨r.programs.size⟩).play j).1.InOrder
      (((r.addProgram key entry).compile ⟨r.programs.size⟩).play j).2 [] [] := by
  apply (h.addProgram hk hfind hasked).compile.tighten
  -- The new program is in no pipeline, for the programs of pipelines were there before.
  intro a q b hq hs
  have hq' : r.pipeline? a = some q := by
    rw [pipeline?, pipelines_compile] at hq
    exact hq
  obtain ⟨p, hp⟩ := Option.isSome_iff_exists.mp (h.indexed.slots a q b _ hq' hs).1
  exact Nat.lt_irrefl _ (lt_size_of_program? hp)

theorem InOrder.program (h : r.InOrder j [] []) (s : Storage) (path : String) (stage : Stage)
    (defines : List Define) :
    ((r.program s path stage defines).play j).1.2.InOrder
      ((r.program s path stage defines).play j).2 [] [] := by
  cases hk : r.findKey? (keyOf path stage defines) with
  | some id =>
    simp only [Depot.program, hk, play_pure]
    exact h
  | none =>
    rw [play_program_of_none hk]
    obtain ⟨-, -, -, hfind⟩ :=
      IncludeGraph.settled_intern s h.indexed.graph (keyOf path stage defines).path
    exact (h.source s (keyOf path stage defines).path).compileNew hk hfind ⟨path, rfl⟩

/-! ## Uses of a program -/

theorem InOrder.withProgram {α : Type} (h : r.InOrder j [] []) (id : ProgramId)
    {f : Program → DeviceM (α × Program)}
    (hf : ∀ p, r.program? id = some p → p.Used j ((f p).play j).1.2 ((f p).play j).2) :
    ((r.withProgram id f).play j).1.2.InOrder ((r.withProgram id f).play j).2 [] [] := by
  cases hp : r.program? id with
  | none =>
    simp only [Depot.withProgram, hp, play_pure]
    exact h
  | some p =>
    simp only [Depot.withProgram, hp, play_bind, play_pure]
    exact h.used hp (hf p hp)

theorem InOrder.changeProgram (h : r.InOrder j [] []) (id : ProgramId)
    {f : Program → DeviceM Program}
    (hf : ∀ p : Program, p.Settled j → p.Used j ((f p).play j).1 ((f p).play j).2) :
    ((r.changeProgram id f).play j).1.2.InOrder ((r.changeProgram id f).play j).2 [] [] := by
  apply h.withProgram id
  intro p hp
  simp only [play_bind, play_pure]
  exact hf p (h.owns.settled id p hp)

/-! ## Pipelines and dispatches -/

theorem calls_pipeline (r : Depot) (slots : StageSlots) : (r.pipeline slots).calls = [] := by
  unfold Depot.pipeline
  split
  · rfl
  · split <;> rfl

theorem InOrder.pipeline (h : r.InOrder j [] []) (slots : StageSlots) :
    (r.pipeline slots).value.2.InOrder j [] [] := by
  unfold Depot.pipeline
  split
  · exact h
  · next hfault =>
    split
    · exact h
    · exact h.addPipeline fun _ _ ha => isSome_program?_of_slotFault? hfault ha

theorem calls_boundCompute (r : Depot) : r.boundCompute.calls = [] := by
  unfold boundCompute
  split
  · rfl
  · split <;> rfl

theorem quiet_dispatchGroups (hj : j.Sound) (r : Depot) (groups : Extent) :
    Quiet j ((r.dispatchGroups groups).play j).2 := by
  unfold dispatchGroups
  rw [play_bind, play_ofTraced (calls_boundCompute r)]
  split
  · exact quiet_dispatchCompute hj groups
  · rw [play_pure]
    exact .refl hj

theorem quiet_dispatchThreads (hj : j.Sound) (r : Depot) (threads : Extent) :
    Quiet j ((r.dispatchThreads threads).play j).2 := by
  unfold dispatchThreads
  rw [play_bind, play_ofTraced (calls_boundCompute r)]
  split
  · simp only
    split
    · rw [play_pure]
      exact .refl hj
    · exact quiet_dispatchCompute hj _
  · rw [play_pure]
    exact .refl hj

theorem calls_resolve (r : Depot) (id : ProgramId) : (r.resolve id).calls = [] := by
  unfold resolve
  split
  · rw [Traced.calls_map]
    exact IncludeGraph.calls_resolve ..
  · rfl

theorem calls_watch (r : Depot) (disk : Disk) (root : String) : (r.watch disk root).calls = [] := by
  unfold watch
  split <;> rfl

/-! ## Updates -/

/-- The programs that an update compiles again. -/
def affected (s : Storage) (r : Depot) : List ProgramId :=
  let reloaded := (reloadFiles s r.graph r.changes.drain.1).value
  r.programsFrom (reloaded.1.includersClosure reloaded.2)

/-- The depot after an update has read the changed files again. -/
def reread (s : Storage) (r : Depot) : Depot :=
  { r with
    graph := (reloadFiles s r.graph r.changes.drain.1).value.1
    changes := r.changes.drain.2 }

theorem reread_of_isEmpty (s : Storage) (h : r.changes.isEmpty = true) : r.reread s = r := by
  rw [reread, ChangeQueue.drain_of_isEmpty h]
  rfl

theorem programsFrom_nil (r : Depot) : r.programsFrom [] = [] := by
  rw [programsFrom, List.flatMap_nil]
  exact List.filter_eq_nil_iff.mpr fun a _ => by simp

theorem affected_of_isEmpty (s : Storage) (r : Depot)
    (h : (reloadFiles s r.graph r.changes.drain.1).value.2 = []) : r.affected s = [] := by
  rw [affected, h, IncludeGraph.includersClosure_nil, programsFrom_nil]

/-- An update compiles the affected programs, one after the other; where it ends early, there are none. -/
theorem play_update (s : Storage) (r : Depot) (j : Journal) :
    (r.update s).play j =
      let compiled := ((r.affected s).foldlM recompile (r.reread s)).play j
      (((r.affected s).length, compiled.1), compiled.2) := by
  have hidle : (reloadFiles s r.graph r.changes.drain.1).value.2 = [] →
      ((0, r.reread s), j) =
        let compiled := ((r.affected s).foldlM recompile (r.reread s)).play j
        (((r.affected s).length, compiled.1), compiled.2) := by
    intro hseeds
    rw [affected_of_isEmpty s r hseeds, List.foldlM_nil, play_pure]
    rfl
  unfold update
  split
  · next hempty =>
    rw [play_pure, ← hidle (by rw [ChangeQueue.drain_of_isEmpty hempty]; rfl),
      reread_of_isEmpty s hempty]
  · simp only [play_bind, play_ofTraced (calls_reloadFiles ..)]
    split
    · next hempty =>
      rw [play_pure, ← hidle (List.isEmpty_iff.mp hempty)]
      rfl
    · simp only [play_bind, play_note, play_pure]
      rfl

theorem mem_affected (h : r.InOrder j [] []) (s : Storage) {a : ProgramId} {q : Program}
    {b : FileId} (hq : r.program? a = some q)
    (hb : b ∈ (reloadFiles s r.graph r.changes.drain.1).value.2)
    (hreach : (r.reread s).graph.Reaches q.entry b) : a ∈ r.affected s := by
  obtain ⟨hr, -⟩ := reloaded_reloadFiles s h.indexed.graph r.changes.drain.1
  have hentry := h.indexed.graph.lt_size_of_lookup? (h.indexed.entry a q hq)
  apply mem_programsFrom hq (h.indexed.users a q hq)
  exact (IncludeGraph.mem_includersClosure hr.settled.toWellFormed
    (Nat.lt_of_lt_of_le hentry hr.grows.size)).mpr ⟨b, hb, hreach⟩

/-- Once files were read again, the programs that reach one of them have to be compiled. -/
theorem InOrder.reread (h : r.InOrder j [] []) (s : Storage) :
    (r.reread s).InOrder j (r.affected s) [] := by
  obtain ⟨hr, -⟩ := reloaded_reloadFiles s h.indexed.graph r.changes.drain.1
  have hgraph := h.setGraph (r.affected s) hr.settled hr.grows (by
    intro a q hq ha
    refine ⟨List.not_mem_nil, fun b hb hreach hread => ha ?_⟩
    exact mem_affected h s hq (hread.resolve_right (Nat.not_le.mpr hb)) hreach)
  exact hgraph.same rfl rfl rfl rfl rfl rfl rfl

theorem InOrder.update (h : r.InOrder j [] []) (s : Storage) :
    ((r.update s).play j).1.2.InOrder ((r.update s).play j).2 [] [] := by
  rw [play_update]
  -- All that reach a file read again have to be compiled, and one after the other they are.
  exact play_foldlM (motive := fun rest (r : Depot) j => r.InOrder j rest []) Depot.recompile
    (r.affected s) (h.reread s) fun id rest r' j' h' => h'.recompile

end Depot

/-! ## Sessions -/

namespace Session

open Depot Device Journal DeviceM

theorem inOrder_start (settings : Settings) (storage : Storage) (style : LogStyle) :
    (Session.start settings storage style).depot.InOrder
      (Session.start settings storage style).journal [] [] where
  sound := sound_create style
  indexed := {
    graph := IncludeGraph.settled_empty settings.defaultVersion
    version := rfl
    entry := fun _ _ h => nomatch h
    asked := fun _ _ h => nomatch h
    keys := fun _ _ => ⟨fun h => (nomatch h), fun ⟨_, h, _⟩ => (nomatch h)⟩
    users := fun _ _ h => nomatch h
    slots := fun _ _ _ _ h => nomatch h }
  owns := {
    settled := fun _ _ h => nomatch h
    apart := fun _ _ _ _ _ _ h => nomatch h
    known := fun _ _ _ _ h => nomatch h
    pipelinesApart := fun _ _ _ _ _ _ h => nomatch h }
  compiled _ _ h := nomatch h
  built _ _ h := nomatch h
  attached _ _ _ h := nomatch h

theorem inOrder_run {s : Storage} {r : Depot} {j : Journal} (h : r.InOrder j [] [])
    (request : Request) :
    ((request.run s r).play j).1.InOrder ((request.run s r).play j).2 [] [] := by
  cases request with
  | source path =>
    rw [Request.run, play_map, play_source]
    exact h.source s path
  | program path stage defines =>
    rw [Request.run, play_map]
    exact h.program s path stage defines
  | resolve id =>
    rw [Request.run, play_map, play_ofTraced (calls_resolve r id)]
    exact h
  | location id name =>
    rw [Request.run, play_map]
    exact h.withProgram id fun p hp =>
      (Program.used_location h.sound (h.owns.settled id p hp) name).1
  | setUniform id name value =>
    rw [Request.run, play_map]
    exact h.changeProgram id fun p hp => Program.used_setUniform h.sound hp name value
  | bindUniformBlock id block binding =>
    rw [Request.run, play_map]
    exact h.changeProgram id fun p hp => Program.used_bindBlock h.sound hp .uniform block binding
  | bindStorageBlock id block binding =>
    rw [Request.run, play_map]
    exact h.changeProgram id fun p hp => Program.used_bindBlock h.sound hp .storage block binding
  | pipeline slots =>
    rw [Request.run, play_map, play_ofTraced (calls_pipeline r slots)]
    exact h.pipeline slots
  | bind id =>
    rw [Request.run, play_map]
    exact h.bind id
  | invalidate =>
    rw [Request.run, play_pure]
    exact h.same rfl rfl rfl rfl rfl rfl rfl
  | dispatchGroups groups =>
    rw [Request.run, play_map]
    exact h.quiet (quiet_dispatchGroups h.sound r groups)
  | dispatchThreads threads =>
    rw [Request.run, play_map]
    exact h.quiet (quiet_dispatchThreads h.sound r threads)
  | notify path =>
    rw [Request.run, play_pure]
    unfold Depot.notify
    generalize r.changes.notify path = notified
    exact h.same rfl rfl rfl rfl rfl rfl rfl
  | watch disk root =>
    rw [Request.run, play_map, play_ofTraced (calls_watch r disk root)]
    unfold Depot.watch
    split
    · exact h
    · exact h.same rfl rfl rfl rfl rfl rfl rfl
  | unwatch =>
    rw [Request.run, play_pure]
    exact h.same rfl rfl rfl rfl rfl rfl rfl
  | update =>
    rw [Request.run, play_map]
    exact h.update s

theorem sameObjects_obstruct (d : Device) (o : Obstacles) : SameObjects d (d.obstruct o) :=
  ⟨fun _ => rfl, rfl, rfl, fun kind => by cases kind <;> rfl, rfl⟩

theorem quiet_obstruct {j : Journal} (h : j.Sound) (o : Obstacles) : Quiet j (j.obstruct o) :=
  ⟨sameObjects_obstruct j.device o, List.prefix_rfl, fun _ => rfl,
    h.sameObjects (sameObjects_obstruct j.device o)⟩

theorem inOrder_step {σ : Session} (h : σ.depot.InOrder σ.journal [] []) (action : Action) :
    (σ.step action).depot.InOrder (σ.step action).journal [] [] := by
  cases action with
  | edit storage => exact h
  | obstruct obstacles => exact h.quiet (quiet_obstruct h.sound obstacles)
  | ask request => exact inOrder_run h request

/-- Between two requests a depot is in order. -/
theorem Reachable.inOrder {σ : Session} (h : Reachable σ) : σ.depot.InOrder σ.journal [] [] := by
  induction h with
  | start settings storage style => exact inOrder_start settings storage style
  | step action _ ih => exact inOrder_step ih action

end Session

end ShaderDepot
