import Mathlib.Logic.Relation
import ShaderDepot.Proofs.Depot.UpToDate
import ShaderDepot.Proofs.IncludeGraph.Keys

/-!
# How the graph of a depot grows

Whatever is asked of a depot, its graph goes on by calls and its queue of changes does not close
(`Depot.Continues`), so in every reachable state of a session the graph was built by calls
(`Session.Reachable.built`).
-/

namespace ShaderDepot

theorem IncludeGraph.Built.loads {version : String} {g g' : IncludeGraph} (h : Built version g)
    (hl : Relation.ReflTransGen Loads g g') : Built version g' := by
  induction hl with
  | refl => exact h
  | tail _ hl ih => exact ih.load hl

/-- The requests that read no files and leave the queue alone. -/
def Request.isAside : Request → Bool
  | .source _ | .program .. | .notify _ | .update => false
  | _ => true

namespace Depot

open IncludeGraph Journal DeviceM Relation

variable {s : Storage} {r r' r'' : Depot} {j : Journal} {g : IncludeGraph}

/-- `r'` comes from `r` by calls on the graph. -/
structure Continues (r r' : Depot) : Prop where
  graph : ReflTransGen Loads r.graph r'.graph
  listens : r.changes ≠ .closed → r'.changes ≠ .closed

/-- `r'` has the graph and the queue of `r`. -/
structure Still (r r' : Depot) : Prop where
  graph : r'.graph = r.graph
  changes : r'.changes = r.changes

theorem Still.refl (r : Depot) : Still r r := ⟨rfl, rfl⟩

theorem Still.continues (h : Still r r') : Continues r r' where
  graph := by rw [h.graph]
  listens hr := by rwa [h.changes]

theorem Continues.refl (r : Depot) : Continues r r := (Still.refl r).continues

theorem Continues.trans (h : Continues r r') (h' : Continues r' r'') : Continues r r'' where
  graph := h.graph.trans h'.graph
  listens hr := h'.listens (h.listens hr)

/-! ## Reading changed files again -/

theorem loads_reloadFiles (hg : g.Settled) (s : Storage) (paths : List String) :
    ReflTransGen Loads g (reloadFiles s g paths).value.1 := by
  rw [reloadFiles_eq]
  generalize ([] : List FileId) = seeds
  induction paths generalizing g seeds with
  | nil => exact .refl
  | cons path paths ih =>
    rw [List.foldlM_cons, Traced.value_bind]
    unfold reloadPath
    cases hid : g.find? path with
    | none => exact ih hg seeds
    | some a =>
      have hlt := hg.lt_size_of_lookup? hid
      exact (ih (settled_reload s hg hlt).1 _).head (.reload s a hlt)

theorem continues_reread (hg : r.graph.Settled) (s : Storage) : Continues r (r.reread s) where
  graph := loads_reloadFiles hg s r.changes.drain.1
  listens h := by
    show r.changes.drain.2 ≠ .closed
    cases hc : r.changes with
    | «open» paths => exact nofun
    | closed => exact absurd hc h

/-! ## Requests -/

theorem continues_source (s : Storage) (r : Depot) (path : String) :
    Continues r { r with graph := (r.graph.intern s path).value.2 } where
  graph := .single (.intern s path)
  listens h := h

theorem changes_compile (r : Depot) (id : ProgramId) (j : Journal) :
    ((r.compile id).play j).1.changes = r.changes :=
  (congrArg Depot.changes (beside_compile r id j) :)

theorem still_compile (r : Depot) (id : ProgramId) (j : Journal) :
    Still r ((r.compile id).play j).1 :=
  ⟨(sameBooks_compile r id j).graph, changes_compile r id j⟩

theorem still_recompile (r : Depot) (id : ProgramId) (j : Journal) :
    Still r ((r.recompile id).play j).1 := by
  unfold recompile
  rw [play_bind, play_pure, spoilDependents, foldl_spoilPipeline_eq]
  exact ⟨(sameBooks_compile r id j).graph, changes_compile r id j⟩

theorem continues_program (s : Storage) (r : Depot) (path : String) (stage : Stage)
    (defines : List Define) (j : Journal) :
    Continues r ((r.program s path stage defines).play j).1.2 := by
  cases hk : r.findKey? (keyOf path stage defines) with
  | some id =>
    simp only [Depot.program, hk, play_pure]
    exact .refl r
  | none =>
    rw [play_program_of_none hk]
    have hsource := continues_source s r (keyOf path stage defines).path
    have hadded : ∀ (r : Depot) key entry, Still r (r.addProgram key entry) := fun _ _ _ => ⟨rfl, rfl⟩
    exact hsource.trans ((hadded _ _ _).continues.trans (still_compile _ _ j).continues)

theorem still_withProgram {α : Type} (r : Depot) (id : ProgramId)
    (f : Program → DeviceM (α × Program)) (j : Journal) :
    Still r ((r.withProgram id f).play j).1.2 := by
  cases hp : r.program? id with
  | none =>
    simp only [Depot.withProgram, hp, play_pure]
    exact .refl r
  | some p =>
    simp only [Depot.withProgram, hp, play_bind, play_pure]
    exact ⟨rfl, rfl⟩

theorem still_pipeline (r : Depot) (slots : StageSlots) :
    Still r (r.pipeline slots).value.2 := by
  unfold Depot.pipeline
  split
  · exact .refl r
  · split
    · exact .refl r
    · obtain ⟨dependents, heq⟩ := addPipeline_eq r slots
      show Still r (r.addPipeline slots)
      rw [heq]
      exact ⟨rfl, rfl⟩

theorem still_rebind (r : Depot) (id : PipelineId) (p : Pipeline) (j : Journal) :
    Still r ((r.rebind id p).play j).1.2 := by
  unfold Depot.rebind
  rw [play_bind]
  generalize (p.rebuild r.programs).play j = built
  obtain ⟨⟨built, p'⟩, j'⟩ := built
  cases built <;> simp only [play_bind, play_pure] <;> exact ⟨rfl, rfl⟩

theorem still_bind (r : Depot) (id : PipelineId) (j : Journal) :
    Still r ((r.bind id).play j).1.2 := by
  unfold Depot.bind
  cases r.pipeline? id with
  | none =>
    simp only [play_pure]
    exact .refl r
  | some p =>
    simp only
    split
    · exact still_rebind r id p j
    · split
      · simp only [play_pure]
        exact .refl r
      · cases p.handle? with
        | none => exact still_rebind r id p j
        | some h =>
          simp only [play_bind, play_pure]
          exact ⟨rfl, rfl⟩

theorem notify_eq (r : Depot) (path : String) :
    (r.notify path).2 = { r with changes := (r.changes.notify path).2 } := by
  unfold Depot.notify
  generalize r.changes.notify path = notified
  rfl

theorem continues_notify (r : Depot) (path : String) : Continues r (r.notify path).2 := by
  rw [notify_eq]
  refine ⟨.refl, fun h => ?_⟩
  have hlistens := ChangeQueue.notify_ne_closed h path
  generalize r.changes.notify path = notified at hlistens ⊢
  exact hlistens

theorem still_watch (r : Depot) (disk : Disk) (root : String) :
    Still r (r.watch disk root).value.2 := by
  unfold Depot.watch
  split
  · exact .refl r
  · exact ⟨rfl, rfl⟩

theorem continues_update (hg : r.graph.Settled) (s : Storage) (j : Journal) :
    Continues r ((r.update s).play j).1.2 := by
  rw [play_update]
  exact play_foldlM (motive := fun _ (r' : Depot) _ => Continues r r') Depot.recompile (r.affected s)
    (continues_reread hg s) fun id _ r' j' h => h.trans (still_recompile r' id j').continues

theorem still_run {request : Request} (h : request.isAside = true) (s : Storage) (r : Depot)
    (j : Journal) : Still r ((request.run s r).play j).1 := by
  cases request with
  | source path | program path stage defines | notify path | update => cases h
  | resolve id | dispatchGroups groups | dispatchThreads threads =>
    rw [Request.run, play_map]
    exact .refl r
  | location id name | setUniform id name value | bindUniformBlock id block binding
  | bindStorageBlock id block binding =>
    rw [Request.run, play_map]
    exact still_withProgram r id _ j
  | pipeline slots =>
    rw [Request.run, play_map, play_ofTraced (calls_pipeline r slots)]
    exact still_pipeline r slots
  | bind id =>
    rw [Request.run, play_map]
    exact still_bind r id j
  | watch disk root =>
    rw [Request.run, play_map, play_ofTraced (calls_watch r disk root)]
    exact still_watch r disk root
  | invalidate | unwatch =>
    rw [Request.run, play_pure]
    exact ⟨rfl, rfl⟩

theorem continues_run (hg : r.graph.Settled) (s : Storage) (request : Request) (j : Journal) :
    Continues r ((request.run s r).play j).1 := by
  cases request with
  | source path =>
    rw [Request.run, play_map, play_source]
    exact continues_source s r path
  | program path stage defines =>
    rw [Request.run, play_map]
    exact continues_program s r path stage defines j
  | notify path =>
    simp only [Request.run, play_pure]
    exact continues_notify r path
  | update =>
    rw [Request.run, play_map]
    exact continues_update hg s j
  | resolve | location | setUniform | bindUniformBlock | bindStorageBlock | pipeline | bind | invalidate
  | dispatchGroups | dispatchThreads | watch | unwatch => exact (still_run rfl s r j).continues

end Depot

/-! ## Sessions -/

namespace Session

open Relation

variable {σ : Session}

theorem Reachable.continues (h : Reachable σ) (action : Action) :
    σ.depot.Continues (σ.step action).depot := by
  cases action with
  | edit storage => exact .refl _
  | obstruct obstacles => exact .refl _
  | ask request => exact Depot.continues_run h.inOrder.indexed.graph σ.storage request σ.journal

theorem Reachable.listens (h : Reachable σ) : σ.depot.changes ≠ .closed := by
  induction h with
  | start settings storage style => exact nofun
  | step action h ih => exact (h.continues action).listens ih

/-- In every reachable state the graph of the depot was built by calls. -/
theorem Reachable.built (h : Reachable σ) :
    IncludeGraph.Built σ.depot.settings.defaultVersion σ.depot.graph := by
  have hbuilt : ∃ version, IncludeGraph.Built version σ.depot.graph := by
    induction h with
    | start settings storage style => exact ⟨_, .empty⟩
    | step action h ih =>
      obtain ⟨version, hbuilt⟩ := ih
      exact ⟨version, hbuilt.loads (h.continues action).graph⟩
  obtain ⟨version, hbuilt⟩ := hbuilt
  rw [← h.inOrder.indexed.version, hbuilt.settled.2]
  exact hbuilt

end Session

end ShaderDepot
