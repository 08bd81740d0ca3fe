import ShaderDepot.Proofs.Depot.Requests
import ShaderDepot.Proofs.IncludeGraph.UpToDate

/-!
# Depots that are up to date

After an update the graph of a depot is up to date with the storage, if the queue named every file that
was not.  So is the graph of a new depot after its first request, and on a device that refuses nothing
the program of this request is refused nothing.
-/

namespace ShaderDepot

namespace Depot

open Device Journal DeviceM

variable {s : Storage} {r : Depot} {j : Journal} {id : ProgramId}

/-! ## What a compile leaves alone -/

/-- A compile changes neither the graph, the settings nor the keys. -/
structure SameBooks (r r' : Depot) : Prop where
  graph : r'.graph = r.graph
  settings : r'.settings = r.settings
  keyIndex : r'.keyIndex = r.keyIndex

theorem sameBooks_compile (r : Depot) (id : ProgramId) (j : Journal) :
    SameBooks r ((r.compile id).play j).1 := by
  have hbeside := beside_compile r id j
  exact ⟨(congrArg Depot.graph hbeside :), (congrArg Depot.settings hbeside :),
    (congrArg Depot.keyIndex hbeside :)⟩

theorem graph_recompile (r : Depot) (id : ProgramId) (j : Journal) :
    ((r.recompile id).play j).1.graph = r.graph := by
  unfold recompile
  rw [play_bind, play_pure, spoilDependents, foldl_spoilPipeline_eq]
  exact (sameBooks_compile r id j).graph

/-- The graph that an update leaves is the one that it compiles for. -/
theorem graph_update (s : Storage) (r : Depot) (j : Journal) :
    ((r.update s).play j).1.2.graph = (r.reread s).graph := by
  rw [play_update]
  exact play_foldlM (motive := fun _ (r' : Depot) _ => r'.graph = (r.reread s).graph) Depot.recompile
    (r.affected s) rfl fun id _ r' j' h => (graph_recompile r' id j').trans h

/-! ## Updates -/

/-- The queue holds a path of every file that the storage would give otherwise now. -/
def Noticed (s : Storage) (r : Depot) : Prop :=
  ∀ id f, r.graph.file? id = some f →
    f.lastRead.map Except.toOption ≠ some (s.read f.path).toOption →
    ∃ path ∈ r.changes.pending, r.graph.find? path = some id

theorem noticed_iff : r.Noticed s ↔ ∀ id ∈ r.graph.ids, ((r.graph.file? id).all fun f =>
    decide (f.lastRead.map Except.toOption = some (s.read f.path).toOption) ||
      r.changes.pending.any (r.graph.find? · = some id)) = true := by
  constructor
  · intro h id _
    rw [Option.all_eq_true]
    intro f hf
    rw [Bool.or_eq_true, decide_eq_true_iff, List.any_eq_true, or_iff_not_imp_left]
    intro hne
    obtain ⟨path, hp, hfind⟩ := h id f hf hne
    exact ⟨path, hp, decide_eq_true hfind⟩
  · intro h id f hf hne
    have hid : id ∈ r.graph.ids := by
      rw [IncludeGraph.mem_ids]
      exact (Array.getElem?_eq_some_iff.mp hf).1
    have hall := Option.all_eq_true _ _ |>.mp (h id hid) f hf
    rw [Bool.or_eq_true, decide_eq_true_iff, List.any_eq_true] at hall
    obtain ⟨path, hp, hfind⟩ := hall.resolve_left hne
    exact ⟨path, hp, of_decide_eq_true hfind⟩

instance (s : Storage) (r : Depot) : Decidable (r.Noticed s) := decidable_of_iff _ noticed_iff.symm

theorem upToDate_update (h : r.InOrder j [] []) (hn : r.Noticed s) :
    ((r.update s).play j).1.2.graph.UpToDate s := by
  obtain ⟨hr, hpaths⟩ := reloaded_reloadFiles s h.indexed.graph r.changes.drain.1
  rw [graph_update]
  apply IncludeGraph.upToDate_of_reread hr.grows hr.fresh fun _ => .inr
  intro a f hf hne
  obtain ⟨file, hfile, rfl⟩ := Option.map_eq_some_iff.mp hf
  obtain ⟨path, hp, hfind⟩ := hn a file hfile hne
  exact .inl (hpaths path (ChangeQueue.mem_drain.mpr hp) a hfind)

/-! ## First requests -/

theorem findProgram?_program (s : Storage) (r : Depot) (path : String) (stage : Stage)
    (defines : List Define) (j : Journal) :
    ((r.program s path stage defines).play j).1.2.findProgram? path stage defines =
      some ((r.program s path stage defines).play j).1.1 := by
  rw [findProgram?]
  cases hk : r.findKey? (keyOf path stage defines) with
  | some id =>
    simp only [Depot.program, hk, play_pure]
  | none =>
    rw [play_program_of_none hk, findKey?]
    simp only
    rw [(sameBooks_compile _ _ j).keyIndex]
    exact (findKey?_addProgram _ _ _ _).trans (if_pos rfl)

theorem InOrder.refusedPrograms_compile {pending : List ProgramId}
    (h : r.InOrder j (id :: pending) []) (hg : j.device.programRefusal? = none) :
    ((r.compile id).play j).2.device.refusedPrograms = j.device.refusedPrograms := by
  cases hp : r.program? id with
  | none => rw [play_compile_of_none hp]
  | some p =>
    obtain ⟨compilations, failures, hplay⟩ := play_compile hp j
    rw [hplay]
    exact (Program.recompiled_compile h.sound (h.owns.settled id p hp) (r.resolveProgram p).value
      r.settings.listOnError).granted hg

/-- What a request for a program that is not there leaves. -/
structure Asked (s : Storage) (r r' : Depot) (j j' : Journal) : Prop where
  settings : r'.settings = r.settings
  upToDate : r.graph.size = 0 → r'.graph.UpToDate s
  granted : j.device.programRefusal? = none → j'.device.refusedPrograms = j.device.refusedPrograms

theorem InOrder.asked (h : r.InOrder j [] []) (s : Storage) {path : String} {stage : Stage}
    {defines : List Define} (hk : r.findKey? (keyOf path stage defines) = none) :
    Asked s r ((r.program s path stage defines).play j).1.2 j
      ((r.program s path stage defines).play j).2 := by
  rw [play_program_of_none hk]
  obtain ⟨-, -, -, hfind⟩ :=
    IncludeGraph.settled_intern s h.indexed.graph (keyOf path stage defines).path
  have hadded := (h.source s (keyOf path stage defines).path).addProgram hk hfind ⟨path, rfl⟩
  have hbooks := sameBooks_compile (Depot.addProgram
    { r with graph := (r.graph.intern s (keyOf path stage defines).path).value.2 }
    (keyOf path stage defines) (r.graph.intern s (keyOf path stage defines).path).value.1)
    ⟨r.programs.size⟩ j
  refine ⟨hbooks.settings, fun hsize => ?_, hadded.refusedPrograms_compile⟩
  rw [hbooks.graph]
  exact IncludeGraph.upToDate_intern s h.indexed.graph hsize _

end Depot

end ShaderDepot
