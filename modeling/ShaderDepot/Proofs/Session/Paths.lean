import ShaderDepot.Proofs.Depot.Growth

/-!
# Files known by their own paths

A path may be normalized several times on its way from a request to the graph.  Whether this does any
harm depends on the ends of the normal form alone: a file whose path has no blank ends is found by its
path, told of by its path, and the path of the programs that start from it; any other file is not
(`identity_iff_trimmed`).  There are such files, since normalizing may leave a blank at an end
(`spaced_not_found`).
-/

namespace ShaderDepot

/-! ## Files read again -/

namespace Depot

open IncludeGraph

variable {s : Storage} {r : Depot} {id : FileId} {f : SourceFile}

/-- The next update will read the file again. -/
def Rereads (s : Storage) (r : Depot) (id : FileId) : Prop :=
  id ∈ (reloadFiles s r.graph r.changes.drain.1).value.2

instance (s : Storage) (r : Depot) (id : FileId) : Decidable (r.Rereads s id) :=
  inferInstanceAs (Decidable (_ ∈ _))

/-- A file is read again when a path was told whose normal form is the file's path. -/
theorem rereads_iff (hg : r.graph.Settled) (hf : r.graph.file? id = some f) :
    r.Rereads s id ↔ ∃ path ∈ r.changes.pending, f.path = Path.normalize path := by
  have hlt : id.index < r.graph.size := isSome_file?.mp (by rw [hf]; rfl)
  rw [Rereads, mem_reloadFiles_iff hg s _ hlt]
  simp only [ChangeQueue.mem_drain, find?, hg.lookup?_eq_some_iff hf]

theorem mem_pending_notify {path path' : String} (h : r.changes ≠ .closed) :
    path' ∈ (r.notify path).2.changes.pending ↔
      path' ∈ r.changes.pending ∨ path' = Path.normalize path ∧ path' ≠ "" := by
  have hmem : path' ∈ (r.changes.notify path).2.pending ↔ _ := ChangeQueue.mem_pending_notify h
  rw [notify_eq]
  generalize r.changes.notify path = notified at hmem ⊢
  exact hmem

/-- To tell of a file by its own path is of use if the path has no blank ends and is not empty. -/
theorem rereads_notify_path {defaultVersion : String} (hg : Built defaultVersion r.graph)
    (hl : r.changes ≠ .closed) (hf : r.graph.file? id = some f) :
    (r.notify f.path).2.Rereads s id ↔ r.Rereads s id ∨ Path.Trimmed f.path ∧ f.path ≠ "" := by
  have hf' : (r.notify f.path).2.graph.file? id = some f := by
    rw [notify_eq]
    exact hf
  have hsettled : (r.notify f.path).2.graph.Settled := by
    rw [notify_eq]
    exact hg.settled.1
  have hnormal := hg.exists_normalize_eq_path hf
  rw [rereads_iff hsettled hf', rereads_iff hg.settled.1 hf]
  constructor
  · rintro ⟨path, hp, he⟩
    rcases (mem_pending_notify hl).mp hp with hp | ⟨rfl, hne⟩
    · exact .inl ⟨path, hp, he⟩
    · -- The path came back when it was normalized twice.
      have ht : Path.Trimmed f.path := Path.trimmed_of_normalize_normalize he.symm
      rw [Path.normalize_eq_self hnormal ht] at hne
      exact .inr ⟨ht, hne⟩
  · rintro (⟨path, hp, he⟩ | ⟨ht, hne⟩)
    · exact ⟨path, (mem_pending_notify hl).mpr (.inl hp), he⟩
    · have hself := Path.normalize_eq_self hnormal ht
      exact ⟨f.path, (mem_pending_notify hl).mpr (.inr ⟨hself.symm, hne⟩), hself.symm⟩

/-- What an update reads again says what the storage gives. -/
theorem file?_update_of_rereads (hg : r.graph.Settled) (hf : r.graph.file? id = some f)
    (h : r.Rereads s id) (j : Journal) :
    ∃ f', ((r.update s).play j).1.2.graph.file? id = some f' ∧ f'.path = f.path ∧
      f'.lastRead = some (s.read f.path) := by
  obtain ⟨hr, -⟩ := reloaded_reloadFiles s hg r.changes.drain.1
  obtain ⟨f', hf', hpath⟩ := hr.grows.file? hf
  refine ⟨f', ?_, hpath, ?_⟩
  · rw [graph_update]
    exact hf'
  · rw [← hpath]
    exact hr.fresh id f'.body (body?_of_file? hf') (.inl h)

/-- A program starts from the file whose path is the normal form of the path in its key. -/
theorem Indexed.pathOf_entry (h : r.Indexed) {id : ProgramId} {p : Program}
    (hp : r.program? id = some p) : r.graph.pathOf p.entry = Path.normalize p.key.path := by
  have hentry := h.entry id p hp
  obtain ⟨body, hbody, hpath⟩ := (h.graph.index _ _).mp hentry
  obtain ⟨f, hf, rfl⟩ := Option.map_eq_some_iff.mp hbody
  rw [pathOf, hf]
  exact hpath

end Depot

/-! ## Sessions -/

namespace Session

open Depot IncludeGraph

variable {σ : Session} {g : IncludeGraph} {defaultVersion : String}

/-- A file is found by its own path, is read again when it is told of by its own path, and has the path
of the programs that start from it, exactly when the path has no blank ends; and an empty path is not
told of. -/
theorem identity_iff_trimmed (hg : Built defaultVersion g) (hσ : Reachable σ) :
    (∀ path, Path.normalize (Path.normalize path) = Path.normalize path ↔
      Path.Trimmed (Path.normalize path)) ∧
    (∀ id f, g.file? id = some f → (g.find? f.path = some id ↔ Path.Trimmed f.path)) ∧
    (∀ id f, σ.depot.graph.file? id = some f →
      ((σ.depot.notify f.path).2.Rereads σ.storage id ↔
        σ.depot.Rereads σ.storage id ∨ Path.Trimmed f.path ∧ f.path ≠ "") ∧
      (σ.depot.Rereads σ.storage id →
        ∃ f', (σ.step (.ask .update)).depot.graph.file? id = some f' ∧ f'.path = f.path ∧
          f'.lastRead = some (σ.storage.read f.path))) ∧
    ∀ id p, σ.depot.program? id = some p →
      (σ.depot.graph.pathOf p.entry = p.key.path ↔ Path.Trimmed p.key.path) := by
  have hindexed := hσ.inOrder.indexed
  refine ⟨Path.normalize_normalize_iff, fun id f => hg.find?_path, fun id f hf => ⟨?_, ?_⟩, ?_⟩
  · exact rereads_notify_path hσ.built hσ.listens hf
  · intro h
    rw [depot_step_ask, Request.run, DeviceM.play_map]
    exact file?_update_of_rereads hindexed.graph hf h σ.journal
  · intro id p hp
    obtain ⟨path, hpath⟩ := hindexed.asked id p hp
    rw [hindexed.pathOf_entry hp, ← hpath]
    exact Path.normalize_normalize_iff path

/-! ## A blank at an end -/

/-- Two files of which one has a name that starts with a blank. -/
def spacedFiles : Storage :=
  .memory { texts := ⟨[(" a", "#version 450\n"), ("a", "#version 460\n")]⟩ }

def spacedGraph : IncludeGraph :=
  (({ defaultVersion := "450" } : IncludeGraph).intern spacedFiles "./ a").value.2

theorem built_spacedGraph : Built "450" spacedGraph := Built.empty.load (.intern spacedFiles "./ a")

/-- One file is asked for as a file and then as a program. -/
def spacedSample : Session :=
  (start {} spacedFiles .labeled).run [.ask (.source "./ a"), .ask (.program "./ a" .compute [])]

theorem exists_of_any {α : Type} {x : Option α} {path : α → String} {key : String}
    (h : x.any (fun a => path a = key) = true) : ∃ a, x = some a ∧ path a = key := by
  obtain ⟨a, ha, he⟩ := (Option.any_eq_true _ _).mp h
  exact ⟨a, ha, of_decide_eq_true he⟩

theorem identity_iff_trimmed_spacedSample :
    spacedSample.depot.graph.ids.map spacedSample.depot.graph.pathOf = [" a", "a"] ∧
      spacedGraph.find? " a" ≠ some ⟨0⟩ ∧
      ¬(spacedSample.depot.notify " a").2.Rereads spacedSample.storage ⟨0⟩ ∧
      (spacedSample.depot.notify "a").2.Rereads spacedSample.storage ⟨1⟩ ∧
      ∃ p, spacedSample.depot.program? ⟨0⟩ = some p ∧ p.key.path = " a" ∧
        spacedSample.depot.graph.pathOf p.entry ≠ p.key.path := by
  have hclosed : spacedSample.depot.graph.ids.map spacedSample.depot.graph.pathOf = [" a", "a"] ∧
      (spacedGraph.file? ⟨0⟩).any (·.path = " a") = true ∧
      (spacedSample.depot.graph.file? ⟨0⟩).any (·.path = " a") = true ∧
      (spacedSample.depot.graph.file? ⟨1⟩).any (·.path = "a") = true ∧
      ¬spacedSample.depot.Rereads spacedSample.storage ⟨0⟩ ∧
      (spacedSample.depot.program? ⟨0⟩).any (·.key.path = " a") = true ∧
      ¬Path.Trimmed " a" ∧ Path.Trimmed "a" := by
    decide +kernel
  obtain ⟨hpaths, hfile, hspaced, hplain, hquiet, hprogram, hblank, htrimmed⟩ := hclosed
  have hreachable : Reachable spacedSample := .run (.start ..) _
  obtain ⟨-, hfind, hnotify, hentry⟩ := identity_iff_trimmed built_spacedGraph hreachable
  obtain ⟨f, hf, hpath⟩ := exists_of_any hfile
  obtain ⟨f₀, hf₀, hpath₀⟩ := exists_of_any hspaced
  obtain ⟨f₁, hf₁, hpath₁⟩ := exists_of_any hplain
  obtain ⟨p, hp, hkey⟩ := exists_of_any hprogram
  refine ⟨hpaths, ?_, ?_, ?_, p, hp, hkey, ?_⟩
  · have h := hfind ⟨0⟩ f hf
    rw [hpath] at h
    exact fun e => hblank (h.mp e)
  · have h := (hnotify ⟨0⟩ f₀ hf₀).1
    rw [hpath₀] at h
    exact fun e => (h.mp e).elim hquiet fun ht => hblank ht.1
  · have h := (hnotify ⟨1⟩ f₁ hf₁).1
    rw [hpath₁] at h
    exact h.mpr (.inr ⟨htrimmed, by decide⟩)
  · have h := hentry ⟨0⟩ p hp
    rw [hkey] at h ⊢
    exact fun e => hblank (h.mp e)

/-- A file is not found by its own path, for the path is another when it is normalized once more. -/
theorem spaced_not_found :
    Built "450" spacedGraph ∧ (spacedGraph.file? ⟨0⟩).map (·.path) = some " a" ∧
      spacedGraph.find? " a" ≠ some ⟨0⟩ ∧
      Path.normalize (Path.normalize "./ a") ≠ Path.normalize "./ a" :=
  ⟨built_spacedGraph, by decide +kernel, by decide +kernel, by decide +kernel⟩

end Session

end ShaderDepot
