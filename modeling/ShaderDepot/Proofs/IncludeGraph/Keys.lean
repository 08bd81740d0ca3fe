import ShaderDepot.Proofs.IncludeGraph.Built
import ShaderDepot.Proofs.Path

/-!
# The keys of a graph

Every key of a graph that was built by calls is the normal form of some path.  A file is found by its own
key exactly when the key has no blank ends (`Built.find?_path`), since looking for it normalizes it once
more.
-/

namespace ShaderDepot.IncludeGraph

variable {s : Storage} {g g' : IncludeGraph} {defaultVersion : String}

/-- Every file of the graph is known by the normal form of some path. -/
def Normalized (g : IncludeGraph) : Prop :=
  ∀ key id, g.lookup? key = some id → ∃ path, Path.normalize path = key

theorem Normalized.congr (h : g.Normalized) (hl : ∀ key, g'.lookup? key = g.lookup? key) :
    g'.Normalized := by
  intro key id hk
  rw [hl] at hk
  exact h key id hk

theorem Normalized.push (h : g.Normalized) {key : String} (hkey : ∃ path, Path.normalize path = key) :
    (g.push key).Normalized := by
  intro key' id hk
  rw [lookup?_push] at hk
  split at hk
  · next e => rwa [← e]
  · exact h key' id hk

/-! ## Calls -/

theorem exists_normalize_of_mem_includeKeys {key : String} (h : key ∈ s.includeKeys) :
    ∃ path, Path.normalize path = key := by
  obtain ⟨text, -, h⟩ := List.mem_flatMap.mp h
  obtain ⟨path, -, h⟩ := List.mem_map.mp h
  exact ⟨path, h⟩

/-- The keys that an agenda has to follow are normal forms of paths. -/
def Named (tasks : List Task) : Prop :=
  ∀ includer key, .follow includer key ∈ tasks → ∃ path, Path.normalize path = key

theorem named_nil : Named [] := fun _ _ h => nomatch h

theorem Named.tail {t : Task} {ts : List Task} (h : Named (t :: ts)) : Named ts :=
  fun i key hk => h i key (List.mem_cons_of_mem _ hk)

theorem Grounded.named {ts : List Task} (hs : Grounded s ts) : Named ts :=
  fun i key hk => exists_normalize_of_mem_includeKeys (hs i key hk)

theorem Named.readFile {ts : List Task} (h : Named ts) (s : Storage) (g : IncludeGraph) (id : FileId) :
    Named ((readFile s g id).value.2 ++ ts) := by
  intro i key hk
  rcases List.mem_append.mp hk with hk | hk
  · exact (grounded_readFile s g id).named i key hk
  · exact h i key hk

theorem Normalized.place {t : Task} {ts : List Task} (h : g.Normalized) (ht : Named (t :: ts)) :
    (g.place t).1.Normalized := by
  cases t with
  | finish id => exact h
  | follow includer key =>
    cases hk : g.lookup? key with
    | some id =>
      simp only [IncludeGraph.place, hk]
      exact h.congr fun _ => lookup?_addEdge ..
    | none =>
      simp only [IncludeGraph.place, hk]
      exact (h.push (ht includer key (List.mem_cons_self ..))).congr fun _ => lookup?_addEdge ..

theorem Normalized.perform (h : g.Normalized) {t : Task} {ts : List Task}
    (hs : Grounded s (t :: ts)) : (perform s g t).value.1.Normalized := by
  have hplace := h.place hs.named
  rw [value_perform]
  cases (g.place t).2 with
  | none => exact hplace
  | some id => exact hplace.congr fun _ => lookup?_readFile ..

theorem Normalized.settle {ts : List Task} (h : g.Normalized) (hs : Grounded s ts) :
    (settle s g ts hs).value.Normalized := by
  induction g, ts, hs using IncludeGraph.settle.induct s with
  | case1 g hs =>
    rw [IncludeGraph.settle]
    exact h
  | case2 g t rest hs _ ih =>
    rw [IncludeGraph.settle, Traced.value_after]
    exact ih (h.perform hs)

theorem Normalized.load (h : g.Normalized) (s : Storage) (id : FileId) :
    (load s g id).value.Normalized := by
  have hread : (readFile s g id).value.1.Normalized := h.congr fun _ => lookup?_readFile ..
  exact hread.settle (grounded_readFile s g id)

theorem Loads.normalized (hl : Loads g g') (h : g.Normalized) : g'.Normalized := by
  cases hl with
  | intern s path =>
    unfold IncludeGraph.intern
    cases g.find? path with
    | some id => exact h
    | none => exact (h.push ⟨path, rfl⟩).load s ⟨g.size⟩
  | reload s id hid =>
    have hdropped : (g.dropEdges id).Normalized := h.congr fun key => lookup?_dropEdges g id key
    exact hdropped.load s id

theorem Built.normalized (h : Built defaultVersion g) : g.Normalized := by
  induction h with
  | empty => exact fun _ _ h => nomatch h
  | load _ hl ih => exact hl.normalized ih

/-! ## Files found by their keys -/

theorem Settled.lookup?_eq_some_iff (hg : g.Settled) {id : FileId} {f : SourceFile}
    (hf : g.file? id = some f) {key : String} : g.lookup? key = some id ↔ f.path = key := by
  rw [hg.index]
  constructor
  · rintro ⟨f', hf', rfl⟩
    rw [body?_of_file? hf] at hf'
    obtain rfl := Option.some.inj hf'
    rfl
  · exact fun h => ⟨f.body, body?_of_file? hf, h⟩

theorem Built.exists_normalize_eq_path (h : Built defaultVersion g) {id : FileId} {f : SourceFile}
    (hf : g.file? id = some f) : ∃ path, Path.normalize path = f.path :=
  h.normalized f.path id ((h.settled.1.lookup?_eq_some_iff hf).mpr rfl)

theorem Built.find?_path (h : Built defaultVersion g) {id : FileId} {f : SourceFile}
    (hf : g.file? id = some f) : g.find? f.path = some id ↔ Path.Trimmed f.path := by
  obtain ⟨path, hpath⟩ := h.exists_normalize_eq_path hf
  rw [find?, h.settled.1.lookup?_eq_some_iff hf, ← hpath, eq_comm]
  exact Path.normalize_normalize_iff path

end ShaderDepot.IncludeGraph
