import Mathlib.Tactic.Common
import ShaderDepot.IncludeGraph.Load

/-!
# What can be seen of an include graph

A graph is seen through five views: how many files it has, which file has a key, what was read of a
file (`body?`), what it depends on and what includes it.  Each operation changes few of them, and is
known by what it does to each.
-/

namespace ShaderDepot

theorem FileId.index_inj {a b : FileId} : a.index = b.index ↔ a = b :=
  ⟨fun h => by cases a; cases b; exact congrArg _ h, congrArg _⟩

namespace SourceFile

/-- A file without its edges. -/
def body (f : SourceFile) : SourceFile := { f with dependencies := [], includers := [] }

theorem mem_insertAscending {a x : FileId} {l : List FileId} :
    x ∈ insertAscending a l ↔ x = a ∨ x ∈ l := by
  induction l with
  | nil => simp only [insertAscending, List.mem_singleton, List.not_mem_nil, or_false]
  | cons b l ih =>
    rw [insertAscending]
    split
    · simp only [List.mem_cons]
    · split
      · next h =>
        rw [h]
        simp only [List.mem_cons]
        tauto
      · rw [List.mem_cons, ih, List.mem_cons]
        tauto

end SourceFile

namespace IncludeGraph

/-- What was read of a file. -/
def body? (g : IncludeGraph) (id : FileId) : Option SourceFile := (g.file? id).map (·.body)

theorem isSome_file? {g : IncludeGraph} {id : FileId} : (g.file? id).isSome ↔ id.index < g.size := by
  rw [file?, isSome_getElem?]
  rfl

theorem isSome_body? {g : IncludeGraph} {id : FileId} : (g.body? id).isSome ↔ id.index < g.size := by
  rw [body?, Option.isSome_map]
  exact isSome_file?

theorem lt_size_of_body? {g : IncludeGraph} {id : FileId} {f : SourceFile} (h : g.body? id = some f) :
    id.index < g.size := isSome_body?.mp (by rw [h]; rfl)

theorem exists_body? {g : IncludeGraph} {id : FileId} (h : id.index < g.size) :
    ∃ f, g.body? id = some f := Option.isSome_iff_exists.mp (isSome_body?.mpr h)

theorem pathOf_eq (g : IncludeGraph) (id : FileId) :
    g.pathOf id = ((g.body? id).map (·.path)).getD "" := by
  rw [pathOf, body?, Option.map_map]
  rfl

theorem textOf_eq (g : IncludeGraph) (id : FileId) :
    g.textOf id = ((g.body? id).map (·.text)).getD "" := by
  rw [textOf, body?, Option.map_map]
  rfl

theorem versionOf_eq (g : IncludeGraph) (id : FileId) :
    g.versionOf id = ((g.body? id).map (·.version)).getD g.defaultVersion := by
  rw [versionOf, body?, Option.map_map]
  rfl

theorem dependencies_of_size_le {g : IncludeGraph} {id : FileId} (h : g.size ≤ id.index) :
    g.dependencies id = [] := by
  have hn : g.file? id = none := by
    rw [← Option.not_isSome_iff_eq_none, isSome_file?]
    omega
  rw [dependencies, hn]
  rfl

theorem includers_of_size_le {g : IncludeGraph} {id : FileId} (h : g.size ≤ id.index) :
    g.includers id = [] := by
  have hn : g.file? id = none := by
    rw [← Option.not_isSome_iff_eq_none, isSome_file?]
    omega
  rw [includers, hn]
  rfl

theorem lt_size_of_mem_dependencies {g : IncludeGraph} {a b : FileId} (h : b ∈ g.dependencies a) :
    a.index < g.size := by
  by_contra hn
  rw [dependencies_of_size_le (Nat.le_of_not_lt hn)] at h
  cases h

/-! ## A change of one file -/

theorem file?_update (g : IncludeGraph) (id a : FileId) (f : SourceFile → SourceFile) :
    (g.update id f).file? a = if id = a then (g.file? a).map f else g.file? a := by
  rw [file?, update, Array.getElem?_modify]
  by_cases h : id = a
  · rw [if_pos h, if_pos (FileId.index_inj.mpr h)]
    rfl
  · rw [if_neg h, if_neg fun e => h (FileId.index_inj.mp e)]
    rfl

@[simp] theorem size_update (g : IncludeGraph) (id : FileId) (f : SourceFile → SourceFile) :
    (g.update id f).size = g.size := Array.size_modify ..

theorem body?_update (g : IncludeGraph) (id a : FileId) {f : SourceFile → SourceFile}
    (hf : ∀ s, (f s).body = s.body) : (g.update id f).body? a = g.body? a := by
  rw [body?, body?, file?_update]
  split
  · rw [Option.map_map]
    exact congrArg (Option.map · (g.file? a)) (funext hf)
  · rfl

theorem dependencies_update (g : IncludeGraph) (id a : FileId) {f : SourceFile → SourceFile}
    (hf : ∀ s, (f s).dependencies = s.dependencies) :
    (g.update id f).dependencies a = g.dependencies a := by
  rw [dependencies, dependencies, file?_update]
  split
  · rw [Option.map_map]
    exact congrArg (fun m => (Option.map m (g.file? a)).getD []) (funext hf)
  · rfl

theorem includers_update (g : IncludeGraph) (id a : FileId) {f : SourceFile → SourceFile}
    (hf : ∀ s, (f s).includers = s.includers) :
    (g.update id f).includers a = g.includers a := by
  rw [includers, includers, file?_update]
  split
  · rw [Option.map_map]
    exact congrArg (fun m => (Option.map m (g.file? a)).getD []) (funext hf)
  · rfl

/-! ## A new file -/

@[simp] theorem size_push (g : IncludeGraph) (key : String) : (g.push key).size = g.size + 1 :=
  Array.size_push ..

theorem file?_push (g : IncludeGraph) (key : String) (a : FileId) :
    (g.push key).file? a =
      if a = ⟨g.size⟩ then some (.unread key g.defaultVersion) else g.file? a := by
  rw [file?, push, Array.getElem?_push]
  exact if_congr (@FileId.index_inj a ⟨g.size⟩) rfl rfl

theorem body?_push (g : IncludeGraph) (key : String) (a : FileId) :
    (g.push key).body? a =
      if a = ⟨g.size⟩ then some (.unread key g.defaultVersion) else g.body? a := by
  rw [body?, body?, file?_push]
  split <;> rfl

@[simp] theorem dependencies_push (g : IncludeGraph) (key : String) (a : FileId) :
    (g.push key).dependencies a = g.dependencies a := by
  rw [dependencies, file?_push]
  split
  · next h => rw [h]; exact (dependencies_of_size_le (Nat.le_refl _)).symm
  · rfl

@[simp] theorem includers_push (g : IncludeGraph) (key : String) (a : FileId) :
    (g.push key).includers a = g.includers a := by
  rw [includers, file?_push]
  split
  · next h => rw [h]; exact (includers_of_size_le (Nat.le_refl _)).symm
  · rfl

/-! ## A new edge -/

@[simp] theorem size_addEdge (g : IncludeGraph) (a b : FileId) : (g.addEdge a b).size = g.size := by
  rw [addEdge, size_update, size_update]

@[simp] theorem body?_addEdge (g : IncludeGraph) (a b c : FileId) :
    (g.addEdge a b).body? c = g.body? c := by
  rw [addEdge, body?_update, body?_update] <;> exact fun _ => rfl

theorem dependencies_addEdge (g : IncludeGraph) {a : FileId} (b c : FileId) (ha : a.index < g.size) :
    (g.addEdge a b).dependencies c =
      if c = a then
        if b ∈ g.dependencies a then g.dependencies a else g.dependencies a ++ [b]
      else g.dependencies c := by
  have hc : (g.addEdge a b).dependencies c = (g.update a (·.addDependency b)).dependencies c :=
    dependencies_update _ b c fun _ => rfl
  rw [hc]
  by_cases h : c = a
  · obtain ⟨f, hf⟩ := Option.isSome_iff_exists.mp (isSome_file?.mpr ha)
    rw [h, if_pos rfl]
    simp only [dependencies, file?_update, hf, if_true, Option.map_some, Option.getD_some]
    rfl
  · rw [if_neg h]
    simp only [dependencies, file?_update, if_neg (Ne.symm h)]

theorem includers_addEdge (g : IncludeGraph) (a : FileId) {b : FileId} (c : FileId)
    (hb : b.index < g.size) :
    (g.addEdge a b).includers c =
      if c = b then SourceFile.insertAscending a (g.includers b) else g.includers c := by
  have hg : ∀ c, (g.update a (·.addDependency b)).includers c = g.includers c :=
    fun c => includers_update g a c fun _ => rfl
  by_cases h : c = b
  · have hb' : b.index < (g.update a (·.addDependency b)).size := by rwa [size_update]
    obtain ⟨f, hf⟩ := Option.isSome_iff_exists.mp (isSome_file?.mpr hb')
    rw [h, if_pos rfl, ← hg b]
    simp only [addEdge, includers, file?_update _ b b, hf, if_true, Option.map_some, Option.getD_some]
    rfl
  · rw [if_neg h, ← hg c]
    simp only [addEdge, includers, file?_update _ b c, if_neg (Ne.symm h)]

/-! ## The edges of a file taken back -/

/-- The graph in which some files do not list `id` as an includer. -/
def forget (g : IncludeGraph) (id : FileId) (l : List FileId) : IncludeGraph :=
  l.foldl (fun g d => g.update d (·.removeIncluder id)) g

theorem dropEdges_eq (g : IncludeGraph) (id : FileId) :
    g.dropEdges id = (g.update id (·.dropDependencies)).forget id (g.dependencies id) := rfl

@[simp] theorem size_forget (g : IncludeGraph) (id : FileId) (l : List FileId) :
    (g.forget id l).size = g.size := by
  induction l generalizing g with
  | nil => rfl
  | cons d l ih => exact (ih _).trans (size_update ..)

@[simp] theorem lookup?_forget (g : IncludeGraph) (id : FileId) (l : List FileId) (key : String) :
    (g.forget id l).lookup? key = g.lookup? key := by
  induction l generalizing g with
  | nil => rfl
  | cons d l ih => exact ih _

@[simp] theorem defaultVersion_forget (g : IncludeGraph) (id : FileId) (l : List FileId) :
    (g.forget id l).defaultVersion = g.defaultVersion := by
  induction l generalizing g with
  | nil => rfl
  | cons d l ih => exact ih _

@[simp] theorem body?_forget (g : IncludeGraph) (id : FileId) (l : List FileId) (a : FileId) :
    (g.forget id l).body? a = g.body? a := by
  induction l generalizing g with
  | nil => rfl
  | cons d l ih => exact (ih _).trans (body?_update _ _ _ fun _ => rfl)

@[simp] theorem dependencies_forget (g : IncludeGraph) (id : FileId) (l : List FileId) (a : FileId) :
    (g.forget id l).dependencies a = g.dependencies a := by
  induction l generalizing g with
  | nil => rfl
  | cons d l ih => exact (ih _).trans (dependencies_update _ _ _ fun _ => rfl)

theorem mem_includers_forget {g : IncludeGraph} {id : FileId} {l : List FileId} {a b : FileId} :
    a ∈ (g.forget id l).includers b ↔ a ∈ g.includers b ∧ (b ∈ l → a ≠ id) := by
  induction l generalizing g with
  | nil => simp only [forget, List.foldl_nil, List.not_mem_nil, false_implies, and_true]
  | cons d l ih =>
    -- One file is struck off one list.
    have hd : a ∈ (g.update d (·.removeIncluder id)).includers b ↔
        a ∈ g.includers b ∧ (b = d → a ≠ id) := by
      by_cases h : d = b
      · cases hf : g.file? b with
        | none =>
          simp only [includers, file?_update, h, if_true, hf, Option.map_none, Option.getD_none,
            List.not_mem_nil, false_and]
        | some f =>
          simp only [includers, file?_update, h, if_true, hf, Option.map_some, Option.getD_some,
            SourceFile.removeIncluder, List.mem_filter, decide_eq_true_eq, true_implies]
      · simp only [includers, file?_update, if_neg h, Ne.symm h, false_implies, and_true]
    show a ∈ ((g.update d (·.removeIncluder id)).forget id l).includers b ↔ _
    rw [ih, hd, List.mem_cons]
    tauto

@[simp] theorem size_dropEdges (g : IncludeGraph) (id : FileId) : (g.dropEdges id).size = g.size := by
  rw [dropEdges_eq, size_forget, size_update]

@[simp] theorem lookup?_dropEdges (g : IncludeGraph) (id : FileId) (key : String) :
    (g.dropEdges id).lookup? key = g.lookup? key := by
  rw [dropEdges_eq, lookup?_forget, lookup?_update]

@[simp] theorem defaultVersion_dropEdges (g : IncludeGraph) (id : FileId) :
    (g.dropEdges id).defaultVersion = g.defaultVersion := by
  rw [dropEdges_eq, defaultVersion_forget]
  rfl

@[simp] theorem body?_dropEdges (g : IncludeGraph) (id a : FileId) :
    (g.dropEdges id).body? a = g.body? a := by
  rw [dropEdges_eq, body?_forget]
  exact body?_update g id a fun _ => rfl

theorem dependencies_dropEdges (g : IncludeGraph) (id a : FileId) :
    (g.dropEdges id).dependencies a = if a = id then [] else g.dependencies a := by
  rw [dropEdges_eq, dependencies_forget]
  by_cases h : a = id
  · rw [if_pos h, h]
    cases hf : g.file? id <;>
      simp only [dependencies, file?_update, if_true, hf, Option.map_none, Option.map_some,
        Option.getD_none, Option.getD_some, SourceFile.dropDependencies]
  · rw [if_neg h]
    simp only [dependencies, file?_update, if_neg (Ne.symm h)]

theorem mem_includers_dropEdges {g : IncludeGraph} {id a b : FileId} :
    a ∈ (g.dropEdges id).includers b ↔ a ∈ g.includers b ∧ (b ∈ g.dependencies id → a ≠ id) := by
  have hb : (g.update id (·.dropDependencies)).includers b = g.includers b :=
    includers_update g id b fun _ => rfl
  rw [dropEdges_eq, mem_includers_forget, hb]

end IncludeGraph

end ShaderDepot
