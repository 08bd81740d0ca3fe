import Mathlib.Data.List.Nodup
import ShaderDepot.Proofs.IncludeGraph.UpToDate

/-!
# Graphs built by any calls

A graph is built from nothing by calls that ask for a file or read one again, each over files that may
be others than before.  After every such call the two ends of each include agree, the index and the
files agree, and a file that could not be read is empty (`consistent_of_built`).
-/

namespace ShaderDepot.IncludeGraph

/-- One call on a graph, over whatever the files then are. -/
inductive Loads (g : IncludeGraph) : IncludeGraph → Prop
  | intern (s : Storage) (path : String) : Loads g (g.intern s path).value.2
  | reload (s : Storage) (id : FileId) (hid : id.index < g.size) : Loads g (g.reload s id).value

/-- A graph that came about by some calls, from the one without files. -/
inductive Built (defaultVersion : String) : IncludeGraph → Prop
  | empty : Built defaultVersion { defaultVersion }
  | load {g g' : IncludeGraph} : Built defaultVersion g → Loads g g' → Built defaultVersion g'

variable {s : Storage} {g g' : IncludeGraph} {defaultVersion : String}

/-! ## One call and any calls -/

theorem Loads.settled (h : Loads g g') (hg : g.Settled) : g'.Settled := by
  cases h with
  | intern s path => exact (settled_intern s hg path).1
  | reload s id hid => exact (settled_reload s hg hid).1

theorem Loads.grows (h : Loads g g') (hg : g.Settled) : ∃ reread, Grows reread g g' := by
  cases h with
  | intern s path => exact ⟨_, (settled_intern s hg path).2.1⟩
  | reload s id hid => exact ⟨_, (settled_reload s hg hid).2.1⟩

theorem Built.settled (h : Built defaultVersion g) :
    g.Settled ∧ g.defaultVersion = defaultVersion := by
  induction h with
  | empty => exact ⟨settled_empty defaultVersion, rfl⟩
  | load _ hl ih =>
    obtain ⟨reread, hg⟩ := hl.grows ih.1
    exact ⟨hl.settled ih.1, hg.defaultVersion.trans ih.2⟩

/-- A file that has a place keeps it, and its path. -/
theorem Grows.file? {reread : FileId → Prop} (h : Grows reread g g') {id : FileId} {f : SourceFile}
    (hf : g.file? id = some f) : ∃ f', g'.file? id = some f' ∧ f'.path = f.path := by
  have hpath := h.path id (by rw [body?_of_file? hf]; rfl)
  rw [body?_of_file? hf, body?, Option.map_map] at hpath
  obtain ⟨f', hf', e⟩ := Option.map_eq_some_iff.mp hpath
  exact ⟨f', hf', e⟩

/-! ## What a settled graph says of its files -/

theorem nodup_eraseDups {α : Type} [BEq α] [LawfulBEq α] (l : List α) : l.eraseDups.Nodup := by
  match l with
  | [] => exact List.nodup_nil
  | a :: l =>
    rw [List.eraseDups_cons, List.nodup_cons]
    refine ⟨fun h => ?_, nodup_eraseDups (l.filter fun b => !b == a)⟩
    have hm := (List.mem_filter.mp (List.mem_eraseDups.mp h)).2
    rw [beq_self_eq_true] at hm
    cases hm
termination_by l.length
decreasing_by
  have := List.length_filter_le (fun b => !b == a) l
  simp only [List.length_cons]
  omega

theorem Settled.nodup_dependencies (hg : g.Settled) (id : FileId) : (g.dependencies id).Nodup := by
  cases hf : g.body? id with
  | none =>
    have hsize : g.size ≤ id.index := by
      by_contra h
      obtain ⟨f, hf'⟩ := exists_body? (Nat.lt_of_not_le h)
      rw [hf] at hf'
      cases hf'
    rw [dependencies_of_size_le hsize]
    exact List.nodup_nil
  | some f =>
    have hmap : ((g.dependencies id).map some).Nodup := by
      rw [hg.edges id f hf]
      exact nodup_eraseDups _
    exact List.Nodup.of_map some hmap

/-- A file that could not be read has nothing of its own. -/
theorem Settled.unreadable (hg : g.Settled) {id : FileId} {f : SourceFile} (hf : g.file? id = some f)
    (hu : f.unreadable = true) :
    f.text = "" ∧ f.version = g.defaultVersion ∧ f.dependencies = [] := by
  obtain ⟨given, hread, hgiven⟩ := hg.scanned id f.body (body?_of_file? hf)
  have hedges := hg.edges id f.body (body?_of_file? hf)
  rw [dependencies_of_file? hf, SourceFile.includeKeys, hread] at hedges
  have htext : f.text = f.body.text := rfl
  have hversion : f.version = f.body.version := rfl
  have hunreadable : f.unreadable = f.body.unreadable := rfl
  rw [hunreadable, hgiven] at hu
  rw [htext, hversion, hgiven]
  cases given with
  | error cause => exact ⟨rfl, rfl, List.map_eq_nil_iff.mp hedges⟩
  | ok text => cases hu

/-! ## Consistency -/

/-- The includes, the index and the files of a graph agree with each other. -/
structure Consistent (defaultVersion : String) (g : IncludeGraph) : Prop where
  /-- Each include is listed at both its ends. -/
  symmetric : ∀ a b, b ∈ g.dependencies a ↔ a ∈ g.includers b
  nodup : ∀ a, (g.dependencies a).Nodup
  /-- Both ends of an include are files of the graph. -/
  inRange : ∀ a b, b ∈ g.dependencies a ∨ b ∈ g.includers a → a.index < g.size ∧ b.index < g.size
  /-- No two files have one path. -/
  apart : ∀ a b f f', g.file? a = some f → g.file? b = some f' → f.path = f'.path → a = b
  /-- The index leads from each file's path to the file, and from nothing else to anything. -/
  index : ∀ key id, g.index.get? key = some id ↔ ∃ f, g.file? id = some f ∧ f.path = key
  unreadable : ∀ id f, g.file? id = some f → f.unreadable = true →
    f.text = "" ∧ f.version = defaultVersion ∧ f.dependencies = []

theorem Settled.consistent (hg : g.Settled) : g.Consistent g.defaultVersion where
  symmetric := hg.symmetric
  nodup := hg.nodup_dependencies
  inRange a b h := by
    rcases h with h | h
    · exact ⟨lt_size_of_mem_dependencies h, hg.closed a b h⟩
    · -- Whoever is listed as an includer lists the file in turn.
      have h' := (hg.symmetric b a).mpr h
      exact ⟨hg.closed b a h', lt_size_of_mem_dependencies h'⟩
  apart a b f f' hf hf' he :=
    hg.eq_of_path (body?_of_file? hf) (body?_of_file? hf') he
  index key id := by
    show g.lookup? key = some id ↔ _
    rw [hg.index, body?]
    constructor
    · rintro ⟨f, hf, hp⟩
      obtain ⟨f', hf', rfl⟩ := Option.map_eq_some_iff.mp hf
      exact ⟨f', hf', hp⟩
    · rintro ⟨f, hf, hp⟩
      exact ⟨f.body, by rw [hf]; rfl, hp⟩
  unreadable _ _ hf hu := hg.unreadable hf hu

/-- Between any two calls a graph is consistent, and a call takes no file its place or its path. -/
theorem consistent_of_built (h : Built defaultVersion g) :
    g.Consistent defaultVersion ∧
      ∀ g', Loads g g' → ∀ id f, g.file? id = some f →
        ∃ f', g'.file? id = some f' ∧ f'.path = f.path := by
  obtain ⟨hg, rfl⟩ := h.settled
  refine ⟨hg.consistent, fun g' hl id f hf => ?_⟩
  obtain ⟨reread, hgrows⟩ := hl.grows hg
  exact hgrows.file? hf

/-- Two files that include each other, one of them itself and the other twice. -/
def entwined : Storage := .memory
  { texts := ⟨[("a", "#include \"b\"\n#include \"a\"\n#include \"./b\"\n"), ("b", "#include \"a\"\n")]⟩ }

/-- The two files were loaded, and then the first one could not be read again. -/
def torn : IncludeGraph :=
  ((({ defaultVersion := "450" } : IncludeGraph).intern entwined "a").value.2.reload
    (.memory {}) ⟨0⟩).value

theorem consistent_of_built_torn :
    Built "450" torn ∧ torn.ids.map torn.dependencies = [[], [⟨0⟩]] ∧
      torn.ids.map torn.includers = [[⟨1⟩], []] ∧ torn.Consistent "450" ∧
      ∃ f, (torn.reload entwined ⟨0⟩).value.file? ⟨0⟩ = some f ∧ f.path = "a" := by
  have hbuilt : Built "450" torn :=
    (Built.empty.load (.intern entwined "a")).load (.reload (.memory {}) ⟨0⟩ (by decide +kernel))
  have hclosed : (torn.file? ⟨0⟩).any (·.path = "a") = true ∧
      torn.ids.map torn.dependencies = [[], [⟨0⟩]] ∧
      torn.ids.map torn.includers = [[⟨1⟩], []] := by
    decide +kernel
  obtain ⟨hfile, hdependencies, hincluders⟩ := hclosed
  obtain ⟨f, hf, hpath⟩ := (Option.any_eq_true _ _).mp hfile
  obtain ⟨hconsistent, hkeeps⟩ := consistent_of_built hbuilt
  have hid : (⟨0⟩ : FileId).index < torn.size := isSome_file?.mp (by rw [hf]; rfl)
  obtain ⟨f', hf', hpath'⟩ := hkeeps _ (.reload entwined ⟨0⟩ hid) ⟨0⟩ f hf
  exact ⟨hbuilt, hdependencies, hincluders, hconsistent, f', hf',
    hpath'.trans (of_decide_eq_true hpath)⟩

end ShaderDepot.IncludeGraph
