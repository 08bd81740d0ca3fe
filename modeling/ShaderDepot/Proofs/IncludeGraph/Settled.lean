import ShaderDepot.Proofs.IncludeGraph.Views

/-!
# Settled graphs

Between two operations an include graph is settled: its index and its files agree, each include is
listed at both ends, and each file says what its last reading says (`Settled`).  What a graph becomes
while files get places and some are read anew is `Grows`.
-/

namespace ShaderDepot

namespace SourceFile

def take (f : SourceFile) (defaultVersion : String) : Except ReadError String → SourceFile
  | .error cause => f.emptied cause defaultVersion
  | .ok text => f.filled text (.ofSource text) defaultVersion

/-- A file, without its edges, as its reading leaves it. -/
def ofRead (path defaultVersion : String) (given : Except ReadError String) : SourceFile :=
  (unread path defaultVersion).take defaultVersion given

theorem body_take (f : SourceFile) (defaultVersion : String) (given : Except ReadError String) :
    (f.take defaultVersion given).body = ofRead f.path defaultVersion given := by
  cases given <;> rfl

theorem dependencies_take (f : SourceFile) (defaultVersion : String)
    (given : Except ReadError String) :
    (f.take defaultVersion given).dependencies = f.dependencies := by
  cases given <;> rfl

theorem includers_take (f : SourceFile) (defaultVersion : String)
    (given : Except ReadError String) : (f.take defaultVersion given).includers = f.includers := by
  cases given <;> rfl

/-- The file says what its last reading says. -/
def Scanned (defaultVersion : String) (f : SourceFile) : Prop :=
  ∃ given, f.lastRead = some given ∧ f = ofRead f.path defaultVersion given

/-- The keys of the includes that a reading gives, in the order of their lines. -/
def keysOfRead : Except ReadError String → List String
  | .error _ => []
  | .ok text => (ScannedText.ofSource text).includes.map Path.normalize

def includeKeys (f : SourceFile) : List String := (f.lastRead.map keysOfRead).getD []

/-- Why a reading failed is of no account. -/
theorem keysOfRead_congr {given given' : Except ReadError String}
    (h : given.toOption = given'.toOption) : keysOfRead given = keysOfRead given' := by
  cases given <;> cases given' <;> cases h <;> rfl

theorem lastRead_ofRead (path defaultVersion : String) (given : Except ReadError String) :
    (ofRead path defaultVersion given).lastRead = some given := by
  cases given <;> rfl

theorem path_ofRead (path defaultVersion : String) (given : Except ReadError String) :
    (ofRead path defaultVersion given).path = path := by
  cases given <;> rfl

theorem scanned_ofRead (path defaultVersion : String) (given : Except ReadError String) :
    (ofRead path defaultVersion given).Scanned defaultVersion := by
  refine ⟨given, lastRead_ofRead .., ?_⟩
  rw [path_ofRead]

end SourceFile

namespace IncludeGraph

structure WellFormed (g : IncludeGraph) : Prop where
  /-- The index leads from the key of each file to the file, and nowhere else. -/
  index : ∀ key id, g.lookup? key = some id ↔ ∃ f, g.body? id = some f ∧ f.path = key
  /-- Each include is listed at both its ends. -/
  symmetric : ∀ a b, b ∈ g.dependencies a ↔ a ∈ g.includers b
  /-- Each include leads to a file of the graph. -/
  closed : ∀ a b, b ∈ g.dependencies a → b.index < g.size

structure Settled (g : IncludeGraph) : Prop extends g.WellFormed where
  scanned : ∀ a f, g.body? a = some f → f.Scanned g.defaultVersion
  /-- A file depends on the files that its includes name, each once and in order. -/
  edges : ∀ a f, g.body? a = some f →
    (g.dependencies a).map some = (f.includeKeys.map g.lookup?).eraseDups

/-- `g'` comes from `g` by reading some files anew and by giving places to more files. -/
structure Grows (reread : FileId → Prop) (g g' : IncludeGraph) : Prop where
  size : g.size ≤ g'.size
  defaultVersion : g'.defaultVersion = g.defaultVersion
  lookup : ∀ key id, g.lookup? key = some id → g'.lookup? key = some id
  path : ∀ a, (g.body? a).isSome → (g'.body? a).map (·.path) = (g.body? a).map (·.path)
  body : ∀ a, a.index < g.size → ¬reread a → g'.body? a = g.body? a
  dependencies : ∀ a, a.index < g.size → ¬reread a → g'.dependencies a = g.dependencies a

theorem Grows.refl (reread : FileId → Prop) (g : IncludeGraph) : Grows reread g g :=
  ⟨Nat.le_refl _, rfl, fun _ _ h => h, fun _ _ => rfl, fun _ _ _ => rfl, fun _ _ _ => rfl⟩

theorem Grows.trans {reread : FileId → Prop} {g g' g'' : IncludeGraph} (h : Grows reread g g')
    (h' : Grows reread g' g'') : Grows reread g g'' where
  size := Nat.le_trans h.size h'.size
  defaultVersion := h'.defaultVersion.trans h.defaultVersion
  lookup key id hk := h'.lookup key id (h.lookup key id hk)
  path a ha := by
    have ha' : (g'.body? a).isSome :=
      isSome_body?.mpr (Nat.lt_of_lt_of_le (isSome_body?.mp ha) h.size)
    exact (h'.path a ha').trans (h.path a ha)
  body a ha hr := (h'.body a (Nat.lt_of_lt_of_le ha h.size) hr).trans (h.body a ha hr)
  dependencies a ha hr :=
    (h'.dependencies a (Nat.lt_of_lt_of_le ha h.size) hr).trans (h.dependencies a ha hr)

theorem Grows.mono {reread reread' : FileId → Prop} {g g' : IncludeGraph} (h : Grows reread g g')
    (hr : ∀ a, reread a → reread' a) : Grows reread' g g' :=
  { h with
    body := fun a ha hn => h.body a ha fun h => hn (hr a h)
    dependencies := fun a ha hn => h.dependencies a ha fun h => hn (hr a h) }

theorem WellFormed.eq_of_path {g : IncludeGraph} (hg : g.WellFormed) {a b : FileId} {f f' : SourceFile}
    (ha : g.body? a = some f) (hb : g.body? b = some f') (h : f.path = f'.path) : a = b := by
  -- The index leads from one key to both.
  have ha' := (hg.index f.path a).mpr ⟨f, ha, rfl⟩
  have hb' := (hg.index f'.path b).mpr ⟨f', hb, rfl⟩
  rw [h, hb'] at ha'
  exact (Option.some.inj ha').symm

theorem WellFormed.lt_size_of_lookup? {g : IncludeGraph} (hg : g.WellFormed) {key : String}
    {id : FileId} (h : g.lookup? key = some id) : id.index < g.size := by
  obtain ⟨f, hf, -⟩ := (hg.index key id).mp h
  exact lt_size_of_body? hf

/-- Of the files that had a place before, each is found as before. -/
theorem Grows.lookup?_of_lt {reread : FileId → Prop} {g g' : IncludeGraph} (h : Grows reread g g')
    (hg : g.WellFormed) (hg' : g'.WellFormed) {key : String} {a : FileId} (ha : a.index < g.size)
    (hk : g'.lookup? key = some a) : g.lookup? key = some a := by
  obtain ⟨f, hf⟩ := Option.isSome_iff_exists.mp (isSome_body?.mpr ha)
  obtain ⟨f', hf', hpath⟩ := (hg'.index key a).mp hk
  have hsame := h.path a (isSome_body?.mpr ha)
  rw [hf, hf', Option.map_some, Option.map_some] at hsame
  exact (hg.index key a).mpr ⟨f, hf, (Option.some.inj hsame).symm.trans hpath⟩

theorem settled_empty (defaultVersion : String) : Settled { defaultVersion } where
  index key id := by
    constructor
    · intro h
      cases h
    · rintro ⟨f, hf, -⟩
      cases hf
  symmetric a b := by
    rw [dependencies_of_size_le (Nat.zero_le _), includers_of_size_le (Nat.zero_le _)]
    simp only [List.not_mem_nil]
  closed a b h := absurd (lt_size_of_mem_dependencies h) (Nat.not_lt_zero _)
  scanned a f h := nomatch h
  edges a f h := nomatch h

/-! ## What each operation keeps -/

theorem wellFormed_push {g : IncludeGraph} (hg : g.WellFormed) {key : String}
    (hk : g.lookup? key = none) : (g.push key).WellFormed where
  index key' id := by
    rw [lookup?_push, body?_push]
    by_cases h : key = key'
    · rw [if_pos h]
      constructor
      · intro e
        obtain rfl := Option.some.inj e
        exact ⟨_, if_pos rfl, h⟩
      · rintro ⟨f, hf, hp⟩
        split at hf
        · next hid => rw [hid]
        · -- The key had no file before.
          have hl := (hg.index key' id).mpr ⟨f, hf, hp⟩
          rw [← h, hk] at hl
          cases hl
    · rw [if_neg h, hg.index]
      constructor
      · rintro ⟨f, hf, hp⟩
        refine ⟨f, ?_, hp⟩
        rw [if_neg, hf]
        rintro rfl
        exact Nat.lt_irrefl _ (lt_size_of_body? hf)
      · rintro ⟨f, hf, hp⟩
        split at hf
        · obtain rfl := Option.some.inj hf
          exact absurd hp h
        · exact ⟨f, hf, hp⟩
  symmetric a b := by
    rw [dependencies_push, includers_push]
    exact hg.symmetric a b
  closed a b h := by
    rw [dependencies_push] at h
    rw [size_push]
    exact Nat.lt_succ_of_lt (hg.closed a b h)

theorem mem_dependencies_addEdge {g : IncludeGraph} {a b c d : FileId} (ha : a.index < g.size) :
    d ∈ (g.addEdge a b).dependencies c ↔ d ∈ g.dependencies c ∨ c = a ∧ d = b := by
  rw [dependencies_addEdge g b c ha]
  by_cases h : c = a
  · rw [if_pos h, h]
    split
    · next hb =>
      constructor
      · exact .inl
      · rintro (h | ⟨-, rfl⟩)
        · exact h
        · exact hb
    · rw [List.mem_append, List.mem_singleton]
      tauto
  · rw [if_neg h]
    tauto

theorem mem_includers_addEdge {g : IncludeGraph} {a b c d : FileId} (hb : b.index < g.size) :
    d ∈ (g.addEdge a b).includers c ↔ d ∈ g.includers c ∨ d = a ∧ c = b := by
  rw [includers_addEdge g a c hb]
  by_cases h : c = b
  · rw [if_pos h, SourceFile.mem_insertAscending, h]
    tauto
  · rw [if_neg h]
    tauto

theorem wellFormed_addEdge {g : IncludeGraph} (hg : g.WellFormed) {a b : FileId}
    (ha : a.index < g.size) (hb : b.index < g.size) : (g.addEdge a b).WellFormed where
  index key id := by
    rw [lookup?_addEdge, body?_addEdge]
    exact hg.index key id
  symmetric c d := by
    rw [mem_dependencies_addEdge ha, mem_includers_addEdge hb, hg.symmetric]
  closed c d h := by
    rw [size_addEdge]
    rcases (mem_dependencies_addEdge ha).mp h with h | ⟨-, rfl⟩
    · exact hg.closed c d h
    · exact hb

theorem wellFormed_dropEdges {g : IncludeGraph} (hg : g.WellFormed) (id : FileId) :
    (g.dropEdges id).WellFormed where
  index key a := by
    rw [lookup?_dropEdges, body?_dropEdges]
    exact hg.index key a
  symmetric a b := by
    -- The file is struck off the lists of those that it depended on, and of no others.
    rw [dependencies_dropEdges, mem_includers_dropEdges, ← hg.symmetric a b]
    by_cases h : a = id
    · rw [if_pos h, h]
      simp only [List.not_mem_nil, ne_eq, not_true_eq_false, imp_false, and_not_self]
    · rw [if_neg h]
      simp only [ne_eq, h, not_false_eq_true, implies_true, and_true]
  closed a b h := by
    rw [dependencies_dropEdges] at h
    rw [size_dropEdges]
    split at h
    · cases h
    · exact hg.closed a b h

end IncludeGraph

end ShaderDepot
