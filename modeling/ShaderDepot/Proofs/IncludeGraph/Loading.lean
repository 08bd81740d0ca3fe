import ShaderDepot.Proofs.IncludeGraph.Settled

/-!
# Loading leaves a graph settled

While files are loaded a graph is not settled: of the includes of a file only those are listed that no
task on the agenda has still to follow, and a file that just got its place has not been read.  What
holds at every moment is `Underway`, and from one storage `Loading`.  Each task keeps it
(`Loading.perform`), and with an empty agenda it says that the graph is settled again (`settled_intern`,
`settled_reload`).
-/

namespace ShaderDepot.IncludeGraph

variable {s : Storage} {g : IncludeGraph}

/-! ## A file read -/

theorem graph_readFile (s : Storage) (g : IncludeGraph) (id : FileId) :
    (readFile s g id).value.1 =
      g.update id (·.take g.defaultVersion (s.read (g.pathOf id))) := by
  rw [value_readFile]
  cases s.read (g.pathOf id) <;> rfl

theorem body?_readFile (s : Storage) (g : IncludeGraph) (id a : FileId) :
    (readFile s g id).value.1.body? a =
      if a = id then
        (g.body? a).map fun f => .ofRead f.path g.defaultVersion (s.read f.path)
      else g.body? a := by
  rw [graph_readFile, body?, body?, file?_update]
  by_cases h : a = id
  · rw [if_pos h, if_pos h.symm, Option.map_map, Option.map_map, h]
    cases hf : g.file? id with
    | none => rfl
    | some f =>
      have hp : g.pathOf id = f.path := by
        rw [pathOf, hf]
        rfl
      show some _ = some (SourceFile.ofRead f.path g.defaultVersion (s.read f.path))
      rw [Function.comp_apply, SourceFile.body_take, hp]
  · rw [if_neg h, if_neg (Ne.symm h)]

@[simp] theorem size_readFile (s : Storage) (g : IncludeGraph) (id : FileId) :
    (readFile s g id).value.1.size = g.size := by
  rw [graph_readFile, size_update]

@[simp] theorem defaultVersion_readFile (s : Storage) (g : IncludeGraph) (id : FileId) :
    (readFile s g id).value.1.defaultVersion = g.defaultVersion := by
  rw [graph_readFile]
  rfl

@[simp] theorem dependencies_readFile (s : Storage) (g : IncludeGraph) (id a : FileId) :
    (readFile s g id).value.1.dependencies a = g.dependencies a := by
  rw [graph_readFile]
  exact dependencies_update _ _ _ fun _ => SourceFile.dependencies_take ..

@[simp] theorem includers_readFile (s : Storage) (g : IncludeGraph) (id a : FileId) :
    (readFile s g id).value.1.includers a = g.includers a := by
  rw [graph_readFile]
  exact includers_update _ _ _ fun _ => SourceFile.includers_take ..

theorem wellFormed_readFile (hg : g.WellFormed) (id : FileId) :
    (readFile s g id).value.1.WellFormed where
  index key a := by
    rw [lookup?_readFile, body?_readFile, hg.index]
    split
    · constructor
      · rintro ⟨f, hf, hp⟩
        refine ⟨_, by rw [hf]; rfl, ?_⟩
        rw [SourceFile.path_ofRead, hp]
      · rintro ⟨f, hf, hp⟩
        obtain ⟨f', hf', rfl⟩ := Option.map_eq_some_iff.mp hf
        rw [SourceFile.path_ofRead] at hp
        exact ⟨f', hf', hp⟩
    · rfl
  symmetric a b := by
    rw [dependencies_readFile, includers_readFile]
    exact hg.symmetric a b
  closed a b h := by
    rw [dependencies_readFile] at h
    rw [size_readFile]
    exact hg.closed a b h

/-! ## A task -/

/-- Does a task but for the reading of a file.  The file that is to be read has its place then. -/
def place (g : IncludeGraph) : Task → IncludeGraph × Option FileId
  | .finish _ => (g, none)
  | .follow includer key =>
    match g.lookup? key with
    | some id => (g.addEdge includer id, none)
    | none => ((g.push key).addEdge includer ⟨g.size⟩, some ⟨g.size⟩)

/-- A task is done by doing it up to the reading of a file, and reading this. -/
theorem value_perform (s : Storage) (g : IncludeGraph) (t : Task) :
    (perform s g t).value = match (g.place t).2 with
      | some id => (readFile s (g.place t).1 id).value
      | none => ((g.place t).1, []) := by
  cases t with
  | finish id => rfl
  | follow includer key => cases hk : g.lookup? key <;> simp only [perform, place, hk]

theorem lookup?_push_of_lookup? {key : String} {id : FileId} (h : g.lookup? key = some id)
    {key' : String} (hk : g.lookup? key' = none) : (g.push key').lookup? key = some id := by
  rw [lookup?_push, if_neg, h]
  rintro rfl
  rw [hk] at h
  cases h

theorem lookup?_place (t : Task) {key : String} {id : FileId} (h : g.lookup? key = some id) :
    (g.place t).1.lookup? key = some id := by
  cases t with
  | finish a => exact h
  | follow includer key' =>
    cases hk : g.lookup? key' with
    | some a =>
      simp only [place, hk]
      exact h
    | none =>
      simp only [place, hk, lookup?_addEdge]
      exact lookup?_push_of_lookup? h hk

theorem body?_place (g : IncludeGraph) (t : Task) (a : FileId) :
    (g.place t).1.body? a = g.body? a ∨ (g.place t).2 = some a := by
  cases t with
  | finish id => exact .inl rfl
  | follow includer key =>
    cases hk : g.lookup? key with
    | some id =>
      simp only [place, hk]
      exact .inl (body?_addEdge ..)
    | none =>
      simp only [place, hk, body?_addEdge, body?_push]
      by_cases ha : a = ⟨g.size⟩
      · exact .inr (congrArg some ha.symm)
      · exact .inl (if_neg ha)

theorem lookup?_perform (t : Task) {key : String} {id : FileId} (h : g.lookup? key = some id) :
    (perform s g t).value.1.lookup? key = some id := by
  rw [value_perform]
  cases (g.place t).2 with
  | none => exact lookup?_place t h
  | some a =>
    rw [lookup?_readFile]
    exact lookup?_place t h

/-! ## What an agenda has still to follow -/

def Task.key? (a : FileId) : Task → Option String
  | .follow b key => if b = a then some key else none
  | .finish _ => none

/-- The keys of a file's includes that an agenda has still to follow, in turn. -/
def pending (tasks : List Task) (a : FileId) : List String := tasks.filterMap (Task.key? a)

theorem pending_append (tasks tasks' : List Task) (a : FileId) :
    pending (tasks ++ tasks') a = pending tasks a ++ pending tasks' a := List.filterMap_append

@[simp] theorem pending_finish (id a : FileId) (tasks : List Task) :
    pending (.finish id :: tasks) a = pending tasks a := rfl

theorem pending_follow (b a : FileId) (key : String) (tasks : List Task) :
    pending (.follow b key :: tasks) a =
      if b = a then key :: pending tasks a else pending tasks a := by
  unfold pending
  rw [List.filterMap_cons, Task.key?]
  split
  · next h => split at h <;> [cases h; rw [if_neg ‹_›]]
  · next h => split at h <;> [(cases h; rw [if_pos ‹_›]); cases h]

theorem follow_mem_of_pending {tasks : List Task} {a : FileId} {key : String}
    (h : key ∈ pending tasks a) : .follow a key ∈ tasks := by
  obtain ⟨t, ht, hk⟩ := List.mem_filterMap.mp h
  cases t with
  | finish id => cases hk
  | follow b k =>
    rw [Task.key?] at hk
    split at hk
    · next hb =>
      cases hk
      rwa [← hb]
    · cases hk

theorem pending_eq_nil {tasks : List Task} {a : FileId}
    (h : ∀ key, .follow a key ∉ tasks) : pending tasks a = [] :=
  List.eq_nil_iff_forall_not_mem.mpr fun key hk => h key (follow_mem_of_pending hk)

theorem pending_readFile (s : Storage) (g : IncludeGraph) (id a : FileId) :
    pending (readFile s g id).value.2 a =
      if id = a then SourceFile.keysOfRead (s.read (g.pathOf id)) else [] := by
  rw [value_readFile]
  cases s.read (g.pathOf id) with
  | error cause => split <;> rfl
  | ok text =>
    rw [takeIn, pending_append, pending_finish, pending, List.filterMap_map]
    split
    · next h =>
      have hk : Task.key? a ∘ (fun p => Task.follow id (Path.normalize p)) =
          some ∘ Path.normalize := by
        funext p
        exact if_pos h
      rw [hk, List.filterMap_eq_map]
      exact List.append_nil _
    · next h =>
      have hk : ∀ p ∈ (ScannedText.ofSource text).includes,
          (Task.key? a ∘ fun p => Task.follow id (Path.normalize p)) p = none :=
        fun p _ => if_neg h
      rw [List.filterMap_eq_nil_iff.mpr hk]
      rfl

/-- What a file leaves to be followed, it includes itself. -/
theorem eq_of_follow_mem_readFile {id a : FileId} {key : String}
    (h : .follow a key ∈ (readFile s g id).value.2) : a = id := by
  by_contra hne
  have hnone := pending_readFile s g id a
  rw [if_neg (Ne.symm hne)] at hnone
  have hm : key ∈ pending (readFile s g id).value.2 a :=
    List.mem_filterMap.mpr ⟨_, h, if_pos rfl⟩
  rw [hnone] at hm
  cases hm

/-- Each key that was followed leads to a file that is listed. -/
theorem exists_listed {look : String → Option FileId} {keys : List String} {l : List FileId}
    (hl : l.map some = (keys.map look).eraseDups) {key : String} (hk : key ∈ keys) :
    ∃ id ∈ l, look key = some id := by
  have hm : look key ∈ l.map some := by
    rw [hl]
    exact List.mem_eraseDups.mpr (List.mem_map_of_mem hk)
  obtain ⟨id, hid, e⟩ := List.mem_map.mp hm
  exact ⟨id, hid, e.symm⟩

/-- One more key that was followed adds its file, unless an earlier key did. -/
theorem eraseDups_map_snoc {look : String → Option FileId} {done : List String} {key : String}
    {id : FileId} {l : List FileId} (hl : l.map some = (done.map look).eraseDups)
    (hid : look key = some id) :
    (if id ∈ l then l else l ++ [id]).map some = ((done ++ [key]).map look).eraseDups := by
  rw [List.map_append, List.eraseDups_append, ← hl, List.map_singleton, hid]
  have hmem : some id ∈ done.map look ↔ id ∈ l := by
    rw [← List.mem_eraseDups, ← hl, List.mem_map]
    constructor
    · rintro ⟨b, hb, e⟩
      rwa [← Option.some.inj e]
    · intro hb
      exact ⟨id, hb, rfl⟩
  by_cases hdep : id ∈ l
  · -- The file is listed already, so it is a repetition on the right as well.
    rw [if_pos hdep, List.removeAll, List.filter_eq_nil_iff.mpr, List.eraseDups_nil,
      List.append_nil]
    intro x hx
    rw [List.mem_singleton.mp hx, List.elem_eq_mem, decide_eq_true (hmem.mpr hdep)]
    decide
  · rw [if_neg hdep, List.map_append, List.removeAll, List.filter_eq_self.mpr]
    · rfl
    · intro x hx
      rw [List.mem_singleton.mp hx, List.elem_eq_mem, decide_eq_false (mt hmem.mp hdep)]
      rfl

/-! ## How the graph grows -/

section

variable {reread : FileId → Prop}

theorem grows_readFile (s : Storage) (g : IncludeGraph) {id : FileId} (hid : reread id) :
    Grows reread g (readFile s g id).value.1 where
  size := Nat.le_of_eq (size_readFile ..).symm
  defaultVersion := defaultVersion_readFile s g id
  lookup key a ha := by rwa [lookup?_readFile]
  path a _ := by
    rw [body?_readFile]
    split
    · rw [Option.map_map]
      exact congrArg (Option.map · (g.body? a)) (funext fun f => SourceFile.path_ofRead ..)
    · rfl
  body a _ ha := by rw [body?_readFile, if_neg fun e => ha (by rwa [e])]
  dependencies a _ _ := dependencies_readFile s g id a

theorem grows_addEdge {a : FileId} (id : FileId) (ha : a.index < g.size) (hr : reread a) :
    Grows reread g (g.addEdge a id) where
  size := Nat.le_of_eq (size_addEdge ..).symm
  defaultVersion := rfl
  lookup _ _ hk := hk
  path c _ := by rw [body?_addEdge]
  body c _ _ := by rw [body?_addEdge]
  dependencies c _ hc := by
    rw [dependencies_addEdge g id c ha, if_neg fun e => hc (by rwa [e])]

theorem body?_push_of_lt {key : String} {a : FileId} (ha : a.index < g.size) :
    (g.push key).body? a = g.body? a := by
  rw [body?_push, if_neg]
  rintro rfl
  exact Nat.lt_irrefl _ ha

theorem grows_push {key : String} (hk : g.lookup? key = none) : Grows reread g (g.push key) where
  size := by
    rw [size_push]
    exact Nat.le_succ _
  defaultVersion := rfl
  lookup key' id hid := by
    rw [lookup?_push, if_neg, hid]
    rintro rfl
    rw [hk] at hid
    cases hid
  path a ha := by rw [body?_push_of_lt (isSome_body?.mp ha)]
  body a ha _ := body?_push_of_lt ha
  dependencies a _ _ := by rw [dependencies_push]

theorem grows_dropEdges {id : FileId} (hid : reread id) : Grows reread g (g.dropEdges id) where
  size := Nat.le_of_eq (size_dropEdges ..).symm
  defaultVersion := defaultVersion_dropEdges g id
  lookup key a ha := by rwa [lookup?_dropEdges]
  path a _ := by rw [body?_dropEdges]
  body a _ _ := body?_dropEdges g id a
  dependencies a _ ha := by rw [dependencies_dropEdges, if_neg fun e => ha (by rwa [e])]

end

/-! ## The graph while files are loaded -/

/-- The graph `g` and an agenda while some files are read anew, which began with the graph `start`.
The file `gap` has its place but has not been read.  Nothing is said of the storage, which may become
another from one file to the next. -/
structure Underway (reread : FileId → Prop) (start g : IncludeGraph) (tasks : List Task)
    (gap : Option FileId) : Prop where
  wellFormed : g.WellFormed
  grows : Grows reread start g
  /-- Every place that `start` did not have is read. -/
  added : ∀ a, start.size ≤ a.index → reread a
  scanned : ∀ a f, g.body? a = some f → gap ≠ some a → f.Scanned g.defaultVersion
  /-- The includes of a file are those that are listed and those that are still to be followed. -/
  edges : ∀ a f, g.body? a = some f → gap ≠ some a →
    ∃ done, f.includeKeys = done ++ pending tasks a ∧
      (g.dependencies a).map some = (done.map g.lookup?).eraseDups
  includer : ∀ a key, .follow a key ∈ tasks → reread a ∧ a.index < g.size ∧ gap ≠ some a
  gapped : ∀ a, gap = some a → reread a ∧ a.index < g.size ∧ g.dependencies a = []

namespace Underway

variable {reread reread' : FileId → Prop} {start : IncludeGraph} {tasks : List Task}
  {gap : Option FileId}

theorem pending_gap {id : FileId} (h : Underway reread start g tasks (some id)) :
    pending tasks id = [] :=
  pending_eq_nil fun key hk => (h.includer id key hk).2.2 rfl

theorem read {id : FileId} (h : Underway reread start g tasks (some id)) (s : Storage) :
    Underway reread start (readFile s g id).value.1 ((readFile s g id).value.2 ++ tasks) none where
  wellFormed := wellFormed_readFile h.wellFormed id
  grows := h.grows.trans (grows_readFile s g (h.gapped id rfl).1)
  added := h.added
  scanned a f hf _ := by
    rw [body?_readFile] at hf
    rw [defaultVersion_readFile]
    split at hf
    · obtain ⟨f', -, rfl⟩ := Option.map_eq_some_iff.mp hf
      exact SourceFile.scanned_ofRead ..
    · next ha => exact h.scanned a f hf fun e => ha (Option.some.inj e).symm
  edges a f hf _ := by
    rw [body?_readFile] at hf
    rw [pending_append, pending_readFile, dependencies_readFile]
    have hl : (readFile s g id).value.1.lookup? = g.lookup? := funext fun key =>
      lookup?_readFile s g id key
    rw [hl]
    split at hf
    · next ha =>
      -- Nothing of this file has been followed: all that the reading gave is on the agenda.
      subst ha
      obtain ⟨f', hf', rfl⟩ := Option.map_eq_some_iff.mp hf
      have hp : g.pathOf a = f'.path := by
        rw [pathOf_eq, hf']
        rfl
      refine ⟨[], ?_, ?_⟩
      · rw [if_pos rfl, h.pending_gap, List.append_nil, hp, SourceFile.includeKeys,
          SourceFile.lastRead_ofRead]
        rfl
      · rw [(h.gapped a rfl).2.2]
        rfl
    · next ha =>
      rw [if_neg (Ne.symm ha)]
      exact h.edges a f hf fun e => ha (Option.some.inj e).symm
  includer a key hk := by
    rw [size_readFile]
    rcases List.mem_append.mp hk with hk | hk
    · obtain ⟨hid, hs, -⟩ := h.gapped id rfl
      rw [eq_of_follow_mem_readFile hk]
      exact ⟨hid, hs, nofun⟩
    · obtain ⟨hr, hs, -⟩ := h.includer a key hk
      exact ⟨hr, hs, nofun⟩
  gapped _ e := nomatch e

theorem link {a id : FileId} {key : String}
    (h : Underway reread start g (.follow a key :: tasks) gap) (hid : g.lookup? key = some id) :
    Underway reread start (g.addEdge a id) tasks gap := by
  obtain ⟨hr, ha, hgap⟩ := h.includer a key (List.mem_cons_self ..)
  have hb : id.index < g.size := h.wellFormed.lt_size_of_lookup? hid
  refine
    { wellFormed := wellFormed_addEdge h.wellFormed ha hb
      grows := h.grows.trans (grows_addEdge id ha hr)
      added := h.added
      scanned := ?_, edges := ?_, includer := ?_, gapped := ?_ }
  · intro c f hf
    rw [body?_addEdge] at hf
    exact h.scanned c f hf
  · intro c f hf hc
    rw [body?_addEdge] at hf
    obtain ⟨done, hk, hd⟩ := h.edges c f hf hc
    rw [pending_follow] at hk
    rw [dependencies_addEdge g id c ha]
    by_cases hca : c = a
    · -- The key is the last of those followed from this file.
      subst hca
      rw [if_pos rfl] at hk
      rw [if_pos rfl]
      refine ⟨done ++ [key], by rw [hk, List.append_assoc]; rfl, ?_⟩
      exact eraseDups_map_snoc hd hid
    · rw [if_neg (Ne.symm hca)] at hk
      rw [if_neg hca]
      exact ⟨done, hk, hd⟩
  · intro c k hk
    rw [size_addEdge]
    exact h.includer c k (List.mem_cons_of_mem _ hk)
  · intro c hc
    obtain ⟨hcr, hcs, hcd⟩ := h.gapped c hc
    refine ⟨hcr, by rwa [size_addEdge], ?_⟩
    rw [dependencies_addEdge g id c ha, if_neg fun e => hgap (by rw [hc, e]), hcd]

theorem push {key : String} (h : Underway reread start g tasks none) (hk : g.lookup? key = none) :
    Underway reread start (g.push key) tasks (some ⟨g.size⟩) := by
  have hbody : ∀ a f, (g.push key).body? a = some f → some (⟨g.size⟩ : FileId) ≠ some a →
      g.body? a = some f := by
    intro a f hf ha
    rwa [body?_push, if_neg fun e => ha (congrArg some e.symm)] at hf
  refine
    { wellFormed := wellFormed_push h.wellFormed hk
      grows := h.grows.trans (grows_push hk)
      added := h.added
      scanned := ?_, edges := ?_, includer := ?_, gapped := ?_ }
  · intro a f hf ha
    exact h.scanned a f (hbody a f hf ha) nofun
  · intro a f hf ha
    obtain ⟨done, hd, he⟩ := h.edges a f (hbody a f hf ha) nofun
    refine ⟨done, hd, ?_⟩
    rw [dependencies_push, he]
    -- A key that was followed has its file, so it is not the new one.
    have hdone : ∀ k ∈ done, (g.push key).lookup? k = g.lookup? k := by
      intro k hkd
      rw [lookup?_push, if_neg]
      rintro rfl
      obtain ⟨id, -, hid⟩ := exists_listed he hkd
      rw [hk] at hid
      cases hid
    rw [List.map_congr_left hdone]
  · -- The new file is no includer yet, for its place is a new one.
    intro a k hak
    obtain ⟨hr, hs, -⟩ := h.includer a k hak
    refine ⟨hr, by rw [size_push]; exact Nat.lt_succ_of_lt hs, ?_⟩
    intro e
    obtain rfl := Option.some.inj e
    exact Nat.lt_irrefl _ hs
  · intro a e
    obtain rfl := Option.some.inj e
    refine ⟨h.added _ h.grows.size, by rw [size_push]; exact Nat.lt_succ_self _, ?_⟩
    rw [dependencies_push]
    exact dependencies_of_size_le (Nat.le_refl _)

theorem finish {id : FileId} (h : Underway reread start g (.finish id :: tasks) gap) :
    Underway reread start g tasks gap :=
  { h with includer := fun a key hk => h.includer a key (List.mem_cons_of_mem _ hk) }

theorem place {t : Task} (h : Underway reread start g (t :: tasks) none) :
    Underway reread start (g.place t).1 tasks (g.place t).2 := by
  cases t with
  | finish id => exact h.finish
  | follow includer key =>
    cases hk : g.lookup? key with
    | some id =>
      simp only [IncludeGraph.place, hk]
      exact h.link hk
    | none =>
      -- The file has its place before it is listed, so the include leads to it.
      have hid : (g.push key).lookup? key = some ⟨g.size⟩ := by
        rw [lookup?_push, if_pos rfl]
      simp only [IncludeGraph.place, hk]
      exact (h.push hk).link hid

theorem settled (h : Underway reread start g [] none) : g.Settled :=
  { h.wellFormed with
    scanned := fun a f hf => h.scanned a f hf nofun
    edges := by
      intro a f hf
      obtain ⟨done, hd, he⟩ := h.edges a f hf nofun
      rw [pending, List.filterMap_nil, List.append_nil] at hd
      rw [he, hd] }

theorem init (hg : g.Settled) (hadded : ∀ a, g.size ≤ a.index → reread a) :
    Underway reread g g [] none where
  wellFormed := hg.toWellFormed
  grows := .refl _ g
  added := hadded
  scanned a f hf _ := hg.scanned a f hf
  edges a f hf _ := ⟨f.includeKeys, (List.append_nil _).symm, hg.edges a f hf⟩
  includer _ _ hk := nomatch hk
  gapped _ e := nomatch e

/-- One more file is read anew. -/
theorem again (h : Underway reread start g [] none) (hmono : ∀ a, reread a → reread' a)
    {id : FileId} (hid : id.index < g.size) (hr : reread' id) :
    Underway reread' start (g.dropEdges id) [] (some id) where
  wellFormed := wellFormed_dropEdges h.wellFormed id
  grows := (h.grows.mono hmono).trans (grows_dropEdges hr)
  added a ha := hmono a (h.added a ha)
  scanned a f hf _ := by
    rw [body?_dropEdges] at hf
    rw [defaultVersion_dropEdges]
    exact h.settled.scanned a f hf
  edges a f hf hgap := by
    rw [body?_dropEdges] at hf
    refine ⟨f.includeKeys, (List.append_nil _).symm, ?_⟩
    rw [dependencies_dropEdges, if_neg fun e => hgap (congrArg some e.symm), h.settled.edges a f hf]
    exact congrArg (fun l => (f.includeKeys.map l).eraseDups)
      (funext fun key => (lookup?_dropEdges g id key).symm)
  includer _ _ hk := nomatch hk
  gapped a e := by
    obtain rfl := Option.some.inj e
    refine ⟨hr, by rwa [size_dropEdges], ?_⟩
    rw [dependencies_dropEdges, if_pos rfl]

end Underway

/-- Files are loaded from one storage. -/
structure Loading (s : Storage) (reread : FileId → Prop) (start g : IncludeGraph)
    (tasks : List Task) (gap : Option FileId) : Prop extends Underway reread start g tasks gap where
  fresh : ∀ a f, g.body? a = some f → gap ≠ some a → reread a → f.lastRead = some (s.read f.path)

namespace Loading

variable {reread : FileId → Prop} {start : IncludeGraph} {tasks : List Task} {gap : Option FileId}

theorem read {id : FileId} (h : Loading s reread start g tasks (some id)) :
    Loading s reread start (readFile s g id).value.1 ((readFile s g id).value.2 ++ tasks) none where
  toUnderway := h.toUnderway.read s
  fresh a f hf _ hr := by
    rw [body?_readFile] at hf
    split at hf
    · obtain ⟨f', -, rfl⟩ := Option.map_eq_some_iff.mp hf
      rw [SourceFile.lastRead_ofRead, SourceFile.path_ofRead]
    · next ha => exact h.fresh a f hf (fun e => ha (Option.some.inj e).symm) hr

theorem push {key : String} (h : Loading s reread start g tasks none) (hk : g.lookup? key = none) :
    Loading s reread start (g.push key) tasks (some ⟨g.size⟩) where
  toUnderway := h.toUnderway.push hk
  fresh a f hf ha := by
    rw [body?_push, if_neg fun e => ha (congrArg some e.symm)] at hf
    exact h.fresh a f hf nofun

theorem place {t : Task} (h : Loading s reread start g (t :: tasks) none) :
    Loading s reread start (g.place t).1 tasks (g.place t).2 where
  toUnderway := h.toUnderway.place
  fresh a f hf hgap := by
    rw [(body?_place g t a).resolve_right hgap] at hf
    exact h.fresh a f hf nofun

theorem perform {t : Task} (h : Loading s reread start g (t :: tasks) none) :
    Loading s reread start (perform s g t).value.1 ((IncludeGraph.perform s g t).value.2 ++ tasks)
      none := by
  have hplace := h.place
  rw [value_perform]
  cases hgap : (g.place t).2 with
  | none =>
    rw [hgap] at hplace
    exact hplace
  | some id =>
    rw [hgap] at hplace
    exact hplace.read

theorem settle (h : Loading s reread start g tasks none) (hs : Grounded s tasks) :
    Loading s reread start (settle s g tasks hs).value [] none := by
  induction g, tasks, hs using IncludeGraph.settle.induct s with
  | case1 g hs =>
    rw [IncludeGraph.settle]
    exact h
  | case2 g t rest hs _ ih =>
    rw [IncludeGraph.settle, Traced.value_after]
    exact ih h.perform

theorem init (hg : g.Settled) : Loading s (g.size ≤ ·.index) g g [] none where
  toUnderway := .init hg fun _ h => h
  fresh _ _ hf _ ha := absurd (lt_size_of_body? hf) (Nat.not_lt.mpr ha)

theorem reinit (hg : g.Settled) {id : FileId} (hid : id.index < g.size) :
    Loading s (fun a => a = id ∨ g.size ≤ a.index) g (g.dropEdges id) [] (some id) where
  toUnderway := (Underway.init hg fun _ h => h).again (fun _ => .inr) hid (.inl rfl)
  fresh a f hf hgap ha := by
    rw [body?_dropEdges] at hf
    rcases ha with rfl | ha
    · exact absurd rfl hgap
    · exact absurd (lt_size_of_body? hf) (Nat.not_lt.mpr ha)

end Loading

/-! ## What loading does -/

/-- What the files that are read anew now say is what the storage gives. -/
def Fresh (s : Storage) (reread : FileId → Prop) (g : IncludeGraph) : Prop :=
  ∀ a f, g.body? a = some f → reread a → f.lastRead = some (s.read f.path)

theorem Loading.load {reread : FileId → Prop} {start : IncludeGraph} {id : FileId}
    (h : Loading s reread start g [] (some id)) :
    (load s g id).value.Settled ∧ Grows reread start (load s g id).value ∧
      Fresh s reread (load s g id).value := by
  have hr := h.read
  rw [List.append_nil] at hr
  have hs := hr.settle (grounded_readFile s g id)
  exact ⟨hs.settled, hs.grows, fun a f hf => hs.fresh a f hf nofun⟩

theorem lookup?_load (s : Storage) {g : IncludeGraph} (a : FileId) {key : String} {id : FileId}
    (h : g.lookup? key = some id) : (load s g a).value.lookup? key = some id := by
  have hsettle : ∀ (g : IncludeGraph) tasks (hs : Grounded s tasks),
      g.lookup? key = some id → (settle s g tasks hs).value.lookup? key = some id := by
    intro g tasks hs
    induction g, tasks, hs using settle.induct s with
    | case1 g hs =>
      intro h
      rw [settle]
      exact h
    | case2 g t rest hs _ ih =>
      intro h
      rw [settle, Traced.value_after]
      exact ih (lookup?_perform t h)
  refine hsettle _ _ _ ?_
  rwa [lookup?_readFile]

/-- A file that is asked for has a place, and what is read for it is read from the storage. -/
theorem settled_intern (s : Storage) (hg : g.Settled) (path : String) :
    (g.intern s path).value.2.Settled ∧ Grows (g.size ≤ ·.index) g (g.intern s path).value.2 ∧
      Fresh s (g.size ≤ ·.index) (g.intern s path).value.2 ∧
      (g.intern s path).value.2.find? path = some (g.intern s path).value.1 := by
  unfold intern
  cases h : g.find? path with
  | some id =>
    have hi : Loading s (g.size ≤ ·.index) g g [] none := Loading.init hg
    exact ⟨hg, .refl _ g, fun a f hf => hi.fresh a f hf nofun, h⟩
  | none =>
    have hp := (Loading.init (s := s) hg).push h
    obtain ⟨hs, hgr, hf⟩ := hp.load
    refine ⟨hs, hgr, hf, lookup?_load s _ ?_⟩
    rw [lookup?_push, if_pos rfl]
    rfl

/-- A file that is read anew says what the storage gives, as do the files that get a place. -/
theorem settled_reload (s : Storage) (hg : g.Settled) {id : FileId} (hid : id.index < g.size) :
    (g.reload s id).value.Settled ∧
      Grows (fun a => a = id ∨ g.size ≤ a.index) g (g.reload s id).value ∧
      Fresh s (fun a => a = id ∨ g.size ≤ a.index) (g.reload s id).value :=
  (Loading.reinit hg hid).load

end ShaderDepot.IncludeGraph
