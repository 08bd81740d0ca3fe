import ShaderDepot.Proofs.IncludeGraph.Built
import ShaderDepot.Proofs.IncludeGraph.Discovery
import ShaderDepot.Proofs.IncludeGraph.Silent

/-!
# Asking for a file

A path that has a place is answered from the graph.  Any other path gets a place, and so do the files
that are discovered from it and had none: in the order of the discovery, each read once, and with no
report but on what was read.  The files that were there keep all they say (`intern_discovers`).
-/

namespace ShaderDepot

namespace Traced

variable {α β : Type}

theorem diagnostics_after (x : Traced α) (y : Traced β) :
    (y.after x.events).diagnostics = x.diagnostics ++ y.diagnostics :=
  List.filterMap_append

theorem reads_after (x : Traced α) (y : Traced β) :
    (y.after x.events).reads = x.reads ++ y.reads :=
  List.filterMap_append

end Traced

namespace Storage

/-- What the reading of a file gives cause to report. -/
def ownDiagnostics (s : Storage) (key : String) : List Diagnostic :=
  match s.read key with
  | .error cause => [.unreadable key cause]
  | .ok text => IncludeGraph.versionFaults key (.ofSource text)

/-- An error for a file that cannot be read; a warning for several `#version` lines in one that can, and
a remark for none. -/
def ownSeverities (s : Storage) (key : String) : List Severity :=
  match s.read key with
  | .error _ => [.error]
  | .ok text =>
    let scanned := ScannedText.ofSource text
    (if 1 < scanned.versionCount then [.warning] else []) ++
      if scanned.version = none then [.debug] else []

theorem severity_ownDiagnostics (s : Storage) (key : String) :
    (s.ownDiagnostics key).map (·.severity) = s.ownSeverities key := by
  unfold ownDiagnostics ownSeverities
  split
  · rfl
  · rw [IncludeGraph.versionFaults, List.map_append]
    congr 1 <;> split <;> rfl

end Storage

namespace IncludeGraph

variable {s : Storage} {g : IncludeGraph} {defaultVersion : String}

/-! ## The paths of a graph -/

/-- The paths of the files, by their places. -/
def paths (g : IncludeGraph) : List String := g.files.toList.map (·.path)

theorem getElem?_paths (g : IncludeGraph) (n : Nat) :
    g.paths[n]? = (g.body? ⟨n⟩).map (·.path) := by
  rw [paths, List.getElem?_map, Array.getElem?_toList, body?, Option.map_map]
  rfl

theorem paths_congr {g' : IncludeGraph}
    (h : ∀ a, (g'.body? a).map (·.path) = (g.body? a).map (·.path)) : g'.paths = g.paths := by
  apply List.ext_getElem?
  intro n
  rw [getElem?_paths, getElem?_paths, h]

@[simp] theorem paths_push (g : IncludeGraph) (key : String) :
    (g.push key).paths = g.paths ++ [key] := by
  rw [paths, push, Array.toList_push, List.map_append]
  rfl

@[simp] theorem paths_addEdge (g : IncludeGraph) (a b : FileId) :
    (g.addEdge a b).paths = g.paths :=
  paths_congr fun c => by rw [body?_addEdge]

@[simp] theorem paths_readFile (s : Storage) (g : IncludeGraph) (id : FileId) :
    (readFile s g id).value.1.paths = g.paths :=
  paths_congr fun a => by
    rw [body?_readFile]
    split
    · rw [Option.map_map]
      exact congrArg (Option.map · (g.body? a)) (funext fun f => SourceFile.path_ofRead ..)
    · rfl

theorem WellFormed.mem_paths (hg : g.WellFormed) {key : String} :
    key ∈ g.paths ↔ (g.lookup? key).isSome := by
  rw [List.mem_iff_getElem?, Option.isSome_iff_exists]
  constructor
  · rintro ⟨n, hn⟩
    rw [getElem?_paths, Option.map_eq_some_iff] at hn
    exact ⟨⟨n⟩, (hg.index key ⟨n⟩).mpr hn⟩
  · rintro ⟨id, hid⟩
    refine ⟨id.index, ?_⟩
    rw [getElem?_paths, Option.map_eq_some_iff]
    exact (hg.index key id).mp hid

theorem WellFormed.not_mem_paths (hg : g.WellFormed) {key : String} (h : g.lookup? key = none) :
    key ∉ g.paths := by
  rw [hg.mem_paths, h]
  exact Bool.false_ne_true

theorem pathOf_push (g : IncludeGraph) (key : String) : (g.push key).pathOf ⟨g.size⟩ = key := by
  rw [pathOf_eq, body?_push, if_pos rfl]
  rfl

/-! ## What one task reads and reports -/

/-- The key to which a task leads. -/
def Task.target? : Task → Option String
  | .follow _ key => some key
  | .finish _ => none

theorem targets_readFile (s : Storage) (g : IncludeGraph) (id : FileId) :
    (readFile s g id).value.2.filterMap Task.target? = s.keysOf (g.pathOf id) := by
  rw [value_readFile, Storage.keysOf]
  cases s.read (g.pathOf id) with
  | error cause => rfl
  | ok text =>
    simp only [takeIn, List.filterMap_append, List.filterMap_map]
    have hk : Task.target? ∘ (fun p => Task.follow id (Path.normalize p)) =
        some ∘ Path.normalize := rfl
    rw [hk, List.filterMap_eq_map]
    exact List.append_nil _

theorem diagnostics_readFile (s : Storage) (g : IncludeGraph) (id : FileId) :
    (readFile s g id).diagnostics = s.ownDiagnostics (g.pathOf id) := by
  show (g.takeIn id (s.read (g.pathOf id))).events.filterMap Event.diagnostic? = _
  rw [Storage.ownDiagnostics]
  cases s.read (g.pathOf id) with
  | error cause => rfl
  | ok text =>
    simp only [takeIn, List.filterMap_map]
    exact List.filterMap_some

/-- The storage is asked for the file once. -/
theorem reads_readFile (s : Storage) (g : IncludeGraph) (id : FileId) :
    (readFile s g id).reads = [g.pathOf id] := by
  have htaken : (g.takeIn id (s.read (g.pathOf id))).events.filterMap Event.read? = [] := by
    cases s.read (g.pathOf id) with
    | error cause => rfl
    | ok text =>
      simp only [takeIn, List.filterMap_map]
      exact List.filterMap_eq_nil_iff.mpr fun _ _ => rfl
  exact congrArg (g.pathOf id :: ·) htaken

/-- A file that gets its place is read under the key that it got it for. -/
theorem pathOf_addEdge_push (g : IncludeGraph) (includer : FileId) (key : String) :
    ((g.push key).addEdge includer ⟨g.size⟩).pathOf ⟨g.size⟩ = key := by
  rw [pathOf_eq, body?_addEdge, ← pathOf_eq, pathOf_push]

theorem reads_perform_of_lookup? (s : Storage) {includer id : FileId} {key : String}
    (h : g.lookup? key = some id) : (perform s g (.follow includer key)).reads = [] := by
  simp only [perform, h]
  rfl

theorem reads_perform_of_none (s : Storage) (includer : FileId) {key : String}
    (h : g.lookup? key = none) : (perform s g (.follow includer key)).reads = [key] := by
  simp only [perform, h]
  rw [reads_readFile, pathOf_addEdge_push]

/-- Of the storage only what a file's reading gives has a part in it. -/
theorem readFile_congr {s' : Storage} (g : IncludeGraph) (id : FileId)
    (h : ∀ key ∈ (readFile s g id).reads, s'.read key = s.read key) :
    readFile s' g id = readFile s g id := by
  have hread := h (g.pathOf id) (by rw [reads_readFile]; exact List.mem_singleton_self _)
  rw [Traced.ext_iff, value_readFile, value_readFile, events_readFile, events_readFile, hread]
  exact ⟨rfl, rfl⟩

/-- A task looks at the storage only for the file that it reads. -/
theorem perform_congr {s' : Storage} (g : IncludeGraph) (t : Task)
    (h : ∀ key ∈ (perform s g t).reads, s'.read key = s.read key) :
    perform s' g t = perform s g t := by
  cases t with
  | finish id => rfl
  | follow includer key =>
    cases hk : g.lookup? key with
    | some id => simp only [perform, hk]
    | none =>
      simp only [perform, hk] at h ⊢
      exact readFile_congr _ _ h

/-! ## What an agenda reads and reports -/

theorem reads_settle_cons (s : Storage) (g : IncludeGraph) (t : Task) (rest : List Task)
    (h : Grounded s (t :: rest)) :
    (settle s g (t :: rest) h).reads = (perform s g t).reads ++
      (settle s (perform s g t).value.1 ((perform s g t).value.2 ++ rest)
        ((grounded_perform s g t).append h.tail)).reads := by
  rw [settle, Traced.reads_after]

/-- Nothing but what is read has a part in how an agenda runs empty. -/
theorem settle_congr {s' : Storage} (g : IncludeGraph) (tasks : List Task) (h : Grounded s tasks)
    (hread : ∀ key ∈ (settle s g tasks h).reads, s'.read key = s.read key) (h' : Grounded s' tasks) :
    settle s' g tasks h' = settle s g tasks h := by
  induction g, tasks, h using settle.induct s with
  | case1 g h => rw [settle, settle]
  | case2 g t rest h _ ih =>
    rw [reads_settle_cons] at hread
    have hperform : perform s' g t = perform s g t := perform_congr g t fun key hkey =>
      hread key (List.mem_append_left _ hkey)
    rw [settle, settle]
    simp only [hperform]
    rw [ih fun key hkey => hread key (List.mem_append_right _ hkey)]

/-- A file is read itself, and then its includes are followed. -/
theorem reads_load (s : Storage) (g : IncludeGraph) (id : FileId) :
    (load s g id).reads = g.pathOf id ::
      (settle s (readFile s g id).value.1 (readFile s g id).value.2 (grounded_readFile s g id)).reads := by
  rw [load, Traced.reads_after, reads_readFile, List.singleton_append]

theorem load_congr {s' : Storage} (g : IncludeGraph) (id : FileId)
    (hread : ∀ key ∈ (load s g id).reads, s'.read key = s.read key) : load s' g id = load s g id := by
  rw [reads_load] at hread
  have hfirst : readFile s' g id = readFile s g id := readFile_congr g id fun key hkey => by
    rw [reads_readFile, List.mem_singleton] at hkey
    exact hread key (hkey ▸ List.mem_cons_self ..)
  simp only [load, hfirst]
  rw [settle_congr _ _ _ fun key hkey => hread key (List.mem_cons_of_mem _ hkey)]

theorem reads_intern_of_none (s : Storage) {path : String} (h : g.find? path = none) :
    (g.intern s path).reads = (load s (g.push (Path.normalize path)) ⟨g.size⟩).reads := by
  simp only [intern, h]
  exact congrArg (List.filterMap Event.read?) (List.append_nil _)

theorem intern_congr {s' : Storage} (g : IncludeGraph) (path : String)
    (hread : ∀ key ∈ (g.intern s path).reads, s'.read key = s.read key) :
    g.intern s' path = g.intern s path := by
  cases hp : g.find? path with
  | some id => simp only [intern, hp]
  | none =>
    rw [reads_intern_of_none s hp] at hread
    simp only [intern, hp, load_congr _ _ hread]

/-- While an agenda runs empty, what its tasks lead to is discovered: each file gets the next place, is
read and reported on. -/
theorem discovers_settle {reread : FileId → Prop} {start : IncludeGraph} {tasks : List Task}
    (h : Loading s reread start g tasks none) (hs : Grounded s tasks) :
    s.Discovers g.paths (tasks.filterMap Task.target?) (settle s g tasks hs).reads ∧
      (settle s g tasks hs).value.paths = g.paths ++ (settle s g tasks hs).reads ∧
      (settle s g tasks hs).diagnostics = (settle s g tasks hs).reads.flatMap s.ownDiagnostics := by
  induction g, tasks, hs using settle.induct s with
  | case1 g hs =>
    rw [settle]
    exact ⟨.done, (List.append_nil _).symm, rfl⟩
  | case2 g t rest hs _ ih =>
    have hrest := ih h.perform
    rw [reads_settle_cons, settle, Traced.value_after, Traced.diagnostics_after]
    cases t with
    | finish id => exact hrest
    | follow includer key =>
      cases hk : g.lookup? key with
      | some id =>
        -- The file has its place, and is not gone through again.
        have hknown : key ∈ g.paths := h.wellFormed.mem_paths.mpr (by rw [hk]; rfl)
        rw [reads_perform_of_lookup? s hk, List.nil_append]
        simp only [perform, hk, List.nil_append, paths_addEdge] at hrest ⊢
        exact ⟨.known hknown hrest.1, hrest.2⟩
      | none =>
        rw [reads_perform_of_none s includer hk, List.singleton_append]
        simp only [perform, hk, List.filterMap_append, targets_readFile, paths_readFile,
          paths_addEdge, paths_push, diagnostics_readFile, pathOf_addEdge_push] at hrest ⊢
        obtain ⟨hfound, hpaths, hdiagnostics⟩ := hrest
        refine ⟨.visit (h.wellFormed.not_mem_paths hk) hfound, ?_, ?_⟩
        · rw [hpaths, List.append_assoc]
          rfl
        · rw [hdiagnostics]
          rfl

/-! ## What was there before -/

/-- A file that was there is as it was, but for the new files that include it. -/
theorem Grows.exists_includers {g' : IncludeGraph} (h : Grows (g.size ≤ ·.index) g g')
    (hg : g.WellFormed) (hg' : g'.WellFormed) {id : FileId} {f : SourceFile}
    (hf : g.file? id = some f) :
    ∃ includers, g'.file? id = some { f with includers } ∧
      ∀ a, a ∈ includers ↔ a ∈ f.includers ∨ g.size ≤ a.index ∧ id ∈ g'.dependencies a := by
  have hid : id.index < g.size := isSome_file?.mp (by rw [hf]; rfl)
  have hbody := h.body id hid (Nat.not_le.mpr hid)
  have hdependencies := h.dependencies id hid (Nat.not_le.mpr hid)
  obtain ⟨f', hf'⟩ := Option.isSome_iff_exists.mp
    (isSome_file?.mpr (Nat.lt_of_lt_of_le hid h.size))
  rw [body?_of_file? hf, body?_of_file? hf', Option.some_inj] at hbody
  rw [dependencies_of_file? hf, dependencies_of_file? hf'] at hdependencies
  have hsame : f' = { f with includers := f'.includers } := by
    cases f
    cases f'
    cases hdependencies
    cases hbody
    rfl
  refine ⟨f'.includers, by rw [hf', ← hsame], fun a => ?_⟩
  have hincluders : g.includers id = f.includers := by rw [includers, hf]; rfl
  have hincluders' : g'.includers id = f'.includers := by rw [includers, hf']; rfl
  rw [← hincluders, ← hincluders', ← hg.symmetric, ← hg'.symmetric]
  by_cases ha : a.index < g.size
  · rw [h.dependencies a ha (Nat.not_le.mpr ha)]
    simp only [Nat.not_le.mpr ha, false_and, or_false]
  · -- A new file included nothing before.
    have hnew : g.size ≤ a.index := Nat.le_of_not_lt ha
    simp only [dependencies_of_size_le hnew, List.not_mem_nil, hnew, true_and, false_or]

/-! ## Asking for a path -/

/-- A path that had no place was asked for, and the files that were read for it were added. -/
structure Interned (s : Storage) (g : IncludeGraph) (path : String)
    (x : Traced (FileId × IncludeGraph)) : Prop where
  id : x.value.1 = ⟨g.size⟩
  found : x.value.2.find? path = some ⟨g.size⟩
  /-- The files are read in depth-first order of the include lines. -/
  order : s.Discovers g.paths [Path.normalize path] x.reads
  /-- They are those to which includes lead through files that had no place. -/
  reached : ∀ key, key ∈ x.reads ↔ s.LeadsTo g.paths (Path.normalize path) key
  /-- No file is read twice. -/
  once : x.reads.Nodup
  /-- The files got the next places, in the order of the reading. -/
  paths : x.value.2.paths = g.paths ++ x.reads
  /-- Nothing is reported but what each new file gives cause for. -/
  diagnostics : x.diagnostics = x.reads.flatMap s.ownDiagnostics
  severities : x.diagnostics.map (·.severity) = x.reads.flatMap s.ownSeverities
  calls : x.calls = []
  /-- A new file says what its text says, and lists each file that it includes once and in order. -/
  added : ∀ id f, g.size ≤ id.index → x.value.2.file? id = some f →
    Reflects s x.value.2 g.defaultVersion f ∧ f.dependencies.Nodup
  /-- A file that was there is as it was, but for the new files that include it. -/
  kept : ∀ id f, g.file? id = some f → ∃ includers,
    x.value.2.file? id = some { f with includers } ∧
      ∀ a, a ∈ includers ↔ a ∈ f.includers ∨ g.size ≤ a.index ∧ id ∈ x.value.2.dependencies a

theorem diagnostics_intern_of_none (s : Storage) {path : String} (h : g.find? path = none) :
    (g.intern s path).diagnostics =
      (load s (g.push (Path.normalize path)) ⟨g.size⟩).diagnostics := by
  simp only [intern, h]
  exact congrArg (List.filterMap Event.diagnostic?) (List.append_nil _)

theorem interned_intern (hg : g.Settled) {path : String} (h : g.find? path = none) :
    Interned s g path (g.intern s path) := by
  obtain ⟨hsettled, hgrows, hfresh, hfound⟩ := settled_intern s hg path
  have hread := ((Loading.init (s := s) hg).push h).read
  rw [List.append_nil] at hread
  obtain ⟨hbelow, hpaths, hdiagnostics⟩ := discovers_settle hread (grounded_readFile s _ _)
  rw [targets_readFile, pathOf_push, paths_readFile, paths_push] at hbelow
  rw [paths_readFile, paths_push, List.append_assoc] at hpaths
  -- The file itself is read first.
  have hreads := reads_intern_of_none s h
  rw [reads_load, pathOf_push] at hreads
  have horder : s.Discovers g.paths [Path.normalize path] (g.intern s path).reads := by
    rw [hreads]
    refine .visit (hg.not_mem_paths h) ?_
    rwa [List.append_nil]
  have hid : (g.intern s path).value.1 = ⟨g.size⟩ := by
    simp only [intern, h]
    rfl
  have hreported : (g.intern s path).diagnostics =
      (g.intern s path).reads.flatMap s.ownDiagnostics := by
    rw [diagnostics_intern_of_none s h, load, Traced.diagnostics_after, diagnostics_readFile, pathOf_push,
      hdiagnostics, hreads, List.flatMap_cons]
  refine
    { id := hid, found := by rw [hfound, hid], order := horder
      reached := fun key => ?_, once := horder.nodup, paths := ?_, diagnostics := hreported
      severities := ?_, calls := calls_intern s g path, added := fun id f hid hf => ?_
      kept := fun id f hf => hgrows.exists_includers hg.toWellFormed hsettled.toWellFormed hf }
  · rw [horder.mem_iff]
    simp only [List.mem_singleton, exists_eq_left]
  · rw [hreads]
    simp only [intern, h]
    exact hpaths
  · rw [hreported, List.map_flatMap]
    exact congrArg (List.flatMap · _) (funext s.severity_ownDiagnostics)
  · have hlast := hfresh.upToDate (body?_of_file? hf) hid
    have hreflects := hsettled.reflects_of_lastRead hf hlast
    rw [hgrows.defaultVersion] at hreflects
    refine ⟨hreflects, ?_⟩
    rw [← dependencies_of_file? hf]
    exact hsettled.nodup_dependencies id

/-- A path that has a place is answered at once: nothing is read, reported or changed.  Any other gets the
next place, and so do the files that its includes lead to through files without a place: in depth-first
order of the include lines, each read once and reported on once.  The files that were there keep what they
say, and nothing but what was read decides what becomes of the graph. -/
theorem intern_discovers (hg : Built defaultVersion g) (s : Storage) (path : String) :
    (∀ id, g.find? path = some id → g.intern s path = ⟨(id, g), []⟩) ∧
      (g.find? path = none → Interned s g path (g.intern s path)) ∧
      ∀ s' : Storage, (∀ key ∈ (g.intern s path).reads, s'.read key = s.read key) →
        g.intern s' path = g.intern s path := by
  refine ⟨fun id hid => ?_, interned_intern hg.settled.1, fun s' => intern_congr g path⟩
  simp only [intern, hid]
  rfl

/-- A file that includes two others and, once more, one of them; one of these leads back and on to a
file with two `#version` lines; the fourth include is of a file that does not exist. -/
def branching : Storage := .memory
  { texts := ⟨[("main", "#include \"a\"\n#include \"gone\"\n#include \"old\"\n#include \"./a\"\n"),
      ("a", "#include \"main\"\n#include \"b\"\n"), ("b", "#version 1\n#version 2\n"),
      ("old", "#include \"x\"\n"), ("x", "")]⟩ }

/-- One of its files had its place when it was still empty. -/
def planted : IncludeGraph :=
  (({ defaultVersion := "450" } : IncludeGraph).intern (.memory { texts := ⟨[("old", "")]⟩ })
    "old").value.2

theorem intern_discovers_branching :
    Built "450" planted ∧ planted.find? "main" = none ∧
      Interned branching planted "main" (planted.intern branching "main") ∧
      (planted.intern branching "main").reads = ["main", "a", "b", "gone"] ∧
      planted.intern branching "old" = ⟨(⟨0⟩, planted), []⟩ := by
  have hbuilt : Built "450" planted := Built.empty.load (.intern _ "old")
  have hclosed : planted.find? "main" = none ∧ planted.find? "old" = some ⟨0⟩ ∧
      (planted.intern branching "main").reads = ["main", "a", "b", "gone"] := by decide +kernel
  obtain ⟨hmain, hold, hread⟩ := hclosed
  exact ⟨hbuilt, hmain, (intern_discovers hbuilt branching "main").2.1 hmain, hread,
    (intern_discovers hbuilt branching "old").1 _ hold⟩

end IncludeGraph

end ShaderDepot
