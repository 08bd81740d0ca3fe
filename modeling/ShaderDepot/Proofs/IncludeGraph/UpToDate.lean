import ShaderDepot.Proofs.IncludeGraph.Loading

/-!
# Graphs that are up to date

A graph is up to date with a storage when each file says what the storage gives for its path now.  Such
a graph is what a new one would be, file by file (`Reflects`), however it came about.
-/

namespace ShaderDepot.IncludeGraph

variable {s : Storage} {g g' : IncludeGraph}

/-- Every file of the graph says what the storage gives; why a file cannot be read is of no
account. -/
def UpToDate (s : Storage) (g : IncludeGraph) : Prop :=
  ∀ a f, g.body? a = some f → f.lastRead.map Except.toOption = some (s.read f.path).toOption

/-- The file is what a scan of its text leaves, or an empty file where there is no text. -/
def Reflects (s : Storage) (g : IncludeGraph) (defaultVersion : String) (f : SourceFile) : Prop :=
  match s.read f.path with
  | .error _ =>
    f.text = "" ∧ f.version = defaultVersion ∧ f.unreadable = true ∧ f.dependencies = []
  | .ok source =>
    let scanned := ScannedText.ofSource source
    f.text = scanned.text ∧ f.version = scanned.version.getD defaultVersion ∧
      f.unreadable = false ∧
      f.dependencies.map some = (scanned.includes.map g.find?).eraseDups

theorem body?_of_file? {a : FileId} {f : SourceFile} (h : g.file? a = some f) :
    g.body? a = some f.body := by
  rw [body?, h]
  rfl

theorem dependencies_of_file? {a : FileId} {f : SourceFile} (h : g.file? a = some f) :
    g.dependencies a = f.dependencies := by
  rw [dependencies, h]
  rfl

/-- A file whose last reading was what the storage gives says what a scan of it leaves. -/
theorem Settled.reflects_of_lastRead (hg : g.Settled) {a : FileId} {f : SourceFile}
    (hf : g.file? a = some f)
    (hlast : f.lastRead.map Except.toOption = some (s.read f.path).toOption) :
    Reflects s g g.defaultVersion f := by
  have hbody := body?_of_file? hf
  obtain ⟨given, hread, hgiven⟩ := hg.scanned a f.body hbody
  have hread' : f.lastRead = some given := hread
  have hedges := hg.edges a f.body hbody
  have htext : f.text = f.body.text := rfl
  have hversion : f.version = f.body.version := rfl
  have hunreadable : f.unreadable = f.body.unreadable := rfl
  rw [dependencies_of_file? hf, SourceFile.includeKeys, hread] at hedges
  rw [hread', Option.map_some, Option.some_inj] at hlast
  rw [Reflects, htext, hversion, hunreadable, hgiven]
  -- The last reading and the storage give one text, or both give none.
  cases hs : s.read f.path with
  | error cause =>
    rw [hs] at hlast
    cases given with
    | error cause' => exact ⟨rfl, rfl, rfl, List.map_eq_nil_iff.mp hedges⟩
    | ok text => cases hlast
  | ok source =>
    rw [hs] at hlast
    cases given with
    | error cause' => cases hlast
    | ok text =>
      obtain rfl : text = source := Option.some.inj hlast
      refine ⟨rfl, rfl, rfl, hedges.trans ?_⟩
      show (((ScannedText.ofSource text).includes.map Path.normalize).map g.lookup?).eraseDups = _
      rw [List.map_map]
      rfl

theorem Settled.reflects (hg : g.Settled) (hu : g.UpToDate s) {a : FileId} {f : SourceFile}
    (hf : g.file? a = some f) : Reflects s g g.defaultVersion f :=
  hg.reflects_of_lastRead hf (hu a f.body (body?_of_file? hf))

/-! ## How graphs come to be up to date -/

theorem Fresh.upToDate {reread : FileId → Prop} (h : Fresh s reread g) {a : FileId} {f : SourceFile}
    (hf : g.body? a = some f) (ha : reread a) :
    f.lastRead.map Except.toOption = some (s.read f.path).toOption := by
  rw [h a f hf ha]
  rfl

theorem upToDate_intern (s : Storage) (hg : g.Settled) (hsize : g.size = 0) (path : String) :
    (g.intern s path).value.2.UpToDate s := by
  obtain ⟨-, -, hfresh, -⟩ := settled_intern s hg path
  intro a f hf
  apply hfresh.upToDate hf
  rw [hsize]
  exact Nat.zero_le _

/-- A graph is up to date once the files that were not have been read again. -/
theorem upToDate_of_reread {reread : FileId → Prop} (hg : Grows reread g g')
    (hfresh : Fresh s reread g') (hnew : ∀ a, g.size ≤ a.index → reread a)
    (hold : ∀ a f, g.body? a = some f →
      f.lastRead.map Except.toOption ≠ some (s.read f.path).toOption → reread a) :
    g'.UpToDate s := by
  intro a f hf
  by_cases ha : reread a
  · exact hfresh.upToDate hf ha
  · have hlt : a.index < g.size := Nat.lt_of_not_le fun h => ha (hnew a h)
    -- The file is as it was, and it was up to date.
    have hbody : g.body? a = some f := by rw [← hg.body a hlt ha, hf]
    by_contra hne
    exact ha (hold a f hbody hne)

end ShaderDepot.IncludeGraph
