import ShaderDepot.Proofs.Depot.Growth
import ShaderDepot.Proofs.Workshop

/-!
# The depot of a workshop is never lost track of

In the middle of a request a depot is not in order: files are half loaded, or programs wait for their
compile.  What holds in each phase of the work is `Depot.Amid`.  Each step of the owner keeps it, whatever
the others did to the files before it, and an idle owner has his depot in order
(`Workshop.Reachable.sound`).
-/

namespace ShaderDepot

open IncludeGraph Device

/-! ## In the middle of a request -/

namespace Errand

def seeds : Errand → List FileId
  | .update _ seeds => seeds
  | .source | .program .. => []

/-- A program for which files are loaded is not there yet, and its file has its place. -/
def Due (r : Depot) : Errand → Prop
  | .program key entry => r.findKey? key = none ∧ r.graph.find? key.path = some entry ∧
      ∃ path, Path.normalize path = key.path
  | .source | .update .. => True

theorem Due.grow {r : Depot} {errand : Errand} (h : errand.Due r) {g : IncludeGraph}
    (hg : ∀ key id, r.graph.lookup? key = some id → g.lookup? key = some id) :
    errand.Due { r with graph := g } := by
  cases errand with
  | source | update todo seeds => trivial
  | program key entry =>
    obtain ⟨hkey, hfind, hpath⟩ := h
    exact ⟨hkey, hg _ _ hfind, hpath⟩

end Errand

namespace Work

def agenda : Work → List Task
  | .loading _ _ agenda => agenda
  | .idle | .draining _ | .compiling _ => []

/-- The file that is read next. -/
def gap? : Work → Option FileId
  | .loading _ gap _ => gap
  | .idle | .draining _ | .compiling _ => none

end Work

namespace Depot

open Device Journal DeviceM

variable {r : Depot} {j j' : Journal} {work : Work} {errand : Errand} {agenda : List Task}

/-- The files that have been read again since `start`, or that had no place there. -/
def Rereading (errand : Errand) (start : IncludeGraph) (a : FileId) : Prop :=
  a ∈ errand.seeds ∨ start.size ≤ a.index

/-- What holds of a depot and its device in a phase of the work.  While files are loaded, the depot would
be in order with the graph `start` from before. -/
def Amid (r : Depot) (j : Journal) : Work → Prop
  | .idle | .draining _ => r.InOrder j [] []
  | .loading errand gap agenda => ∃ start : IncludeGraph,
      InOrder { r with graph := start } j [] [] ∧
        Underway (Rereading errand start) start r.graph agenda gap ∧ errand.Due r
  | .compiling ids => r.InOrder j ids []

theorem Amid.wellFormed (h : r.Amid j work) : r.graph.WellFormed := by
  cases work with
  | idle | draining got => exact (show r.InOrder j [] [] from h).indexed.graph.toWellFormed
  | loading errand gap agenda =>
    obtain ⟨start, -, hg, -⟩ := h
    exact hg.wellFormed
  | compiling ids => exact (show r.InOrder j ids [] from h).indexed.graph.toWellFormed

theorem Amid.quiet (h : r.Amid j work) (hq : j.Sound → Quiet j j') : r.Amid j' work := by
  cases work with
  | idle | draining got =>
    have h : r.InOrder j [] [] := h
    exact h.quiet (hq h.sound)
  | loading errand gap agenda =>
    obtain ⟨start, hin, hg, hdue⟩ := h
    exact ⟨start, hin.quiet (hq hin.sound), hg, hdue⟩
  | compiling ids =>
    have h : r.InOrder j ids [] := h
    exact h.quiet (hq h.sound)

theorem Amid.setChanges (h : r.Amid j work) (changes : ChangeQueue) :
    Amid { r with changes } j work := by
  cases work with
  | idle | draining got => exact InOrder.same h rfl rfl rfl rfl rfl rfl rfl
  | loading errand gap agenda =>
    obtain ⟨start, hin, hg, hdue⟩ := h
    refine ⟨start, hin.same rfl rfl rfl rfl rfl rfl rfl, hg, ?_⟩
    cases errand <;> exact hdue
  | compiling ids => exact InOrder.same h rfl rfl rfl rfl rfl rfl rfl

/-! ## Files are looked up and loaded -/

theorem InOrder.underway (h : r.InOrder j [] []) (errand : Errand) :
    Underway (Rereading errand r.graph) r.graph r.graph [] none :=
  .init h.indexed.graph fun _ => .inr

theorem Amid.read {id : FileId} (h : r.Amid j (.loading errand (some id) agenda)) (s : Storage) :
    Amid { r with graph := (readFile s r.graph id).value.1 } j
      (.loading errand none ((readFile s r.graph id).value.2 ++ agenda)) := by
  obtain ⟨start, hin, hg, hdue⟩ := h
  refine ⟨start, hin, hg.read s, hdue.grow fun key a ha => ?_⟩
  rw [lookup?_readFile, ha]

theorem Amid.place {t : Task} (h : r.Amid j (.loading errand none (t :: agenda))) :
    Amid { r with graph := (r.graph.place t).1 } j
      (.loading errand (r.graph.place t).2 agenda) := by
  obtain ⟨start, hin, hg, hdue⟩ := h
  exact ⟨start, hin, hg.place, hdue.grow fun _ _ => lookup?_place t⟩

/-! ## Nothing is left to load -/

/-- Once all is loaded, the programs that reach a file read again have to be compiled. -/
theorem Amid.loaded (h : r.Amid j (.loading errand none [])) :
    r.InOrder j (r.programsFrom (r.graph.includersClosure errand.seeds)) [] := by
  obtain ⟨start, hin, hg, -⟩ := h
  refine hin.setGraph _ hg.settled hg.grows fun a q hq ha => ⟨List.not_mem_nil, ?_⟩
  intro b hb hreach hread
  have hseed : b ∈ errand.seeds := hread.resolve_right (Nat.not_le.mpr hb)
  have hentry : q.entry.index < r.graph.size :=
    Nat.lt_of_lt_of_le (hin.indexed.graph.lt_size_of_lookup? (hin.indexed.entry a q hq)) hg.grows.size
  have hclosure := (mem_includersClosure hg.wellFormed hentry).mpr ⟨b, hseed, hreach⟩
  exact ha (mem_programsFrom hq (hin.indexed.users a q hq) hclosure)

/-- Where no file was read again, no program has to be compiled. -/
theorem Amid.loaded_of_seeds_nil (h : r.Amid j (.loading errand none [])) (hs : errand.seeds = []) :
    r.InOrder j [] [] := by
  have hin := h.loaded
  rwa [hs, includersClosure_nil, programsFrom_nil] at hin

theorem Amid.program {key : ProgramKey} {entry : FileId}
    (h : r.Amid j (.loading (.program key entry) none [])) :
    (((r.addProgram key entry).compile ⟨r.programs.size⟩).play j).1.InOrder
      (((r.addProgram key entry).compile ⟨r.programs.size⟩).play j).2 [] [] := by
  have hin := h.loaded_of_seeds_nil rfl
  obtain ⟨-, -, -, hkey, hfind, hpath⟩ := h
  exact hin.compileNew hkey hfind hpath

theorem Amid.again {path : String} {todo : List String} {seeds : List FileId} {id : FileId}
    (h : r.Amid j (.loading (.update (path :: todo) seeds) none []))
    (hfind : r.graph.find? path = some id) :
    Amid { r with graph := r.graph.dropEdges id } j
      (.loading (.update todo (seeds ++ [id])) (some id) []) := by
  obtain ⟨start, hin, hg, -⟩ := h
  refine ⟨start, hin, hg.again ?_ (hg.wellFormed.lt_size_of_lookup? hfind) ?_, trivial⟩
  · rintro a (ha | ha)
    · exact .inl (List.mem_append_left _ ha)
    · exact .inr ha
  · exact .inl (List.mem_append_right _ (List.mem_singleton_self id))

end Depot

/-! ## What may happen -/

namespace Workshop

open Depot Device Journal DeviceM

variable {w : Workshop} {errand : Errand} {agenda : List Task}

structure Sound (w : Workshop) : Prop where
  amid : w.depot.Amid w.journal w.work
  listens : w.depot.changes ≠ .closed
  normalized : w.depot.graph.Normalized
  named : Named w.work.agenda

theorem sound_start (settings : Settings) (storage : Storage) (style : LogStyle) :
    (start settings storage style).Sound where
  amid := Session.inOrder_start settings storage style
  listens := nofun
  normalized := fun _ _ h => nomatch h
  named := named_nil

/-- An idle owner has his depot in order. -/
theorem Sound.inOrder (h : w.Sound) (hidle : w.work = .idle) : w.depot.InOrder w.journal [] [] := by
  have hamid := h.amid
  rwa [hidle] at hamid

theorem Sound.loading (h : w.Sound) {gap : Option FileId}
    (hwork : w.work = .loading errand gap agenda) :
    w.depot.Amid w.journal (.loading errand gap agenda) ∧ Named agenda := by
  have hamid := h.amid
  have hnamed := h.named
  rw [hwork] at hamid hnamed
  exact ⟨hamid, hnamed⟩

theorem Sound.write (h : w.Sound) (storage : Storage) (path : String) :
    (w.write storage path).Sound := ⟨h.amid, h.listens, h.normalized, h.named⟩

theorem notify_eq (w : Workshop) (path : String) :
    w.notify path = { w with
      depot := { w.depot with changes := (w.depot.changes.notify path).2 }
      owed := w.owed.filter (· ≠ path) } := by
  rw [Workshop.notify, Depot.notify_eq]

theorem ask_notify (w : Workshop) (path : String) :
    w.ask (.notify path) =
      { w with depot := { w.depot with changes := (w.depot.changes.notify path).2 } } := by
  rw [← Depot.notify_eq]
  simp only [Workshop.ask, Session.step, Request.run, play_pure]

theorem Sound.setChanges (h : w.Sound) (changes : ChangeQueue) (hlistens : changes ≠ .closed)
    (owed : List String) : Sound { w with depot := { w.depot with changes }, owed } :=
  ⟨h.amid.setChanges changes, hlistens, h.normalized, h.named⟩

theorem Sound.notify (h : w.Sound) (path : String) : (w.notify path).Sound := by
  rw [notify_eq]
  exact h.setChanges _ (ChangeQueue.notify_ne_closed h.listens path) _

theorem Sound.obstruct (h : w.Sound) (obstacles : Session.Obstacles) :
    Sound { w with toSession := w.toSession.step (.obstruct obstacles) } where
  amid := h.amid.quiet fun hj => Session.quiet_obstruct hj obstacles
  listens := h.listens
  normalized := h.normalized
  named := h.named

/-! ## A request -/

theorem Sound.intern (h : w.Sound) (hidle : w.work = .idle) (path : String) {errand : FileId → Errand}
    (hdue : ∀ g id, g.find? path = some id → (errand id).Due { w.depot with graph := g }) :
    (w.intern path errand).Sound := by
  have hin := h.inOrder hidle
  simp only [Workshop.intern]
  split
  · next id hfind =>
    exact ⟨⟨_, hin, hin.underway _, hdue _ id hfind⟩, h.listens, h.normalized, named_nil⟩
  · next hfind =>
    -- The file has its place now, and is found there.
    have hpushed : (w.depot.graph.push (Path.normalize path)).find? path =
        some ⟨w.depot.graph.size⟩ := by
      rw [find?, lookup?_push, if_pos rfl]
    exact ⟨⟨_, hin, (hin.underway _).push hfind, hdue _ _ hpushed⟩, h.listens,
      h.normalized.push ⟨path, rfl⟩, named_nil⟩

theorem ask_of_isAside (w : Workshop) {request : Request} (h : request.isAside = true) :
    w.ask request = { w with toSession := w.toSession.step (.ask request) } := by
  cases request with
  | source path | program path stage defines | notify path | update => cases h
  | _ => rfl

theorem Sound.ask (h : w.Sound) (hidle : w.work = .idle) (request : Request) :
    (w.ask request).Sound := by
  have hin := h.inOrder hidle
  by_cases haside : request.isAside = true
  · rw [ask_of_isAside w haside]
    have hstill := still_run haside w.storage w.depot w.journal
    refine ⟨?_, hstill.continues.listens h.listens, ?_, h.named⟩
    · rw [show Workshop.work _ = .idle from hidle]
      exact Session.inOrder_run hin request
    · exact h.normalized.congr fun key => congrArg (lookup? · key) hstill.graph
  · cases request with
    | source path => exact h.intern hidle path fun _ _ _ => trivial
    | program path stage defines =>
      simp only [Workshop.ask]
      split
      · exact h
      · next hkey => exact h.intern hidle _ fun _ _ hfind => ⟨hkey, hfind, path, rfl⟩
    | notify path =>
      rw [ask_notify]
      exact h.setChanges _ (ChangeQueue.notify_ne_closed h.listens path) w.owed
    | update =>
      simp only [Workshop.ask]
      split
      · exact h
      · exact ⟨hin, h.listens, h.normalized, named_nil⟩
    | _ => exact absurd rfl haside

/-! ## A step of the owner -/

theorem Sound.receive (h : w.Sound) {got : List String} (hwork : w.work = .draining got) :
    (w.receive got).Sound := by
  have hin : w.depot.InOrder w.journal [] [] := by
    have hamid := h.amid
    rwa [hwork] at hamid
  simp only [Workshop.receive]
  split
  · next path changes hreceive =>
    refine ⟨hin.same rfl rfl rfl rfl rfl rfl rfl, ?_, h.normalized, named_nil⟩
    show changes ≠ .closed
    rintro rfl
    cases hc : w.depot.changes with
    | «open» paths => cases paths <;> rw [hc] at hreceive <;> cases hreceive
    | closed => exact h.listens hc
  · exact ⟨⟨_, hin, hin.underway _, trivial⟩, h.listens, h.normalized, named_nil⟩

theorem Sound.read (h : w.Sound) {id : FileId} (hwork : w.work = .loading errand (some id) agenda) :
    (w.read errand id agenda).Sound := by
  obtain ⟨hamid, hnamed⟩ := h.loading hwork
  exact ⟨hamid.read w.storage, h.listens, h.normalized.congr fun _ => lookup?_readFile ..,
    hnamed.readFile w.storage w.depot.graph id⟩

theorem Sound.place (h : w.Sound) {task : Task} (hwork : w.work = .loading errand none (task :: agenda)) :
    (w.place errand task agenda).Sound := by
  obtain ⟨hamid, hnamed⟩ := h.loading hwork
  exact ⟨hamid.place, h.listens, h.normalized.place hnamed, hnamed.tail⟩

theorem Sound.resume (h : w.Sound) (hwork : w.work = .loading errand none []) :
    (w.resume errand).Sound := by
  obtain ⟨hamid, -⟩ := h.loading hwork
  cases errand with
  | source => exact ⟨hamid.loaded_of_seeds_nil rfl, h.listens, h.normalized, named_nil⟩
  | program key entry =>
    have hstill := still_compile (w.depot.addProgram key entry) ⟨w.depot.programs.size⟩ w.journal
    refine ⟨hamid.program, ?_, ?_, named_nil⟩
    · exact hstill.continues.listens h.listens
    · exact h.normalized.congr fun key => congrArg (lookup? · key) hstill.graph
  | update todo seeds =>
    cases todo with
    | nil =>
      simp only [Workshop.resume]
      split
      · next hseeds =>
        have hin := hamid.loaded_of_seeds_nil (List.isEmpty_iff.mp hseeds)
        exact ⟨hin, h.listens, h.normalized, named_nil⟩
      · exact ⟨hamid.loaded, h.listens, h.normalized, named_nil⟩
    | cons path todo =>
      simp only [Workshop.resume]
      split
      · next id hfind =>
        exact ⟨hamid.again hfind, h.listens, h.normalized.congr fun _ => lookup?_dropEdges ..,
          named_nil⟩
      · obtain ⟨start, hin, hg, -⟩ := hamid
        exact ⟨⟨start, hin, hg, trivial⟩, h.listens, h.normalized, named_nil⟩

theorem Sound.recompile (h : w.Sound) {id : ProgramId} {ids : List ProgramId}
    (hwork : w.work = .compiling (id :: ids)) : (w.recompile id ids).Sound := by
  have hin : w.depot.InOrder w.journal (id :: ids) [] := by
    have hamid := h.amid
    rwa [hwork] at hamid
  have hstill := still_recompile w.depot id w.journal
  refine ⟨hin.recompile, hstill.continues.listens h.listens, ?_, named_nil⟩
  exact h.normalized.congr fun key => congrArg (lookup? · key) hstill.graph

theorem Sound.advance (h : w.Sound) : w.advance.Sound := by
  unfold Workshop.advance
  split
  · exact h
  · next hwork => exact h.receive hwork
  · next hwork => exact h.read hwork
  · next hwork => exact h.place hwork
  · next hwork => exact h.resume hwork
  · next hwork => exact h.recompile hwork
  · next hwork =>
    have hamid := h.amid
    rw [hwork] at hamid
    exact ⟨hamid, h.listens, h.normalized, named_nil⟩

/-- In every reachable state the depot is in order but for the work that its owner is about. -/
theorem Reachable.sound (hw : Reachable w) : w.Sound := by
  induction hw with
  | start settings storage style => exact sound_start settings storage style
  | write storage path _ _ ih => exact ih.write storage path
  | notify path _ ih => exact ih.notify path
  | obstruct obstacles _ ih => exact ih.obstruct obstacles
  | ask request hidle _ ih => exact ih.ask hidle request
  | advance _ ih => exact ih.advance

end Workshop

end ShaderDepot
