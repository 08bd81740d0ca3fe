import ShaderDepot.Proofs.Depot.Requests
import ShaderDepot.Proofs.Workshop

/-!
# An owner left alone

While no one else does anything, the steps of the owner come to what a session does in one step: each request
that he sets about ends, and leaves the depot and the device as the request does (`Workshop.onward_ask`).
-/

namespace ShaderDepot

open IncludeGraph

namespace Workshop

open Depot Device Journal DeviceM Relation

variable {w : Workshop} {errand : Errand}

/-- The owner comes from one state to the other while no one else does anything. -/
abbrev Onward : Workshop → Workshop → Prop := ReflTransGen fun w w' => w' = w.advance

theorem onward_advance (w : Workshop) : Onward w w.advance := .single rfl

/-! ## Loading -/

theorem onward_perform (w : Workshop) (g : IncludeGraph) (errand : Errand) (t : Task)
    (tasks : List Task) :
    Onward (w.proceed g (.loading errand none (t :: tasks)))
      (w.proceed (perform w.storage g t).value.1
        (.loading errand none ((perform w.storage g t).value.2 ++ tasks))) := by
  have hplace : Onward (w.proceed g (.loading errand none (t :: tasks)))
      (w.proceed (g.place t).1 (.loading errand (g.place t).2 tasks)) := onward_advance _
  rw [value_perform]
  cases hgap : (g.place t).2 with
  | none =>
    rw [hgap] at hplace
    exact hplace
  | some id =>
    rw [hgap] at hplace
    exact hplace.tail rfl

theorem onward_settle (w : Workshop) (g : IncludeGraph) (errand : Errand) (tasks : List Task)
    (hs : Grounded w.storage tasks) :
    Onward (w.proceed g (.loading errand none tasks))
      (w.proceed (settle w.storage g tasks hs).value (.loading errand none [])) := by
  induction g, tasks, hs using settle.induct w.storage with
  | case1 g hs =>
    rw [settle]
    exact .refl
  | case2 g t rest hs _ ih =>
    rw [settle, Traced.value_after]
    exact (onward_perform w g errand t rest).trans ih

theorem onward_load (w : Workshop) (g : IncludeGraph) (errand : Errand) (id : FileId) :
    Onward (w.proceed g (.loading errand (some id) []))
      (w.proceed (load w.storage g id).value (.loading errand none [])) := by
  have hread : Onward (w.proceed g (.loading errand (some id) []))
      (w.proceed (readFile w.storage g id).value.1
        (.loading errand none ((readFile w.storage g id).value.2 ++ []))) := onward_advance _
  rw [List.append_nil] at hread
  exact hread.trans (onward_settle w _ errand _ (grounded_readFile w.storage g id))

theorem onward_intern (w : Workshop) (path : String) (errand : FileId → Errand) :
    let found := (w.depot.graph.intern w.storage path).value
    Onward (w.intern path errand) (w.proceed found.2 (.loading (errand found.1) none [])) := by
  cases hfind : w.depot.graph.find? path with
  | some id =>
    simp only [Workshop.intern, IncludeGraph.intern, hfind]
    exact .refl
  | none =>
    simp only [Workshop.intern, IncludeGraph.intern, hfind]
    exact onward_load w _ _ _

/-! ## Updates -/

theorem onward_drain (paths got : List String) {w : Workshop} (hc : w.depot.changes = .open paths)
    (hw : w.work = .draining got) :
    Onward w { w with
      depot := { w.depot with changes := .empty }
      work := .loading (.update (ChangeQueue.distinct (got ++ paths)) []) none [] } := by
  induction paths generalizing w got with
  | nil =>
    have hempty : { w.depot with changes := ChangeQueue.empty } = w.depot := by
      rw [ChangeQueue.empty, ← hc]
    rw [List.append_nil, hempty]
    refine .single ?_
    simp only [Workshop.advance, hw, Workshop.receive, hc, ChangeQueue.receive]
  | cons path paths ih =>
    have hstep : w.advance = { w with
        depot := { w.depot with changes := .open paths }
        work := .draining (got ++ [path]) } := by
      simp only [Workshop.advance, hw, Workshop.receive, hc, ChangeQueue.receive]
    have hrest := ih (got ++ [path]) (w := w.advance) (by rw [hstep]) (by rw [hstep])
    rw [List.append_assoc, hstep] at hrest
    exact .head hstep.symm hrest

theorem onward_reloadFiles (w : Workshop) (paths : List String) (g : IncludeGraph)
    (seeds : List FileId) :
    let found := (paths.foldlM (reloadPath w.storage) (g, seeds)).value
    Onward (w.proceed g (.loading (.update paths seeds) none []))
      (w.proceed found.1 (.loading (.update [] found.2) none [])) := by
  induction paths generalizing g seeds with
  | nil => exact .refl
  | cons path paths ih =>
    simp only [List.foldlM_cons, Traced.value_bind]
    cases hfind : g.find? path with
    | none =>
      rw [value_reloadPath_of_none hfind]
      refine .head ?_ (ih g seeds)
      simp only [Workshop.advance, Workshop.proceed, Workshop.resume, hfind]
    | some id =>
      rw [value_reloadPath hfind]
      have hdrop : Onward (w.proceed g (.loading (.update (path :: paths) seeds) none []))
          (w.proceed (g.dropEdges id) (.loading (.update paths (seeds ++ [id])) (some id) [])) := by
        refine .single ?_
        simp only [Workshop.advance, Workshop.proceed, Workshop.resume, hfind]
      exact (hdrop.trans (onward_load w _ _ id)).trans (ih _ _)

theorem onward_compile (ids : List ProgramId) {w : Workshop} (hw : w.work = .compiling ids) :
    let compiled := (ids.foldlM Depot.recompile w.depot).play w.journal
    Onward w { w with depot := compiled.1, journal := compiled.2, work := .idle } := by
  induction ids generalizing w with
  | nil =>
    refine .single ?_
    simp only [Workshop.advance, hw, List.foldlM_nil, play_pure]
  | cons id ids ih =>
    have hstep : w.advance = { w with
        depot := ((w.depot.recompile id).play w.journal).1
        journal := ((w.depot.recompile id).play w.journal).2
        work := .compiling ids } := by
      simp only [Workshop.advance, hw, Workshop.recompile]
    have hrest := ih (w := w.advance) (by rw [hstep])
    simp only [hstep] at hrest
    simp only [List.foldlM_cons, play_bind]
    exact .head hstep.symm hrest

/-! ## Requests -/

/-- What an update comes to once the queue is drained. -/
theorem onward_drained (w : Workshop) (paths : List String) :
    let found := (reloadFiles w.storage w.depot.graph paths).value
    let ids := w.depot.programsFrom (found.1.includersClosure found.2)
    let compiled := (ids.foldlM Depot.recompile { w.depot with graph := found.1 }).play w.journal
    Onward { w with work := .loading (.update paths []) none [] }
      { w with depot := compiled.1, journal := compiled.2, work := .idle } := by
  intro found ids compiled
  have hloaded : Onward { w with work := .loading (.update paths []) none [] }
      (w.proceed found.1 (.loading (.update [] found.2) none [])) :=
    onward_reloadFiles w paths w.depot.graph []
  refine hloaded.trans ?_
  by_cases hseeds : found.2 = []
  · -- No file was read again, so no program is compiled.
    have hids : ids = [] := by
      show w.depot.programsFrom (found.1.includersClosure found.2) = []
      rw [hseeds, includersClosure_nil, programsFrom_nil]
    refine .single ?_
    simp only [compiled, hids, List.foldlM_nil, play_pure, Workshop.advance, Workshop.proceed,
      Workshop.resume, hseeds, List.isEmpty_nil, if_true]
  · have hcompile : Onward { w.proceed found.1 .idle with work := .compiling ids }
        { w with depot := compiled.1, journal := compiled.2, work := .idle } :=
      onward_compile ids rfl
    refine .head ?_ hcompile
    have hnot : found.2.isEmpty = false := by
      rw [Bool.eq_false_iff, ne_eq, List.isEmpty_iff]
      exact hseeds
    simp only [Workshop.advance, Workshop.proceed, Workshop.resume, hnot, Bool.false_eq_true, if_false]
    rfl

theorem onward_update (hidle : w.work = .idle) :
    Onward (w.ask .update) { w with toSession := w.toSession.step (.ask .update) } := by
  cases hempty : w.depot.changes.isEmpty with
  | true =>
    simp only [Workshop.ask, hempty, if_true, Session.step, Request.run, play_map, Depot.update,
      play_pure]
    exact .refl
  | false =>
    cases hc : w.depot.changes with
    | closed =>
      rw [hc] at hempty
      cases hempty
    | «open» paths =>
      have hask : w.ask .update = { w with work := .draining [] } := by
        simp only [Workshop.ask, hempty, Bool.false_eq_true, if_false]
      have hdrain := onward_drain paths [] (w := { w with work := .draining [] }) hc rfl
      have hdrained := onward_drained { w with depot := { w.depot with changes := .empty } }
        (ChangeQueue.distinct paths)
      have hdrains : w.depot.changes.drain = (ChangeQueue.distinct paths, .empty) := by
        rw [hc, ChangeQueue.drain]
      rw [hask]
      refine (hdrain.trans hdrained).trans ?_
      simp only [Session.step, Request.run, play_map, play_update, affected, reread, hdrains, ← hidle]
      exact .refl

theorem onward_ask (hidle : w.work = .idle) (request : Request) :
    Onward (w.ask request) { w with toSession := w.toSession.step (.ask request) } := by
  cases request with
  | update => exact onward_update hidle
  | source path =>
    refine (onward_intern w path _).tail ?_
    simp only [Session.step, Request.run, play_map, play_source, Workshop.advance, Workshop.proceed,
      Workshop.resume, ← hidle]
  | program path stage defines =>
    cases hkey : w.depot.findKey? (keyOf path stage defines) with
    | some id =>
      simp only [Workshop.ask, Session.step, Request.run, play_map, Depot.program, hkey, play_pure]
      exact .refl
    | none =>
      simp only [Workshop.ask, hkey]
      refine (onward_intern w _ _).tail ?_
      simp only [Session.step, Request.run, play_map, play_program_of_none hkey, Workshop.advance,
        Workshop.proceed, Workshop.resume, ← hidle]
  | _ => exact .refl

end Workshop

end ShaderDepot
