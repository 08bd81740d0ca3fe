import Mathlib.Logic.Function.Iterate
import ShaderDepot.Proofs.Session.HotReload
import ShaderDepot.Proofs.Session.Wrapped
import ShaderDepot.Proofs.Workshop.Alone
import ShaderDepot.Proofs.Workshop.Changes

/-!
# No change is lost

Whatever the writers and the owner do and in whatever order, a change that the depot has not taken in is on
its way.  So once the writers are done, one more update takes in all there is: each file says what the
storage gives, each valid program has the unit that it would have in a new depot, and its object is made of
the text of this unit as long as no number was taken twice (`Workshop.changes_arrive`).
-/

namespace ShaderDepot

namespace Depot

open IncludeGraph Device Journal

variable {s : Storage} {r : Depot} {j : Journal}

/-- What a depot says of its files, and what its device holds, is what the storage gives. -/
structure Agrees (s : Storage) (r : Depot) (d : Device) : Prop where
  lastRead : ∀ id f, r.graph.file? id = some f →
    f.lastRead.map Except.toOption = some (s.read f.path).toOption
  files : ∀ id f, r.graph.file? id = some f → r.graph.Reflects s r.settings.defaultVersion f
  /-- Some path leads to a program, and for each such path a new depot gives the unit of the program.  Unless
  the requests for programs have taken a number twice, the program's object is made of its text. -/
  programs : ∀ id p, r.program? id = some p → p.isValid = true →
    (∃ path, keyOf path p.key.stage p.key.defines = p.key) ∧
    ∃ h, p.handle? = some h ∧ ∀ path style, keyOf path p.key.stage p.key.defines = p.key →
      let new := (Session.fresh r.settings s style path p.key.stage p.key.defines).depot
      ∃ id' p', new.findProgram? path p.key.stage p.key.defines = some id' ∧
        new.program? id' = some p' ∧ (r.resolveProgram p).value = (new.resolveProgram p').value ∧
        (d.Roomy .program →
          d.made? h = some (.make p.key.stage (new.resolveProgram p').value.text))

theorem InOrder.agrees (h : r.InOrder j [] []) (hu : r.graph.UpToDate s) : r.Agrees s j.device where
  lastRead id f hf := hu id f.body (body?_of_file? hf)
  files id f hf := by
    rw [← h.indexed.version]
    exact h.indexed.graph.reflects hu hf
  programs id p hp hvalid := by
    obtain ⟨path, hpath⟩ := h.indexed.asked id p hp
    refine ⟨⟨path, by rw [keyOf, hpath]⟩, ?_⟩
    rw [← (h.owns.settled id p hp).isSome_handle?] at hvalid
    obtain ⟨x, hx⟩ := Option.isSome_iff_exists.mp hvalid
    refine ⟨x, hx, fun path style hkey => ?_⟩
    intro new
    have hnew := (Session.reachable_fresh r.settings s style path p.key.stage p.key.defines).inOrder
    have hasked := Session.asked_fresh r.settings s style path p.key.stage p.key.defines
    have hfound := Session.findProgram?_fresh r.settings s style path p.key.stage p.key.defines
    obtain ⟨id', hid'⟩ := Option.isSome_iff_exists.mp hfound
    obtain ⟨p', hp', hkey'⟩ := (hnew.indexed.keys _ _).mp hid'
    obtain ⟨-, hunit⟩ := unit_of_upToDate h hnew hu (hasked.upToDate rfl) hasked.settings hp hp'
      (hkey'.trans hkey)
    refine ⟨id', p', hid', hp', hunit.symm, fun hroomy => ?_⟩
    rw [(h.compiled id p hp List.not_mem_nil).text (h.sound.numbered.distinct hroomy) x hx, hunit]

end Depot

/-! ## Writers of a memory -/

namespace Storage

open ChangeQueue

theorem differsAt_memory {files files' : MemoryFiles} {name path : String}
    (hothers : ∀ other, other ≠ name → files'.read other = files.read other)
    (hleads : Leads path name) : (memory files).DiffersAt path (memory files') := by
  intro other hne
  by_cases hname : Path.normalize other = name
  · rwa [hname]
  · exact absurd (congrArg Except.toOption (hothers _ hname)) hne

/-- To write to a memory changes one file. -/
theorem differsAt_write (files : MemoryFiles) {name path : String} (text : String)
    (hleads : Leads path name) : (memory files).DiffersAt path (memory (files.write name text)) := by
  refine differsAt_memory (fun other hne => ?_) hleads
  simp only [MemoryFiles.read, MemoryFiles.write, Table.get?_insert, Table.get?_erase,
    if_neg (Ne.symm hne)]

theorem differsAt_remove (files : MemoryFiles) {name path : String} (hleads : Leads path name) :
    (memory files).DiffersAt path (memory (files.remove name)) := by
  refine differsAt_memory (fun other hne => ?_) hleads
  simp only [MemoryFiles.read, MemoryFiles.remove, Table.get?_erase, if_neg (Ne.symm hne)]

end Storage

namespace Workshop

open Depot Device Journal DeviceM

variable {w : Workshop}

/-- Where no writer owes a notice and the owner is idle, the queue names every file that is stale. -/
theorem Reachable.noticed (hw : Reachable w) (hidle : w.work = .idle) (howed : w.owed = []) :
    w.depot.Noticed w.storage := by
  intro id f hf hne
  cases hw.attended id ⟨f, hf, hne⟩ with
  | queued hp hfind => exact ⟨_, hp, hfind⟩
  | taken hp hfind =>
    rw [hidle] at hp
    cases hp
  | next hgap =>
    rw [hidle] at hgap
    cases hgap
  | owed hp hleads hkey =>
    rw [howed] at hp
    cases hp

/-- No change is lost: a file that says something else than the storage is named in the queue or by a path
the owner received and has still to look up, or the owner is about to read it, or a writer to tell of it.
When all writers have told and the owner is idle, one more update, done to its end, leaves every file and
every valid program in agreement with the storage, and their objects too unless the requests for programs
have taken a number twice. -/
theorem changes_arrive (hw : Reachable w) :
    (∀ id, w.Stale id → w.Awaits id) ∧
      (w.work = .idle → w.owed = [] → ∃ w', Onward (w.ask .update) w' ∧ w'.work = .idle ∧
        w'.toSession = w.toSession.step (.ask .update) ∧
        w'.depot.Agrees w.storage w'.device) := by
  refine ⟨hw.attended, fun hidle howed => ?_⟩
  have hin := hw.sound.inOrder hidle
  refine ⟨_, onward_ask hidle .update, hidle, rfl, ?_⟩
  have hin' := Session.inOrder_run (s := w.storage) hin .update
  refine hin'.agrees ?_
  rw [Request.run, play_map]
  exact upToDate_update hin (hw.noticed hidle howed)

/-! ## A change in the middle of an update -/

theorem Reachable.iterate (hw : Reachable w) (n : Nat) : Reachable (Workshop.advance^[n] w) := by
  induction n with
  | zero => exact hw
  | succ n ih =>
    rw [Function.iterate_succ_apply']
    exact ih.advance

theorem storage_advance (w : Workshop) : w.advance.storage = w.storage := by
  unfold advance
  split
  · rfl
  · unfold receive
    split <;> rfl
  · rfl
  · rfl
  · unfold resume
    split
    · rfl
    · rfl
    · simp only
      split <;> rfl
    · split <;> rfl
  · rfl
  · rfl

/-- The owner writes no files. -/
theorem storage_iterate (w : Workshop) (n : Nat) : (advance^[n] w).storage = w.storage := by
  induction n with
  | zero => rfl
  | succ n ih =>
    rw [Function.iterate_succ_apply', storage_advance]
    exact ih

def racedFiles : MemoryFiles := { texts := ⟨[("a.comp", "#version 430\n")]⟩ }

/-- A shader is compiled, its file becomes another, and the depot is told. -/
def toldSample : Workshop :=
  let compiled := advance^[3] ((start {} (.memory racedFiles) .labeled).ask
    (.program "a.comp" .compute []))
  (compiled.write (.memory (racedFiles.write "a.comp" "#version 440\n")) "./a.comp").notify "./a.comp"

/-- The update has just read the file when it becomes another once more, and the notice of this comes
only after the update. -/
def racedSample : Workshop :=
  let reread := advance^[4] (toldSample.ask .update)
  let again := (racedFiles.write "a.comp" "#version 440\n").write "a.comp" "#version 460\n"
  (advance^[4] (reread.write (.memory again) "a.comp")).notify "a.comp"

theorem reachable_toldSample : Reachable toldSample := by
  have hleads : ChangeQueue.Leads "./a.comp" "a.comp" := ChangeQueue.leads_iff.mpr (by decide +kernel)
  have hcompiled := ((Reachable.start {} (.memory racedFiles) .labeled).ask
    (.program "a.comp" .compute []) rfl).iterate 3
  refine .notify "./a.comp" (.write _ "./a.comp" ?_ hcompiled)
  rw [storage_iterate]
  exact Storage.differsAt_write racedFiles _ hleads

theorem reachable_racedSample : Reachable racedSample := by
  have hleads : ChangeQueue.Leads "a.comp" "a.comp" := ChangeQueue.leads_iff.mpr (by decide +kernel)
  have hreread := (reachable_toldSample.ask .update (by decide +kernel)).iterate 4
  have hwritten : Reachable ((advance^[4] (toldSample.ask .update)).write
      (.memory ((racedFiles.write "a.comp" "#version 440\n").write "a.comp" "#version 460\n"))
      "a.comp") := by
    refine .write _ "a.comp" ?_ hreread
    rw [storage_iterate]
    exact Storage.differsAt_write _ _ hleads
  exact .notify "a.comp" (hwritten.iterate 4)

/-- The depot has not taken in the second change, but knows of it, and the next update takes it in. -/
theorem changes_arrive_racedSample :
    racedSample.Stale ⟨0⟩ ∧ racedSample.Awaits ⟨0⟩ ∧
      ∃ w', Onward (racedSample.ask .update) w' ∧ w'.work = .idle ∧
        w'.depot.Agrees racedSample.storage w'.device ∧ w'.device.Roomy .program ∧
        ∃ p, w'.depot.program? ⟨0⟩ = some p ∧ p.isValid = true := by
  have hclosed : racedSample.work = .idle ∧ racedSample.owed = [] ∧
      ((racedSample.depot.graph.file? ⟨0⟩).any fun f =>
        decide (f.lastRead.map Except.toOption ≠
          some (racedSample.storage.read f.path).toOption)) = true ∧
      ((racedSample.toSession.step (.ask .update)).depot.program? ⟨0⟩).any (·.isValid) = true ∧
      (racedSample.toSession.step (.ask .update)).device.Roomy .program := by
    decide +kernel
  obtain ⟨hidle, howed, hstale, hvalid, hroomy⟩ := hclosed
  obtain ⟨hawaits, hupdate⟩ := changes_arrive reachable_racedSample
  obtain ⟨f, hf, hne⟩ := (Option.any_eq_true _ _).mp hstale
  have hstale : racedSample.Stale ⟨0⟩ := ⟨f, hf, of_decide_eq_true hne⟩
  obtain ⟨w', honward, hidle', hsession, hagrees⟩ := hupdate hidle howed
  rw [← hsession] at hvalid hroomy
  exact ⟨hstale, hawaits _ hstale, w', honward, hidle', hagrees, hroomy, (Option.any_eq_true _ _).mp hvalid⟩

/-! ## An update that takes a number once more -/

theorem Reachable.onward {w' : Workshop} (hw : Reachable w) (h : Onward w w') : Reachable w' := by
  induction h with
  | refl => exact hw
  | tail _ hstep ih =>
    subst hstep
    exact ih.advance

/-- What a session does when it is only asked is done in a workshop where no one writes. -/
theorem exists_of_asked (hw : Reachable w) (hidle : w.work = .idle) (howed : w.owed = [])
    (actions : List Session.Action) (hasked : ∀ action ∈ actions, ∃ request, action = .ask request) :
    ∃ w', Reachable w' ∧ w'.work = .idle ∧ w'.owed = [] ∧
      w'.toSession = w.toSession.run actions := by
  induction actions generalizing w with
  | nil => exact ⟨w, hw, hidle, howed, rfl⟩
  | cons action actions ih =>
    obtain ⟨request, rfl⟩ := hasked action List.mem_cons_self
    have hdone : Reachable { w with toSession := w.toSession.step (.ask request) } :=
      (hw.ask request hidle).onward (onward_ask hidle request)
    exact ih hdone hidle howed fun action ha => hasked action (List.mem_cons_of_mem _ ha)

theorem asked_rounds (path : String) (b : PipelineId) (n : Nat) :
    ∀ action ∈ Session.rounds path b n, ∃ request, action = .ask request := by
  induction n with
  | zero => exact nofun
  | succ n ih =>
    intro action ha
    rw [Session.rounds, List.mem_append] at ha
    rcases ha with ha | ha
    · exact ih action ha
    · simp only [Session.rumour, List.cons_append, List.nil_append, List.mem_cons, List.not_mem_nil,
        or_false] at ha
      rcases ha with rfl | rfl | rfl <;> exact ⟨_, rfl⟩

theorem asked_wornActions : ∀ action ∈ Session.wornActions, ∃ request, action = .ask request := by
  intro action ha
  rw [Session.wornActions, List.mem_append] at ha
  rcases ha with ha | ha
  · simp only [Session.twinActions, List.mem_cons, List.not_mem_nil, or_false] at ha
    rcases ha with rfl | rfl | rfl | rfl | rfl | rfl | rfl <;> exact ⟨_, rfl⟩
  · exact asked_rounds _ _ _ action ha

/-- The writers are done, but the update takes the number of the first shader's object once more, and the
object is made of the text of the other shader. -/
theorem changes_displace_wrappedSample :
    ∃ w w', Reachable w ∧ w.work = .idle ∧ w.owed = [] ∧ Onward (w.ask .update) w' ∧
      w'.work = .idle ∧ ∃ p h unit, w'.depot.program? ⟨0⟩ = some p ∧ p.isValid = true ∧
        p.handle? = some h ∧ (w'.depot.resolve ⟨0⟩).value = some unit ∧
        w'.device.source? h = some Session.secondText ∧ unit.text ≠ Session.secondText := by
  have hasked : ∀ action ∈ Session.wornActions ++ [.ask (.notify "c")],
      ∃ request, action = .ask request :=
    List.forall_mem_append.mpr ⟨asked_wornActions, List.forall_mem_singleton.mpr ⟨_, rfl⟩⟩
  obtain ⟨w, hw, hidle, howed, hworn⟩ :=
    exists_of_asked (.start {} Session.wrappingFiles .labeled) rfl rfl _ hasked
  have hstart : (start {} Session.wrappingFiles .labeled).toSession =
      Session.start {} Session.wrappingFiles .labeled := rfl
  rw [hstart, Session.run_append, Session.run_singleton] at hworn
  have hlast : w.toSession.step (.ask .update) = Session.wrappedSample := by
    rw [hworn, Session.wrappedSample_eq, Session.rumour, Session.run_cons, Session.run_singleton,
      Session.wornSample]
  obtain ⟨hafter, -, -, hobject⟩ := Session.after_wrappedSample
  obtain ⟨hprogram, -, unit, hunit, htext⟩ := hafter.first
  have hne : unit.text ≠ Session.secondText := by
    rw [htext]
    decide +kernel
  rw [← hlast] at hprogram hunit hobject
  exact ⟨w, _, hw, hidle, howed, onward_ask hidle .update, hidle, Session.firstProgram, ⟨1⟩, unit,
    hprogram, rfl, rfl, hunit, source?_of_make hobject, hne⟩

end Workshop

end ShaderDepot
