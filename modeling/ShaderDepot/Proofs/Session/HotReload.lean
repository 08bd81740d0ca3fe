import ShaderDepot.Proofs.Depot.UpToDate
import ShaderDepot.Proofs.IncludeGraph.Renaming

/-!
# An update is as good as a new start

A depot carries its history: files got their places in the order in which they were asked for, and
includes came and went.  None of this shows.  Once an update has taken in every change, each file is what
a scan of its text leaves, and each program has the order, the unit and the fate that it would have in a
depot that is new.
-/

namespace ShaderDepot

/-! ## Programs of two depots -/

namespace Depot

open IncludeGraph

variable {s : Storage} {r r' : Depot} {d d' : Device} {p p' : Program}

/-- The programs are compiled from the same files in the same order, to the same end. -/
structure Matches (r : Depot) (p : Program) (r' : Depot) (p' : Program) : Prop where
  order : (r'.graph.order p'.entry).value.map r'.graph.pathOf =
    (r.graph.order p.entry).value.map r.graph.pathOf
  unit : (r'.resolveProgram p').value = (r.resolveProgram p).value
  isValid : p'.isValid = p.isValid

/-- Graphs that are up to date order and resolve the files of one key alike. -/
theorem resolve_agree {g g' : IncludeGraph} (h : Agree s g g') {key : String} {entry entry' : FileId}
    (he : g.lookup? key = some entry) (he' : g'.lookup? key = some entry') :
    (g'.order entry').value.map g'.pathOf = (g.order entry).value.map g.pathOf ∧
      ∀ header defines, (g'.resolve entry' header defines).value =
        (g.resolve entry header defines).value := by
  have htwins : Twins g g' entry entry' := twins_of_lookup? h.settled.toWellFormed he he'
  have hrenaming := h.toRenaming htwins
  have hentry : g.counterpart g' entry = entry' := htwins.counterpart_eq
  have horder := order_rename hrenaming h.settled.toWellFormed (.refl g entry)
  have hresolve := resolve_rename hrenaming h.settled.toWellFormed (.refl g entry)
  rw [hentry] at horder hresolve
  refine ⟨?_, hresolve⟩
  rw [horder.1, List.map_map]
  apply List.map_congr_left
  intro a ha
  -- A file has one path in both graphs, at whatever place.
  show g'.pathOf (g.counterpart g' a) = g.pathOf a
  rw [pathOf_eq_said, pathOf_eq_said, hrenaming.said a (horder.2 a ha)]

/-- In depots that are up to date, programs of one key are compiled from the same files and text. -/
theorem unit_of_upToDate {j j' : Journal} (h : r.InOrder j [] []) (h' : r'.InOrder j' [] [])
    (hu : r.graph.UpToDate s) (hu' : r'.graph.UpToDate s) (hsettings : r'.settings = r.settings)
    {id id' : ProgramId} (hp : r.program? id = some p) (hp' : r'.program? id' = some p')
    (hkey : p'.key = p.key) :
    (r'.graph.order p'.entry).value.map r'.graph.pathOf =
        (r.graph.order p.entry).value.map r.graph.pathOf ∧
      (r'.resolveProgram p').value = (r.resolveProgram p).value := by
  have hversion : r'.graph.defaultVersion = r.graph.defaultVersion := by
    rw [h'.indexed.version, h.indexed.version, hsettings]
  have hagree : Agree s r.graph r'.graph := ⟨h.indexed.graph, h'.indexed.graph, hversion, hu, hu'⟩
  have hentry := h.indexed.entry id p hp
  have hentry' := h'.indexed.entry id' p' hp'
  rw [hkey] at hentry'
  obtain ⟨horder, hresolve⟩ := resolve_agree hagree hentry hentry'
  refine ⟨horder, ?_⟩
  show (r'.graph.resolve p'.entry r'.settings.sharedHeader p'.key.defines).value = _
  rw [hsettings, hkey]
  exact hresolve _ _

theorem matches_of_upToDate {j j' : Journal} (h : r.InOrder j [] []) (h' : r'.InOrder j' [] [])
    (hu : r.graph.UpToDate s) (hu' : r'.graph.UpToDate s) (hsettings : r'.settings = r.settings)
    (hrefused : j.device.refusedPrograms = 0) (hrefused' : j'.device.refusedPrograms = 0)
    {id id' : ProgramId} (hp : r.program? id = some p) (hp' : r'.program? id' = some p')
    (hkey : p'.key = p.key) : Matches r p r' p' := by
  obtain ⟨horder, hunit⟩ := unit_of_upToDate h h' hu hu' hsettings hp hp' hkey
  refine ⟨horder, hunit, ?_⟩
  -- Both are valid exactly when the one unit links.
  have hvalid := (h.compiled id p hp List.not_mem_nil).isValid_iff hrefused
  have hvalid' := (h'.compiled id' p' hp' List.not_mem_nil).isValid_iff hrefused'
  rw [hunit, hkey] at hvalid'
  rw [Bool.eq_iff_iff]
  exact hvalid'.trans hvalid.symm

end Depot

/-! ## Sessions -/

namespace Session

open Depot Device Journal DeviceM

variable {σ : Session}

/-- A new session in which one program has been asked for. -/
def fresh (settings : Settings) (storage : Storage) (style : LogStyle) (path : String) (stage : Stage)
    (defines : List Define) : Session :=
  (start settings storage style).step (.ask (.program path stage defines))

theorem reachable_fresh (settings : Settings) (storage : Storage) (style : LogStyle) (path : String)
    (stage : Stage) (defines : List Define) :
    Reachable (fresh settings storage style path stage defines) :=
  .step _ (.start settings storage style)

theorem findProgram?_fresh (settings : Settings) (storage : Storage) (style : LogStyle) (path : String)
    (stage : Stage) (defines : List Define) :
    ((fresh settings storage style path stage defines).depot.findProgram? path stage
      defines).isSome := by
  rw [fresh, depot_step_ask, Request.run, play_map, findProgram?_program, Option.isSome_some]

theorem asked_fresh (settings : Settings) (storage : Storage) (style : LogStyle) (path : String)
    (stage : Stage) (defines : List Define) :
    Asked storage (start settings storage style).depot
      (fresh settings storage style path stage defines).depot (start settings storage style).journal
      (fresh settings storage style path stage defines).journal := by
  have h := inOrder_start settings storage style
  have hnone : (start settings storage style).depot.findKey? (keyOf path stage defines) = none := rfl
  simp only [fresh, depot_step_ask, journal_step_ask, Request.run, play_map, storage_start]
  exact h.asked storage hnone

/-- After an update that was told of every change, every file says what the storage gives, and every
program has the order, the unit and the fate that a new session would give it. -/
theorem update_rebuilds (hσ : Reachable σ) (hnoticed : σ.depot.Noticed σ.storage)
    (hrefused : (σ.step (.ask .update)).device.refusedPrograms = 0) :
    let τ := σ.step (.ask .update)
    (∀ id f, τ.depot.graph.file? id = some f →
      τ.depot.graph.Reflects σ.storage τ.depot.settings.defaultVersion f) ∧
    ∀ id p, τ.depot.program? id = some p →
      (∃ path, keyOf path p.key.stage p.key.defines = p.key) ∧
      ∀ path style, keyOf path p.key.stage p.key.defines = p.key →
        let new := fresh τ.depot.settings σ.storage style path p.key.stage p.key.defines
        ∃ id' p', new.depot.findProgram? path p.key.stage p.key.defines = some id' ∧
          new.depot.program? id' = some p' ∧ τ.depot.Matches p new.depot p' := by
  intro τ
  have hτ : τ.depot.InOrder τ.journal [] [] := (hσ.step (.ask .update)).inOrder
  have hgraph : τ.depot.graph.UpToDate σ.storage := by
    rw [depot_step_ask, Request.run, play_map]
    exact upToDate_update hσ.inOrder hnoticed
  constructor
  · intro id f hf
    rw [← hτ.indexed.version]
    exact hτ.indexed.graph.reflects hgraph hf
  · intro id p hp
    constructor
    · obtain ⟨path, hpath⟩ := hτ.indexed.asked id p hp
      exact ⟨path, by rw [keyOf, hpath]⟩
    · intro path style hkey new
      have hnew : new.depot.InOrder new.journal [] [] := (reachable_fresh ..).inOrder
      have hasked := asked_fresh τ.depot.settings σ.storage style path p.key.stage p.key.defines
      have hfound := findProgram?_fresh τ.depot.settings σ.storage style path p.key.stage p.key.defines
      obtain ⟨id', hid'⟩ := Option.isSome_iff_exists.mp hfound
      obtain ⟨p', hp', hkey'⟩ := (hnew.indexed.keys _ _).mp hid'
      refine ⟨id', p', hid', hp', ?_⟩
      exact matches_of_upToDate hτ hnew hgraph (hasked.upToDate rfl) hasked.settings hrefused
        (hasked.granted rfl) hp hp' (hkey'.trans hkey)

theorem update_rebuilds_editedSample :
    let τ := editedSample.step (.ask .update)
    (editedSample.depot.resolve ⟨0⟩).value ≠ (τ.depot.resolve ⟨0⟩).value ∧
    (∀ id f, τ.depot.graph.file? id = some f →
      τ.depot.graph.Reflects editedSample.storage τ.depot.settings.defaultVersion f) ∧
    ∃ p, τ.depot.program? ⟨0⟩ = some p ∧ p.isValid = true ∧
      let new := fresh τ.depot.settings editedSample.storage .terse "a.comp" .compute []
      ∃ id' p', new.depot.findProgram? "a.comp" .compute [] = some id' ∧
        new.depot.program? id' = some p' ∧ τ.depot.Matches p new.depot p' := by
  intro τ
  have hclosed : editedSample.depot.Noticed editedSample.storage ∧ τ.device.refusedPrograms = 0 ∧
      (editedSample.depot.resolve ⟨0⟩).value ≠ (τ.depot.resolve ⟨0⟩).value ∧
      (τ.depot.program? ⟨0⟩).any (fun p => p.isValid && p.key = ⟨"a.comp", .compute, []⟩) = true := by
    decide +kernel
  obtain ⟨hnoticed, hrefused, hchanged, hvalid⟩ := hclosed
  obtain ⟨p, hp, hv⟩ := (Option.any_eq_true _ _).mp hvalid
  obtain ⟨hv, hkey⟩ := Bool.and_eq_true_iff.mp hv
  have hkey : p.key = ⟨"a.comp", .compute, []⟩ := of_decide_eq_true hkey
  obtain ⟨hfiles, hprograms⟩ := update_rebuilds reachable_editedSample hnoticed hrefused
  obtain ⟨-, hnew⟩ := hprograms ⟨0⟩ p hp
  rw [hkey] at hnew
  exact ⟨hchanged, hfiles, p, hp, hv, hnew "a.comp" .terse (by decide)⟩

end Session

end ShaderDepot
