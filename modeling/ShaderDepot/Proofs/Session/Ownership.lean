import ShaderDepot.Proofs.Depot.Listed
import ShaderDepot.Proofs.Depot.Ownership
import ShaderDepot.Proofs.Table

/-!
# Nothing is shared and nothing is left

In every state of a session in which no number was taken twice, the objects on the device are those of the
valid programs and those of the pipelines, each owned once, and when the depot is gone nothing is left of
them, not even a label (`objects_owned`).
-/

namespace ShaderDepot

open Device Journal DeviceM

variable {α : Type} {j : Journal}

/-! ## Giving objects back one after another -/

/-- An object was given back, and nothing is there that was not there before. -/
structure Cleared (target? : Option LabelTarget) (d d' : Device) : Prop where
  knows : ∀ t, d'.Knows t → d.Knows t ∧ target? ≠ some t
  tidy : d.Tidy → d'.Tidy

theorem cleared_dispose_program (p : Program) (j : Journal) :
    Cleared (p.handle?.map .program) j.device
      ((discard p.dispose : DeviceM PUnit).play j).2.device := by
  have hplay : ((discard p.dispose : DeviceM PUnit).play j).2 = (p.release.play j).2 := by
    simp only [Program.dispose, play_discard, play_bind, play_pure]
  rw [hplay]
  rw [Program.journal_release]
  cases p.handle? with
  | none => exact ⟨fun t ht => ⟨ht, nofun⟩, id⟩
  | some h =>
    refine ⟨fun t ht => ?_, fun ht => ht.afterDelete h⟩
    obtain ⟨hold, hne⟩ := (knows_afterDelete h t).mp ht
    exact ⟨hold, fun e => hne (Option.some.inj e)⟩

theorem cleared_dispose_pipeline (p : Pipeline) (j : Journal) :
    Cleared (p.handle?.map .pipeline) j.device
      ((discard p.dispose : DeviceM PUnit).play j).2.device := by
  have hplay : ((discard p.dispose : DeviceM PUnit).play j).2 = (p.release.play j).2 := by
    simp only [Pipeline.dispose, play_discard, play_bind, play_pure]
  rw [hplay]
  exact ⟨fun t => (Pipeline.knows_release p j t).mp, Pipeline.tidy_release p⟩

/-- After a loop none of the objects is left that it gives back. -/
theorem cleared_forM {f : α → DeviceM PUnit} {target? : α → Option LabelTarget}
    (hf : ∀ a j, Cleared (target? a) j.device ((f a).play j).2.device) (l : List α) (j : Journal) :
    (∀ t, ((l.forM f).play j).2.device.Knows t →
      j.device.Knows t ∧ ∀ a ∈ l, target? a ≠ some t) ∧
    (j.device.Tidy → ((l.forM f).play j).2.device.Tidy) := by
  induction l generalizing j with
  | nil =>
    rw [List.forM, play_pure]
    exact ⟨fun t ht => ⟨ht, List.forall_mem_nil _⟩, id⟩
  | cons a l ih =>
    rw [List.forM, play_bind]
    have hfirst := hf a j
    obtain ⟨hknows, htidy⟩ := ih ((f a).play j).2
    refine ⟨fun t ht => ?_, fun h => htidy (hfirst.tidy h)⟩
    obtain ⟨hthen, hrest⟩ := hknows t ht
    obtain ⟨hbefore, hne⟩ := hfirst.knows t hthen
    exact ⟨hbefore, List.forall_mem_cons.mpr ⟨hne, hrest⟩⟩

/-- A tidy device that knows nothing has nothing. -/
theorem Device.Tidy.empty {d : Device} (h : d.Tidy) (hnone : ∀ t, ¬d.Knows t) :
    d.programs = ∅ ∧ d.pipelines = ∅ ∧ d.labels = ∅ := by
  refine ⟨Table.eq_empty_of_get? fun a => ?_, Table.eq_empty_of_get? fun a => ?_,
    Table.eq_empty_of_get? fun t => ?_⟩
  · have hmade := Option.not_isSome_iff_eq_none.mp (hnone (.program a))
    exact Option.map_eq_none_iff.mp hmade
  · exact Option.not_isSome_iff_eq_none.mp (hnone (.pipeline a))
  · exact Option.not_isSome_iff_eq_none.mp fun ht => hnone t (h t ht)

namespace Depot

variable {r : Depot}

theorem mem_programs_of_program? {id : ProgramId} {p : Program} (hp : r.program? id = some p) :
    p ∈ r.programs.toList := Array.mem_toList_iff.mpr (Array.mem_of_getElem? hp)

theorem mem_pipelines_of_pipeline? {id : PipelineId} {p : Pipeline} (hp : r.pipeline? id = some p) :
    p ∈ r.pipelines.toList := Array.mem_toList_iff.mpr (Array.mem_of_getElem? hp)

/-- What the depot owned is gone with it, and it owned all. -/
theorem Exclusive.dispose (h : r.Exclusive j) (hd : ∀ kind, j.Distinct kind) :
    (∀ t, ¬(r.dispose.play j).2.device.Knows t) ∧ (r.dispose.play j).2.device.Tidy := by
  unfold Depot.dispose
  simp only [play_bind, play_note]
  obtain ⟨hpipelines, htidy⟩ := cleared_forM (f := fun p : Pipeline => discard p.dispose)
    cleared_dispose_pipeline r.pipelines.toList j
  obtain ⟨hprograms, htidy'⟩ := cleared_forM (f := fun p : Program => discard p.dispose)
    cleared_dispose_program r.programs.toList
    ((r.pipelines.toList.forM fun p => discard p.dispose).play j).2
  refine ⟨fun t ht => ?_, htidy' (htidy h.tidy)⟩
  obtain ⟨hleft, hnoProgram⟩ := hprograms t ht
  obtain ⟨hbefore, hnoPipeline⟩ := hpipelines t hleft
  have hheld := h.held t (hd _) hbefore
  cases t with
  | program a =>
    obtain ⟨id, p, hp, ha⟩ := hheld
    exact hnoProgram p (mem_programs_of_program? hp) (by rw [ha]; rfl)
  | pipeline a =>
    obtain ⟨id, p, hp, ha⟩ := hheld
    exact hnoPipeline p (mem_pipelines_of_pipeline? hp) (by rw [ha]; rfl)

end Depot

namespace Session

open Depot

variable {σ : Session}

/-- As long as no number was taken twice, the programs on the device are the objects of the valid programs,
the pipelines on it those of the pipelines, no two of which share one or have the same slots; no handle is
ever given out twice; and when the depot is gone, nothing is left on the device. -/
theorem objects_owned (hσ : Reachable σ) (hprograms : σ.device.Roomy .program)
    (hpipelines : σ.device.Roomy .pipeline) :
    (∀ h, σ.device.programs.contains h = true ↔
      ∃ id p, σ.depot.program? id = some p ∧ p.isValid = true ∧ p.handle? = some h) ∧
    (∀ h, σ.device.pipelines.contains h = true ↔
      ∃ id p, σ.depot.pipeline? id = some p ∧ p.handle? = some h) ∧
    (∀ a b p q h, σ.depot.program? a = some p → σ.depot.program? b = some q →
      p.handle? = some h → q.handle? = some h → a = b) ∧
    (∀ a b p q h, σ.depot.pipeline? a = some p → σ.depot.pipeline? b = some q →
      p.handle? = some h → q.handle? = some h → a = b) ∧
    (∀ a b p q, σ.depot.pipeline? a = some p → σ.depot.pipeline? b = some q →
      p.slots = q.slots → a = b ∧ p.handle? = q.handle?) ∧
    (σ.journal.calls.filterMap DeviceCall.creates?).Nodup ∧
    σ.close.device.programs = ∅ ∧ σ.close.device.pipelines = ∅ ∧ σ.close.device.labels = ∅ := by
  have hin := hσ.inOrder
  have hexclusive := hσ.exclusive
  have hd := hin.sound.numbered.distinct_all hprograms hpipelines
  obtain ⟨hnone, htidy⟩ := hexclusive.dispose hd
  refine ⟨fun h => ?_, fun h => ?_, hin.owns.apart (hd _), hin.owns.pipelinesApart (hd _), ?_,
    (hin.sound.lawful hd).nodup_creates, htidy.empty hnone⟩
  · rw [contains_programs_eq]
    constructor
    · intro hk
      obtain ⟨id, p, hp, hh⟩ := hexclusive.held (.program h) (hd _) hk
      have hv : p.handle?.isSome = p.isValid := (hin.owns.settled id p hp).isSome_handle?
      exact ⟨id, p, hp, hv.symm.trans (by rw [hh]; rfl), hh⟩
    · rintro ⟨id, p, hp, -, hh⟩
      exact hin.knows_of_holds (t := .program h) (hd _) ⟨id, p, hp, hh⟩
  · exact ⟨hexclusive.held (.pipeline h) (hd _), hin.knows_of_holds (t := .pipeline h) (hd _)⟩
  · -- Pipelines of the same slots are found in the same place.
    intro a b p q hp hq hslots
    have ha := (hσ.listed.slots p.slots a).mpr (by rw [slotsOf?, hp]; rfl)
    have hb := (hσ.listed.slots p.slots b).mpr (by rw [slotsOf?, hq, hslots]; rfl)
    obtain rfl := Option.some.inj (ha.symm.trans hb)
    obtain rfl := Option.some.inj (hp.symm.trans hq)
    exact ⟨rfl, rfl⟩

/-- The file of a bound shader becomes another, and the device makes no new program for it. -/
def refusedSample : Session :=
  sample.run [.edit (sampleFiles "#version 450\n"), .ask (.notify "a.comp"),
    .obstruct { programs := [some (.backend "lost")] }, .ask .update]

theorem objects_owned_refusedSample :
    (¬∃ id p, refusedSample.depot.program? id = some p ∧ p.isValid = true ∧ p.handle? = some ⟨1⟩) ∧
      (∃ id p, refusedSample.depot.pipeline? id = some p ∧ p.handle? = some ⟨1⟩) ∧
      refusedSample.device.labels ≠ ∅ ∧ refusedSample.close.device.programs = ∅ ∧
      refusedSample.close.device.pipelines = ∅ ∧ refusedSample.close.device.labels = ∅ := by
  have hclosed : refusedSample.device.programs.contains ⟨1⟩ = false ∧
      refusedSample.device.pipelines.contains ⟨1⟩ = true ∧ refusedSample.device.labels ≠ ∅ ∧
      refusedSample.device.Roomy .program ∧ refusedSample.device.Roomy .pipeline := by
    decide +kernel
  obtain ⟨hprogram, hpipeline, hlabels, hroomy, hroomy'⟩ := hclosed
  obtain ⟨hprograms, hpipelines, -, -, -, -, hempty⟩ :=
    objects_owned (reachable_sample.run _) hroomy hroomy'
  refine ⟨fun h => ?_, (hpipelines ⟨1⟩).mp hpipeline, hlabels, hempty⟩
  have hthere : refusedSample.device.programs.contains ⟨1⟩ = true := (hprograms ⟨1⟩).mpr h
  rw [hprogram] at hthere
  cases hthere

end Session

end ShaderDepot
