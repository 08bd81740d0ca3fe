import ShaderDepot.Proofs.Depot.Tracked
import ShaderDepot.Proofs.Session.Wrapped

/-!
# Binding a pipeline twice is binding it once

A depot does not bother the device with a pipeline that it knows to be current.  It is right in this
whatever the device refused, as long as the requests for pipelines have not taken a number twice; and where
the device refuses to make an object, nothing is lost but the object of the pipeline that was to be bound
(`bind_tracked`).
-/

namespace ShaderDepot

namespace Depot

open Device Journal DeviceM

variable {r : Depot} {j : Journal} {id : PipelineId} {out : (Except DepotError Unit × Depot) × Journal}

/-- The depot takes the pipeline for current. -/
structure Tracked (r : Depot) (id : PipelineId) : Prop where
  bound : r.bound = some id
  clean : ∃ p, r.pipeline? id = some p ∧ p.isDirty = false ∧ p.handle?.isSome

theorem Binds.tracked (hb : Binds r id j out) (hr : r.InOrder j [] []) (hok : out.1.1 = .ok ()) :
    out.1.2.Tracked id := by
  cases hb with
  | unknown hp => cases hok
  | @skipped p hp hclean hbound => exact ⟨hbound, p, hp, hclean, by
    obtain ⟨x, hx⟩ := hr.exists_handle hp hclean
    rw [hx]
    rfl⟩
  | @bound p x hp hclean hx => exact ⟨rfl, p, hp, hclean, by rw [hx]; rfl⟩
  | remade hp hdirty hout =>
    cases hout with
    | refused fault hbuilt => cases hok
    | @bound x j' hbuilt => exact ⟨rfl, _, (pipeline?_setPipeline_of hp id).trans (if_pos rfl), rfl, rfl⟩

/-- The pipeline is current and known to be. -/
structure Current (r : Depot) (d : Device) (id : PipelineId) : Prop where
  bound : r.bound = some id
  object : ∃ p h, r.pipeline? id = some p ∧ p.isDirty = false ∧ p.handle? = some h ∧ d.bound = some h

theorem Binds.current (hb : Binds r id j out) (hr : r.InOrder j [] []) (ht : r.Tracks j)
    (hd : j.Distinct .pipeline) (hok : out.1.1 = .ok ()) : out.1.2.Current out.2.device id := by
  cases hb with
  | unknown hp => cases hok
  | @skipped p hp hclean hbound =>
    obtain ⟨x, hx⟩ := hr.exists_handle hp hclean
    exact ⟨hbound, p, x, hp, hclean, hx, (ht hd id p hbound hp hclean).trans hx⟩
  | @bound p x hp hclean hx => exact ⟨rfl, p, x, hp, hclean, hx, rfl⟩
  | remade hp hdirty hout =>
    cases hout with
    | refused fault hbuilt => cases hok
    | @bound x j' hbuilt =>
      exact ⟨rfl, _, x, (pipeline?_setPipeline_of hp id).trans (if_pos rfl), rfl, rfl, rfl⟩

/-- What a refused bind leaves: the pipeline is dirty and has no object, and all else is as before.  That this
goes for the objects of the other pipelines rests on numbers that were taken once. -/
structure Refused (r : Depot) (id : PipelineId) (j : Journal) (r' : Depot) (j' : Journal) : Prop where
  depot : r' = { r with pipelines := r'.pipelines }
  programs : j'.device.programs = j.device.programs
  lost : ∃ p, r'.pipeline? id = some p ∧ p.isDirty = true ∧ p.handle? = none
  others : ∀ a, a ≠ id → r'.pipeline? a = r.pipeline? a
  objects : j.device.Roomy .pipeline → ∀ a p h, a ≠ id → r.pipeline? a = some p → p.handle? = some h →
    j'.device.pipelines.get? h = j.device.pipelines.get? h ∧
      (j.device.bound = some h → j'.device.bound = some h)

theorem InOrder.refused (hr : r.InOrder j [] []) {p : Pipeline} (hp : r.pipeline? id = some p) (hdirty : p.isDirty = true) :
    Refused r id j (r.setPipeline id p.released)
      ⟨(p.release.play j).2.device.refusePipeline, (p.release.play j).2.calls⟩ where
  depot := rfl
  programs := by
    show (p.release.play j).2.device.programs = _
    rw [Pipeline.play_release_eq]
    cases p.handle? <;> rfl
  lost := ⟨p.released, by rw [pipeline?_setPipeline_of hp, if_pos rfl], hdirty, rfl⟩
  others a ha := by rw [pipeline?_setPipeline_of hp, if_neg ha.symm]
  objects hroomy a q h ha hq hh := by
    -- The object that is given back is not that of another pipeline.
    have hne : p.handle? ≠ some h := fun hph =>
      ha (hr.owns.pipelinesApart (hr.sound.numbered.distinct hroomy) a id q p h hq hp hh hph)
    constructor
    · show (p.release.play j).2.device.pipelines.get? h = _
      rw [Pipeline.play_release_eq]
      cases hph : p.handle? with
      | none => rfl
      | some x =>
        rw [hph] at hne
        exact (Table.get?_erase ..).trans (if_neg fun e => hne (congrArg some e))
    · intro hbound
      show (p.release.play j).2.device.bound = _
      rw [Pipeline.bound_release, if_neg, hbound]
      rw [hbound]
      exact hne.symm

/-- A bind of a pipeline that is there fails only if the pipeline is dirty and the device refuses. -/
theorem InOrder.play_bind_of_error (hr : r.InOrder j [] []) (hid : (r.pipeline? id).isSome)
    {cause : DepotError} (herror : ((r.bind id).play j).1.1 = .error cause) :
    ∃ p fault, r.pipeline? id = some p ∧ p.isDirty = true ∧
      (r.bind id).play j = ((.error (.device fault), r.setPipeline id p.released),
        ⟨(p.release.play j).2.device.refusePipeline, (p.release.play j).2.calls⟩) := by
  have hb := hr.binds id
  generalize (r.bind id).play j = out at hb herror
  cases hb with
  | unknown hp =>
    rw [hp] at hid
    cases hid
  | skipped hp hclean hbound => cases herror
  | bound hp hclean hx => cases herror
  | @remade p _ hp hdirty hout =>
    cases hout with
    | refused fault hbuilt => exact ⟨p, fault, hp, hdirty, rfl⟩
    | bound hbuilt => cases herror

end Depot

/-- The journal of a device that has taken so many numbers for pipelines. -/
def Journal.counting (j : Journal) (n : Nat) : Journal :=
  ⟨{ j.device with pipelineRequests := n }, j.calls⟩

namespace Session

open Depot Device Journal DeviceM

variable {σ : Session} {id : PipelineId}

/-- The session with a device that has taken so many numbers for pipelines. -/
def counting (σ : Session) (n : Nat) : Session := { σ with journal := σ.journal.counting n }

/-! ## Another attempt -/

/-- Neither obstacles nor numbers matter to an object that is given back. -/
theorem release_obstruct_counting (p : Pipeline) (j : Journal) (n : Nat) (obstacles : Obstacles) :
    (p.release.play ((j.counting n).obstruct obstacles)).2 =
      ((p.release.play j).2.counting n).obstruct obstacles := by
  rw [Pipeline.play_release_eq, Pipeline.play_release_eq]
  cases p.handle? <;> rfl

/-- Whatever the device refuses from now on, a bind that it refused leaves no trace once the pipeline is
bound again, but that it may have taken a number. -/
theorem play_bind_again (hσ : Reachable σ) (hid : (σ.depot.pipeline? id).isSome) {cause : DepotError}
    (herror : ((σ.depot.bind id).play σ.journal).1.1 = .error cause) (obstacles : Obstacles) :
    let failed := σ.step (.ask (.bind id))
    let retry := failed.step (.obstruct obstacles)
    (retry.depot.bind id).play retry.journal =
      (σ.depot.bind id).play
        ((σ.journal.counting failed.device.pipelineRequests).obstruct obstacles) := by
  intro failed retry
  obtain ⟨p, fault, hp, hdirty, hplay⟩ := hσ.inOrder.play_bind_of_error hid herror
  have hrefused : (σ.depot.setPipeline id p.released).pipeline? id = some p.released := by
    rw [pipeline?_setPipeline_of hp, if_pos rfl]
  show (failed.depot.bind id).play (failed.journal.obstruct obstacles) = _
  rw [show failed = _ from step_bind σ id, hplay]
  -- The second attempt finds the pipeline as the first one would after its release.
  rw [play_bind_of_isDirty hrefused hdirty, play_bind_of_isDirty hp hdirty,
    ← play_rebind_released σ.depot id p, release_obstruct_counting]
  rfl

/-- The pipeline is current in both states, and they are the same up to the number of its object. -/
structure Alike (id : PipelineId) (σ τ : Session) : Prop where
  storage : τ.storage = σ.storage
  current : σ.depot.Current σ.device id ∧ τ.depot.Current τ.device id
  pipeline : (τ.depot.pipeline? id).map Pipeline.released = (σ.depot.pipeline? id).map Pipeline.released
  others : ∀ p, τ.depot.setPipeline id p = σ.depot.setPipeline id p

/-- Binds that make a new object leave the same up to its number. -/
theorem alike_bind {p : Pipeline} (hp : σ.depot.pipeline? id = some p) (hdirty : p.isDirty = true)
    {j j' : Journal} (hok : ((σ.depot.bind id).play j).1.1 = .ok ())
    (hok' : ((σ.depot.bind id).play j').1.1 = .ok ()) :
    Alike id ⟨σ.storage, ((σ.depot.bind id).play j).1.2, ((σ.depot.bind id).play j).2⟩
      ⟨σ.storage, ((σ.depot.bind id).play j').1.2, ((σ.depot.bind id).play j').2⟩ := by
  rw [play_bind_of_isDirty hp hdirty] at hok hok' ⊢
  rw [play_bind_of_isDirty hp hdirty]
  have hout := rebinds σ.depot id p j
  have hout' := rebinds σ.depot id p j'
  generalize (σ.depot.rebind id p).play j = out at hok hout ⊢
  generalize (σ.depot.rebind id p).play j' = out' at hok' hout' ⊢
  have hset : ∀ q, (σ.depot.setPipeline id q).pipeline? id = some q := fun q =>
    (pipeline?_setPipeline_of hp id).trans (if_pos rfl)
  cases hout with
  | refused fault hbuilt => cases hok
  | @bound h _ hbuilt =>
    cases hout' with
    | refused fault hbuilt' => cases hok'
    | @bound h' _ hbuilt' =>
      refine ⟨rfl, ⟨⟨rfl, _, h, hset _, rfl, rfl, rfl⟩, ⟨rfl, _, h', hset _, rfl, rfl, rfl⟩⟩, ?_,
        fun q => ?_⟩
      · exact (congrArg (Option.map Pipeline.released) (hset (p.withObject h'))).trans
          (congrArg (Option.map Pipeline.released) (hset (p.withObject h))).symm
      · have hagain : ∀ x, Depot.setPipeline
            { σ.depot.setPipeline id (p.withObject x) with bound := some id } id q =
              { σ.depot.setPipeline id q with bound := some id } := fun x =>
          congrArg (fun r : Depot => { r with bound := some id }) (setPipeline_setPipeline ..)
        exact (hagain h').trans (hagain h).symm

/-- As long as the requests for pipelines have not taken a number twice, the pipeline that the depot takes
for current is current unless it is dirty.  Binding it again does nothing, and a bind that succeeds makes its
pipeline current.  One that fails leaves all as it was but the pipeline that the device refused an object
for.  After that the next bind goes as it would have gone without the refusal on a device that has come to
the same number, and if it succeeds, it leaves what any first attempt leaves that succeeds, up to the number
of the new object. -/
theorem bind_tracked (hσ : Reachable σ) :
    (σ.device.Roomy .pipeline →
      ∀ id p, σ.depot.bound = some id → σ.depot.pipeline? id = some p → p.isDirty = false →
        p.handle?.isSome ∧ σ.device.bound = p.handle?) ∧
    ∀ id,
      let done := (σ.depot.bind id).play σ.journal
      (done.1.1 = .ok () → done.1.2.Tracked id ∧
        (σ.device.Roomy .pipeline → done.1.2.Current done.2.device id)) ∧
      (∀ p, σ.depot.bound = some id → σ.depot.pipeline? id = some p → p.isDirty = false →
        done = ((.ok (), σ.depot), σ.journal)) ∧
      (σ.depot.pipeline? id = none → done = ((.error (.unknownPipeline id), σ.depot), σ.journal)) ∧
      ∀ cause, done.1.1 = .error cause → (σ.depot.pipeline? id).isSome →
        let failed := σ.step (.ask (.bind id))
        Refused σ.depot id σ.journal failed.depot failed.journal ∧
        ∀ obstacles n,
          let retry := failed.step (.obstruct obstacles)
          let first := (σ.counting n).step (.obstruct obstacles)
          (n = failed.device.pipelineRequests →
            retry.step (.ask (.bind id)) = first.step (.ask (.bind id))) ∧
          (((retry.depot.bind id).play retry.journal).1.1 = .ok () →
            ((first.depot.bind id).play first.journal).1.1 = .ok () →
            Alike id (first.step (.ask (.bind id))) (retry.step (.ask (.bind id)))) := by
  have hin := hσ.inOrder
  have hdistinct : σ.device.Roomy .pipeline → σ.journal.Distinct .pipeline := hin.sound.numbered.distinct
  refine ⟨fun hroomy id p hbound hp hclean => ?_, fun id => ?_⟩
  · obtain ⟨x, hx⟩ := hin.exists_handle hp hclean
    exact ⟨by rw [hx]; rfl, hσ.tracks (hdistinct hroomy) id p hbound hp hclean⟩
  · intro done
    have hbinds := hin.binds id
    refine ⟨fun hok => ⟨hbinds.tracked hin hok, fun hroomy => ?_⟩, fun p hbound hp hclean => ?_,
      fun hnone => ?_, ?_⟩
    · exact hbinds.current hin hσ.tracks (hdistinct hroomy) hok
    · show (σ.depot.bind id).play σ.journal = _
      simp only [Depot.bind, hp, hclean, hbound, Bool.false_eq_true, if_false, if_true, play_pure]
    · show (σ.depot.bind id).play σ.journal = _
      simp only [Depot.bind, hnone, play_pure]
    · intro cause herror hid failed
      obtain ⟨p, fault, hp, hdirty, hplay⟩ := hin.play_bind_of_error hid herror
      refine ⟨?_, fun obstacles n => ?_⟩
      · rw [show failed = _ from step_bind σ id, hplay]
        exact hin.refused hp hdirty
      · intro retry first
        have hagain : (retry.depot.bind id).play retry.journal = _ :=
          play_bind_again hσ hid herror obstacles
        rw [step_bind, step_bind, hagain]
        refine ⟨?_, fun hok hok' => alike_bind hp hdirty hok' hok⟩
        rintro rfl
        rfl

/-- The file of a bound shader becomes another, and the device will refuse the next pipelines. -/
def lostSample : Session :=
  sample.run [.edit (sampleFiles "#version 450\n"), .ask (.notify "a.comp"), .ask .update,
    .obstruct { pipelineFault := some (.backend "lost") }]

theorem bind_tracked_lostSample :
    sample.device.bound = some ⟨1⟩ ∧
      (sample.depot.bind ⟨0⟩).play sample.journal = ((.ok (), sample.depot), sample.journal) ∧
      let failed := lostSample.step (.ask (.bind ⟨0⟩))
      failed.device.bound = none ∧
      Refused lostSample.depot ⟨0⟩ lostSample.journal failed.depot failed.journal ∧
      let retry := (failed.step (.obstruct {})).step (.ask (.bind ⟨0⟩))
      let first := (lostSample.step (.obstruct {})).step (.ask (.bind ⟨0⟩))
      retry.device.bound = some ⟨2⟩ ∧ Alike ⟨0⟩ first retry := by
  have hsample : sample.depot.bound = some ⟨0⟩ ∧ sample.device.bound = some ⟨1⟩ ∧
      (sample.depot.pipeline? ⟨0⟩).any (!·.isDirty) = true := by decide +kernel
  let retry := (lostSample.step (.ask (.bind ⟨0⟩))).step (.obstruct {})
  let first := lostSample.step (.obstruct {})
  have hlost : (lostSample.depot.pipeline? ⟨0⟩).isSome ∧
      ((lostSample.depot.bind ⟨0⟩).play lostSample.journal).1.1 = .error (.device (.backend "lost")) ∧
      (lostSample.step (.ask (.bind ⟨0⟩))).device.bound = none ∧
      ((retry.depot.bind ⟨0⟩).play retry.journal).1.1 = .ok () ∧
      (retry.step (.ask (.bind ⟨0⟩))).device.bound = some ⟨2⟩ ∧
      ((first.depot.bind ⟨0⟩).play first.journal).1.1 = .ok () := by decide +kernel
  obtain ⟨hbound, hdevice, hclean⟩ := hsample
  obtain ⟨hid, herror, hnone, hretry, hrebound, hfirst⟩ := hlost
  obtain ⟨p, hp, hclean⟩ := (Option.any_eq_true _ _).mp hclean
  obtain ⟨-, hbind⟩ := bind_tracked reachable_sample
  obtain ⟨-, hskip, -⟩ := hbind ⟨0⟩
  have hreachable : Reachable lostSample := reachable_sample.run _
  obtain ⟨-, hbind⟩ := bind_tracked hreachable
  obtain ⟨-, -, -, hfail⟩ := hbind ⟨0⟩
  obtain ⟨hrefused, hagain⟩ := hfail _ herror hid
  refine ⟨hdevice, hskip p hbound hp (by simpa using hclean), hnone, hrefused, hrebound, ?_⟩
  exact (hagain {} lostSample.device.pipelineRequests).2 hretry hfirst

/-- After a number was taken twice, the pipeline that the depot takes for current may not be. -/
theorem bind_untracked_unboundSample :
    Reachable unboundSample ∧ ∃ p, unboundSample.depot.bound = some ⟨0⟩ ∧
      unboundSample.depot.pipeline? ⟨0⟩ = some p ∧ p.isDirty = false ∧ p.handle? = some ⟨1⟩ ∧
      unboundSample.device.bound ≠ p.handle? := by
  obtain ⟨hbound, hpipeline, -, hnone, -⟩ := unboundSample_lost
  refine ⟨reachable_unboundSample, firstPipeline, hbound, hpipeline, rfl, rfl, ?_⟩
  rw [hnone]
  exact nofun

end Session

end ShaderDepot
