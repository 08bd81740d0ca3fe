import ShaderDepot.Proofs.Depot.Pipelines
import ShaderDepot.Proofs.Pipeline.Binding

/-!
# The ways of binding a pipeline

Binding a pipeline may be skipped, or make its object current, or need a new object first
(`Depot.Binds`).  A pipeline that needs one and is refused it loses its old object and nothing else
(`Depot.Rebinds`), and a later attempt goes the way of a first one (`play_rebind_released`).
-/

namespace ShaderDepot

namespace Depot

open Device Journal DeviceM

variable {r r' : Depot} {j j' : Journal} {d : Device} {id : PipelineId} {p : Pipeline}

/-! ## The ways of binding a pipeline that needs a new object -/

/-- A pipeline is left without an object, or has a new one that is current. -/
inductive Rebinds (r : Depot) (id : PipelineId) (p : Pipeline) (j : Journal) :
    (Except DepotError Unit × Depot) × Journal → Prop
  | refused (fault : DeviceError)
      (hbuilt : (p.rebuild r.programs).play j = ((.error fault, p.released),
        ⟨(p.release.play j).2.device.refusePipeline, (p.release.play j).2.calls⟩)) :
    Rebinds r id p j ((.error (.device fault), r.setPipeline id p.released),
      ⟨(p.release.play j).2.device.refusePipeline, (p.release.play j).2.calls⟩)
  | bound {h : PipelineHandle} {j' : Journal}
      (hbuilt : (p.rebuild r.programs).play j = ((.ok h, p.withObject h), j')) :
    Rebinds r id p j ((.ok (), { r.setPipeline id (p.withObject h) with bound := some id }),
      j'.push (.bindPipeline h) { j'.device with bound := some h })

theorem rebinds (r : Depot) (id : PipelineId) (p : Pipeline) (j : Journal) :
    Rebinds r id p j ((r.rebind id p).play j) := by
  have he := p.ends_rebuild r.programs j
  unfold Depot.rebind
  rw [DeviceM.play_bind]
  generalize hout : (p.rebuild r.programs).play j = out at he ⊢
  cases he with
  | refused hf =>
    simp only [DeviceM.play_pure]
    exact .refused _ hout
  | made hf hh =>
    simp only [DeviceM.play_bind, DeviceM.play_pure]
    exact .bound hout

/-- After a refusal the next attempt is as good as a first one. -/
theorem play_rebind_released (r : Depot) (id : PipelineId) (p : Pipeline) (j : Journal) :
    ((r.setPipeline id p.released).rebind id p.released).play (p.release.play j).2 =
      (r.rebind id p).play j := by
  have hprograms : (r.setPipeline id p.released).programs = r.programs := rfl
  unfold Depot.rebind
  rw [DeviceM.play_bind, DeviceM.play_bind, hprograms, p.play_rebuild_released]
  generalize (p.rebuild r.programs).play j = out
  obtain ⟨⟨built, p'⟩, j'⟩ := out
  cases built <;> simp only [DeviceM.play_bind, DeviceM.play_pure, setPipeline_setPipeline]

/-! ## The ways of binding a pipeline -/

theorem InOrder.exists_handle {pending loose : List ProgramId} (h : r.InOrder j pending loose)
    (hp : r.pipeline? id = some p) (hclean : p.isDirty = false) : ∃ x, p.handle? = some x :=
  Option.isSome_iff_exists.mp (h.built id p hp hclean)

inductive Binds (r : Depot) (id : PipelineId) (j : Journal) :
    (Except DepotError Unit × Depot) × Journal → Prop
  | unknown (hp : r.pipeline? id = none) : Binds r id j ((.error (.unknownPipeline id), r), j)
  /-- The device is not bothered. -/
  | skipped {p : Pipeline} (hp : r.pipeline? id = some p) (hclean : p.isDirty = false)
      (hbound : r.bound = some id) : Binds r id j ((.ok (), r), j)
  | bound {p : Pipeline} {x : PipelineHandle} (hp : r.pipeline? id = some p)
      (hclean : p.isDirty = false) (hx : p.handle? = some x) :
    Binds r id j ((.ok (), { r with bound := some id }),
      j.push (.bindPipeline x) { j.device with bound := some x })
  | remade {p : Pipeline} {out : (Except DepotError Unit × Depot) × Journal}
      (hp : r.pipeline? id = some p) (hdirty : p.isDirty = true) (hout : Rebinds r id p j out) :
    Binds r id j out

theorem InOrder.binds (h : r.InOrder j [] []) (id : PipelineId) : Binds r id j ((r.bind id).play j) := by
  unfold Depot.bind
  cases hp : r.pipeline? id with
  | none =>
    simp only [DeviceM.play_pure]
    exact .unknown hp
  | some p =>
    simp only
    split
    · next hdirty => exact .remade hp hdirty (rebinds r id p j)
    · next hclean =>
      have hclean := Bool.eq_false_iff.mpr hclean
      split
      · next hbound =>
        simp only [DeviceM.play_pure]
        exact .skipped hp hclean hbound
      · obtain ⟨x, hx⟩ := h.exists_handle hp hclean
        simp only [hx, DeviceM.play_bind, DeviceM.play_pure]
        exact .bound hp hclean hx

theorem play_bind_of_isDirty (hp : r.pipeline? id = some p) (hdirty : p.isDirty = true) (j : Journal) :
    (r.bind id).play j = (r.rebind id p).play j := by
  unfold Depot.bind
  simp only [hp, hdirty, if_true]

end Depot

end ShaderDepot
