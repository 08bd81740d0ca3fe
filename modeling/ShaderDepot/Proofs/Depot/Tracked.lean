import ShaderDepot.Proofs.Depot.Steps

/-!
# The pipeline that is known to be current

A depot remembers which pipeline it bound last.  If that pipeline is not dirty, its object is the one that
is current on the device (`Session.Reachable.tracks`), so binding it again may be skipped.
-/

namespace ShaderDepot

namespace Depot

open Device Journal DeviceM

variable {r r' : Depot} {j j' : Journal} {d : Device} {id : PipelineId} {p : Pipeline}

/-- The pipeline that the depot takes for current is, unless it is dirty, while the numbers of pipelines
are distinct. -/
def Tracks (r : Depot) (j : Journal) : Prop := j.Distinct .pipeline →
  ∀ id p, r.bound = some id → r.pipeline? id = some p → p.isDirty = false →
    j.device.bound = p.handle?

theorem Tracks.refused (h : r.Tracks j) (hr : r.InOrder j [] []) (hp : r.pipeline? id = some p)
    (hdirty : p.isDirty = true) :
    (r.setPipeline id p.released).Tracks (p.release.play j).2 := by
  intro hd a q hbound hq hclean
  rw [pipeline?_setPipeline_of hp] at hq
  split at hq
  · -- The pipeline that was refused an object is as dirty as it was.
    obtain rfl := Option.some.inj hq
    rw [show p.released.isDirty = p.isDirty from rfl, hdirty] at hclean
    cases hclean
  · next hne =>
    obtain ⟨x, hx⟩ := hr.exists_handle hq hclean
    have hd := hd.of_initial (prefix_play ..)
    have htracked := h hd a q hbound hq hclean
    rw [Pipeline.bound_release, htracked, if_neg]
    rw [hx]
    exact fun hpx => hne (hr.owns.pipelinesApart hd id a p q x hp hq hpx.symm hx)

theorem Tracks.rebind (h : r.Tracks j) (hr : r.InOrder j [] []) (hp : r.pipeline? id = some p)
    (hdirty : p.isDirty = true) {out : (Except DepotError Unit × Depot) × Journal}
    (hout : Rebinds r id p j out) : out.1.2.Tracks out.2 := by
  cases hout with
  | refused fault hbuilt => exact h.refused hr hp hdirty
  | @bound x j' hbuilt =>
    intro _ a q hbound hq hclean
    obtain rfl : id = a := Option.some.inj hbound
    have hset : (r.setPipeline id (p.withObject x)).pipeline? id = some q := hq
    rw [pipeline?_setPipeline_of hp, if_pos rfl] at hset
    obtain rfl := Option.some.inj hset
    rfl

theorem Tracks.step (hs : Step (r, j) (r', j')) (h : r.Tracks j) : r'.Tracks j' := by
  cases hs with
  | aside graph changes watched hdevice hissues =>
    rw [Tracks, Distinct, hdevice, hissues]
    exact h
  | forget =>
    intro _ a q hbound
    cases hbound
  | use hr hp hu hfixed hbeside =>
    have hbound : j'.device.bound = j.device.bound := (congrArg Device.bound hbeside :)
    intro hd a q ha hq hclean
    rw [hbound]
    exact h (hd.of_initial hu.quiet.calls) a q ha hq hclean
  | addProgram key entry => exact h
  | compile hr hp hnew compilations failures =>
    intro hd a q ha hq hclean
    rw [hnew.bound]
    exact h (hd.of_initial hnew.calls) a q ha hq hclean
  | spoil id =>
    have hold := fun a q' => @pipeline?_spoilDependents r a q' id
    unfold spoilDependents at hold ⊢
    rw [foldl_spoilPipeline_eq] at hold ⊢
    intro hd a q' ha hq' hclean
    obtain ⟨q, hq, -, hhandle, hwas⟩ := hold a q' hq'
    rw [hhandle]
    exact h hd a q ha hq (hwas hclean).1
  | @addPipeline _ _ slots hnew =>
    have hadd := pipeline?_addPipeline r slots
    obtain ⟨dependents, heq⟩ := addPipeline_eq r slots
    rw [heq] at hadd ⊢
    intro hd a q ha hq hclean
    rw [hadd] at hq
    split at hq
    · obtain rfl := Option.some.inj hq
      cases hclean
    · exact h hd a q ha hq hclean
  | rebind hr hp hdirty hout => exact h.rebind hr hp hdirty hout
  | bind hp hx =>
    intro _ a q ha hq hclean
    obtain rfl := Option.some.inj ha
    obtain rfl := Option.some.inj (hp.symm.trans hq)
    exact hx.symm

end Depot

theorem Session.Reachable.tracks {σ : Session} (hσ : Reachable σ) :
    σ.depot.Tracks σ.journal :=
  hσ.invariant (P := Depot.Tracks) (fun _ _ _ _ _ hbound => nomatch hbound) Depot.Tracks.step
    fun _ _ _ h => h

end ShaderDepot
