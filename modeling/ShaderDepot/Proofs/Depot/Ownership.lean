import ShaderDepot.Proofs.Depot.Steps

/-!
# Every object has an owner

A depot in order has its objects on the device.  The device also has no others: each object is that of
some program or pipeline, and all that carries a label is there (`Depot.Exclusive`).  So nothing is left
on the device that nobody would give back.
-/

namespace ShaderDepot

namespace Depot

open Device Journal DeviceM

variable {r r' : Depot} {j j' : Journal} {t : LabelTarget}

/-- Some program or pipeline of the depot has the object. -/
def Holds (r : Depot) : LabelTarget → Prop
  | .program h => ∃ id p, r.program? id = some p ∧ p.handle? = some h
  | .pipeline h => ∃ id p, r.pipeline? id = some p ∧ p.handle? = some h

structure Exclusive (r : Depot) (j : Journal) : Prop where
  held : ∀ t, j.Distinct t.kind → j.device.Knows t → r.Holds t
  tidy : j.device.Tidy

theorem Holds.mono (h : r.Holds t)
    (hprogram : ∀ id p, r.program? id = some p →
      ∃ p', r'.program? id = some p' ∧ p'.handle? = p.handle?)
    (hpipeline : ∀ id p, r.pipeline? id = some p →
      ∃ p', r'.pipeline? id = some p' ∧ p'.handle? = p.handle?) : r'.Holds t := by
  cases t with
  | program a =>
    obtain ⟨id, p, hp, ha⟩ := h
    obtain ⟨p', hp', he⟩ := hprogram id p hp
    exact ⟨id, p', hp', he.trans ha⟩
  | pipeline a =>
    obtain ⟨id, p, hp, ha⟩ := h
    obtain ⟨p', hp', he⟩ := hpipeline id p hp
    exact ⟨id, p', hp', he.trans ha⟩

/-- What a depot in order holds, the device has. -/
theorem InOrder.knows_of_holds {pending loose : List ProgramId} (h : r.InOrder j pending loose)
    (hd : j.Distinct t.kind) (ht : r.Holds t) : j.device.Knows t := by
  cases t with
  | program a =>
    obtain ⟨id, p, hp, ha⟩ := ht
    exact (h.owns.settled id p hp).knows hd ha
  | pipeline a =>
    obtain ⟨id, p, hp, ha⟩ := ht
    exact h.owns.known hd id p a hp ha

/-! ## Steps that make no object and take none back -/

theorem Exclusive.congr (h : r.Exclusive j) (hissues : ∀ kind, j'.issues kind = j.issues kind)
    (hknows : ∀ t, j'.device.Knows t ↔ j.device.Knows t) (hlabels : j'.device.labels = j.device.labels)
    (hholds : ∀ t, r.Holds t → r'.Holds t) : r'.Exclusive j' where
  held t hd ht := hholds t (h.held t (by rwa [Distinct, ← hissues]) ((hknows t).mp ht))
  tidy := h.tidy.congr hlabels fun t => (hknows t).mpr

theorem Exclusive.use (h : r.Exclusive j) {id : ProgramId} {p p' : Program}
    (hp : r.program? id = some p) (hu : p.Used j p' j')
    (hbeside : j'.device.besidePrograms = j.device.besidePrograms) :
    (r.setProgram id p').Exclusive j' := by
  refine h.congr hu.quiet.issues hu.quiet.same.knows_iff (congrArg Device.labels hbeside :) fun t ht =>
    ht.mono ?_ fun a q hq => ⟨q, hq, rfl⟩
  intro a q hq
  rw [program?_setProgram_of hp]
  split
  · next e =>
    subst e
    obtain rfl := Option.some.inj (hp.symm.trans hq)
    exact ⟨p', rfl, hu.handle⟩
  · exact ⟨q, hq, rfl⟩

theorem holds_addProgram (key : ProgramKey) (entry : FileId) (ht : r.Holds t) :
    (r.addProgram key entry).Holds t := by
  refine ht.mono (fun a q hq => ⟨q, ?_, rfl⟩) fun a q hq => ⟨q, hq, rfl⟩
  have hlt := lt_size_of_program? hq
  rw [program?_addProgram, if_neg, hq]
  rintro rfl
  exact Nat.lt_irrefl _ hlt

theorem holds_addPipeline (slots : StageSlots) (ht : r.Holds t) : (r.addPipeline slots).Holds t := by
  have hadd := pipeline?_addPipeline r slots
  obtain ⟨dependents, heq⟩ := addPipeline_eq r slots
  rw [heq] at hadd ⊢
  refine ht.mono (fun a q hq => ⟨q, hq, rfl⟩) fun a q hq => ⟨q, ?_, rfl⟩
  have hlt := (Array.getElem?_eq_some_iff.mp hq).1
  rw [hadd, if_neg, hq]
  rintro rfl
  exact Nat.lt_irrefl _ hlt

theorem holds_spoilDependents (id : ProgramId) (ht : r.Holds t) : (r.spoilDependents id).Holds t := by
  have hspoil := pipeline?_foldl_spoilPipeline r (r.dependentsOf id)
  unfold spoilDependents
  rw [foldl_spoilPipeline_eq] at hspoil ⊢
  refine ht.mono (fun a q hq => ⟨q, hq, rfl⟩) fun a q hq => ?_
  rw [hspoil, hq]
  split
  · exact ⟨q.spoil, rfl, rfl⟩
  · exact ⟨q, rfl, rfl⟩

/-! ## Objects made and given back -/

/-- The old object of a compiled program is gone, and the new one is its own. -/
theorem Exclusive.compile (h : r.Exclusive j) {id : ProgramId} {p p' : Program} {text : String}
    (hp : r.program? id = some p) (hnew : p.Renewed text j p' j') :
    (r.setProgram id p').Exclusive j' := by
  refine ⟨fun t hd ht => ?_, hnew.tidy h.tidy⟩
  cases t with
  | program a =>
    show ∃ b q, (r.setProgram id p').program? b = some q ∧ q.handle? = some a
    simp only [program?_setProgram_of hp]
    rw [Knows, hnew.made hd] at ht
    split at ht
    · next ha => exact ⟨id, p', if_pos rfl, ha⟩
    · split at ht
      · cases ht
      · next hne =>
        -- The object is that of another program, as before.
        obtain ⟨b, q, hq, ha⟩ := h.held (.program a) (hd.of_initial hnew.calls) ht
        refine ⟨b, q, ?_, ha⟩
        rw [if_neg, hq]
        rintro rfl
        obtain rfl := Option.some.inj (hp.symm.trans hq)
        exact hne ha
  | pipeline a =>
    rw [Knows, hnew.pipelines] at ht
    exact h.held (.pipeline a) (hd.of_initial hnew.calls) ht

/-- The old object of a pipeline made anew is gone, and the new one is its own. -/
theorem Exclusive.setPipeline (h : r.Exclusive j) {id : PipelineId} {p p' : Pipeline}
    (hp : r.pipeline? id = some p) (hcalls : j.calls <+: j'.calls) (hnew : p.Remade j p' j') :
    (r.setPipeline id p').Exclusive j' where
  held t hd ht := by
    rcases (hnew.knows t).mp ht with hown | ⟨hold, hne⟩
    · obtain ⟨a, ha, rfl⟩ := Option.map_eq_some_iff.mp hown
      exact ⟨id, p', by rw [pipeline?_setPipeline_of hp, if_pos rfl], ha⟩
    · have hheld := h.held t (hd.of_initial hcalls) hold
      cases t with
      | program a => exact hheld
      | pipeline a =>
        obtain ⟨b, q, hq, ha⟩ := hheld
        refine ⟨b, q, ?_, ha⟩
        rw [pipeline?_setPipeline_of hp, if_neg, hq]
        rintro rfl
        obtain rfl := Option.some.inj (hp.symm.trans hq)
        exact hne (by rw [ha]; rfl)
  tidy := hnew.tidy h.tidy

theorem Exclusive.rebind (h : r.Exclusive j) {id : PipelineId} {p : Pipeline}
    (hp : r.pipeline? id = some p) {out : (Except DepotError Unit × Depot) × Journal}
    (hout : Rebinds r id p j out) : out.1.2.Exclusive out.2 := by
  have hset := h.setPipeline hp (prefix_play ..) (p.remade_rebuild r.programs j)
  cases hout with
  | refused fault hbuilt =>
    rw [hbuilt] at hset
    exact hset
  | bound hbuilt =>
    rw [hbuilt] at hset
    exact hset.congr (issues_push_of_none rfl _) (fun t => by cases t <;> rfl) rfl fun t ht => by cases t <;> exact ht

/-! ## All steps -/

theorem Exclusive.step (hs : Step (r, j) (r', j')) (h : r.Exclusive j) : r'.Exclusive j' := by
  cases hs with
  | aside graph changes watched hdevice hissues =>
    refine h.congr hissues (fun _ => ?_) (congrArg Device.labels hdevice :) fun t ht => by
      cases t <;> exact ht
    rw [hdevice]
  | forget => exact h.congr (fun _ => rfl) (fun _ => Iff.rfl) rfl fun t ht => by cases t <;> exact ht
  | use hr hp hu hfixed hbeside => exact h.use hp hu hbeside
  | addProgram key entry =>
    exact h.congr (fun _ => rfl) (fun _ => Iff.rfl) rfl fun t => holds_addProgram key entry
  | compile hr hp hnew compilations failures =>
    obtain ⟨hheld, htidy⟩ := h.compile hp hnew
    exact ⟨fun t hd ht => by cases t <;> exact hheld _ hd ht, htidy⟩
  | spoil id =>
    exact h.congr (fun _ => rfl) (fun _ => Iff.rfl) rfl fun t => holds_spoilDependents id
  | addPipeline hnew =>
    exact h.congr (fun _ => rfl) (fun _ => Iff.rfl) rfl fun t => holds_addPipeline _
  | rebind hr hp hdirty hout => exact h.rebind hp hout
  | bind hp hx =>
    exact h.congr (issues_push_of_none rfl _) (fun t => by cases t <;> rfl) rfl fun t ht => by
      cases t <;> exact ht

end Depot

theorem Session.Reachable.exclusive {σ : Session} (hσ : Reachable σ) :
    σ.depot.Exclusive σ.journal := by
  refine hσ.invariant (P := Depot.Exclusive) (fun settings style => ?_) Depot.Exclusive.step
    fun r j obstacles h => ?_
  · exact ⟨fun t _ ht => (by cases t <;> cases ht), fun t ht => (nomatch ht)⟩
  · exact h.congr (fun _ => rfl) (fun t => by cases t <;> rfl) rfl fun t ht => ht

end ShaderDepot
