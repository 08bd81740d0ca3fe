import ShaderDepot.Proofs.Session.Wrapped

/-!
# What the device holds between two requests

At every moment between two requests of a session, whatever happened to the files and whatever the
device refused, the device holds what the depot would give it now, as long as no number was taken twice: the
objects of valid programs are made of the units that these programs have, and to the pipelines that are not
dirty the objects of their valid programs are attached.
-/

namespace ShaderDepot

namespace Session

open Depot Device

variable {σ : Session}

/-- As long as the requests for programs have not taken a number twice, the device holds of a valid program
the text that the graph gives now.  A program is valid exactly when the text that the graph gives links,
unless the device refused a program. -/
theorem programs_coherent (hσ : Reachable σ) (id : ProgramId) (p : Program)
    (hp : σ.depot.program? id = some p) :
    ∃ unit, (σ.depot.resolve id).value = some unit ∧
      (p.isValid = true →
        ∃ h, p.handle? = some h ∧
          (σ.device.Roomy .program → σ.device.source? h = some unit.text)) ∧
      (σ.device.refusedPrograms = 0 →
        (p.isValid = true ↔ (Compiler.compile p.key.stage unit.text).linked = true)) := by
  have h := hσ.inOrder
  have hcompiled := h.compiled id p hp List.not_mem_nil
  refine ⟨(σ.depot.resolveProgram p).value, by rw [resolve, hp]; rfl, ?_, hcompiled.isValid_iff⟩
  intro hv
  rw [← (h.owns.settled id p hp).isSome_handle?] at hv
  obtain ⟨a, ha⟩ := Option.isSome_iff_exists.mp hv
  refine ⟨a, ha, fun hroomy => ?_⟩
  rw [source?_eq, device, hcompiled.text (h.sound.numbered.distinct hroomy) a ha]
  rfl

theorem programs_coherent_sample :
    ∃ p unit, sample.depot.program? ⟨0⟩ = some p ∧ p.isValid = true ∧
      (sample.depot.resolve ⟨0⟩).value = some unit ∧
      (Compiler.compile p.key.stage unit.text).linked = true ∧
      ∃ h, p.handle? = some h ∧ sample.device.source? h = some unit.text := by
  have hclosed : (sample.depot.program? ⟨0⟩).any Program.isValid = true ∧
      sample.device.refusedPrograms = 0 ∧ sample.device.Roomy .program := by decide +kernel
  obtain ⟨hvalid, hrefused, hroomy⟩ := hclosed
  obtain ⟨p, hp, hv⟩ := (Option.any_eq_true _ _).mp hvalid
  obtain ⟨unit, hunit, htext, hlinked⟩ := programs_coherent reachable_sample ⟨0⟩ p hp
  obtain ⟨h, hh, hsource⟩ := htext hv
  exact ⟨p, unit, hp, hv, hunit, (hlinked hrefused).mp hv, h, hh, hsource hroomy⟩

/-- A number that was taken twice leads to the text of another program. -/
theorem programs_incoherent_wrappedSample :
    Reachable wrappedSample ∧ ∃ p h unit, wrappedSample.depot.program? ⟨0⟩ = some p ∧
      p.isValid = true ∧ p.handle? = some h ∧ (wrappedSample.depot.resolve ⟨0⟩).value = some unit ∧
      wrappedSample.device.source? h ≠ some unit.text := by
  obtain ⟨hafter, -, -, hobject⟩ := after_wrappedSample
  obtain ⟨hprogram, -, unit, hunit, htext⟩ := hafter.first
  refine ⟨reachable_wrappedSample, firstProgram, ⟨1⟩, unit, hprogram, rfl, rfl, hunit, ?_⟩
  rw [Device.source?, hobject, htext]
  decide +kernel

/-- A pipeline that is not dirty has an object.  As long as the requests for pipelines have not taken a
number twice, it is on the device, and at each stage the object of its valid program is attached to it, and
nothing where there is none; and if those for programs have not either, what is attached is there and
linked. -/
theorem pipelines_attached (hσ : Reachable σ) (id : PipelineId) (p : Pipeline)
    (hp : σ.depot.pipeline? id = some p) (hclean : p.isDirty = false) :
    ∃ h, p.handle? = some h ∧ (σ.device.Roomy .pipeline →
      σ.device.pipelines.contains h = true ∧
      ∀ stage, σ.device.attached? h stage =
          (((p.slots.get? stage).bind σ.depot.program?).filter (·.isValid)).bind (·.handle?) ∧
        (σ.device.Roomy .program → ∀ a, σ.device.attached? h stage = some a →
          σ.device.programs.contains a = true ∧ σ.device.isLinked a = true)) := by
  have hin := hσ.inOrder
  obtain ⟨h, hh⟩ := Option.isSome_iff_exists.mp (hin.built id p hp hclean)
  refine ⟨h, hh, fun hroomy => ?_⟩
  obtain ⟨h', o, hh', ho, hstages⟩ := hin.attached (hin.sound.numbered.distinct hroomy) id p hp hclean
    fun _ _ _ => List.not_mem_nil
  obtain rfl := Option.some.inj (hh.symm.trans hh')
  have hattached : ∀ stage, σ.device.attached? h stage = p.wanted? σ.depot.programs stage := by
    intro stage
    rw [attached?, show σ.device.pipelines.get? h = some o from ho]
    exact hstages stage
  refine ⟨?_, fun stage => ⟨?_, fun hroomy' a ha => ?_⟩⟩
  · rw [Table.contains, show σ.device.pipelines.get? h = some o from ho]
    rfl
  · rw [hattached]
    exact Program.bind_usable?_eq _
  · rw [hattached] at ha
    have hl : σ.device.isLinked a = true := 
      hin.owns.isLinked_of_wanted? (hin.sound.numbered.distinct hroomy') ha
    refine ⟨?_, hl⟩
    rw [contains_programs_eq]
    exact knows_program_of_isLinked hl

theorem pipelines_attached_sample :
    sample.depot.pipeline? ⟨0⟩ = some ⟨.compute ⟨0⟩, ⟨some ⟨1⟩, false⟩, 1⟩ ∧
      sample.device.pipelines.contains ⟨1⟩ = true ∧
      sample.device.attached? ⟨1⟩ .compute = some ⟨1⟩ ∧
      sample.device.attached? ⟨1⟩ .fragment = none ∧
      sample.device.isLinked ⟨1⟩ = true := by
  have hclosed : sample.depot.pipeline? ⟨0⟩ = some ⟨.compute ⟨0⟩, ⟨some ⟨1⟩, false⟩, 1⟩ ∧
      ((sample.depot.program? ⟨0⟩).filter (·.isValid)).bind (·.handle?) = some ⟨1⟩ ∧
      sample.device.Roomy .program ∧ sample.device.Roomy .pipeline := by decide +kernel
  obtain ⟨hp, hprogram, hprograms, hpipelines⟩ := hclosed
  obtain ⟨h, hh, hthere⟩ := pipelines_attached reachable_sample ⟨0⟩ _ hp rfl
  obtain rfl : (⟨1⟩ : PipelineHandle) = h := Option.some.inj hh
  obtain ⟨hcontains, hstages⟩ := hthere hpipelines
  have hcompute : sample.device.attached? ⟨1⟩ .compute = some ⟨1⟩ :=
    (hstages .compute).1.trans hprogram
  have hfragment : sample.device.attached? ⟨1⟩ .fragment = none := (hstages .fragment).1
  exact ⟨hp, hcontains, hcompute, hfragment, ((hstages .compute).2 hprograms ⟨1⟩ hcompute).2⟩

/-- A number that was taken twice leads to an object that is gone. -/
theorem pipelines_detached_unboundSample :
    Reachable unboundSample ∧ ∃ p h, unboundSample.depot.pipeline? ⟨0⟩ = some p ∧ p.isDirty = false ∧
      p.handle? = some h ∧ unboundSample.device.pipelines.contains h = false := by
  obtain ⟨-, hpipeline, -, -, hgone⟩ := unboundSample_lost
  refine ⟨reachable_unboundSample, firstPipeline, ⟨1⟩, hpipeline, rfl, rfl, ?_⟩
  rw [Table.contains, hgone]
  rfl

end Session

end ShaderDepot
