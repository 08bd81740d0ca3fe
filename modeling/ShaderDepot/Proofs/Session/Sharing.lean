import ShaderDepot.Proofs.Depot.Filed
import ShaderDepot.Proofs.Depot.UpToDate

/-!
# Equal requests share

Of a depot that is asked twice for a program, whatever happens in between, the answers are the same
exactly when the requests have the same key; and likewise for pipelines and their slots.  A request that
is answered from the books, or that fails, leaves no trace (`Session.requests_shared`).
-/

namespace ShaderDepot

namespace Depot

open Device Journal DeviceM

variable {r : Depot} {j : Journal}

theorem keyOf_inj {path path' : String} {stage stage' : Stage} {defines defines' : List Define} :
    keyOf path stage defines = keyOf path' stage' defines' ↔
      Path.normalize path = Path.normalize path' ∧ stage = stage' ∧ defines = defines' := by
  rw [keyOf, keyOf, ProgramKey.mk.injEq]

/-! ## Programs -/

theorem Indexed.findKey?_eq_some_iff (h : r.Indexed) {key : ProgramKey} {id : ProgramId} :
    r.findKey? key = some id ↔ r.keyOf? id = some key := by
  rw [keyOf?, Option.map_eq_some_iff]
  exact h.keys key id

/-- A program that is found is given as it is, and there is nothing to do for it. -/
theorem program_of_findProgram? {path : String} {stage : Stage} {defines : List Define}
    {id : ProgramId} (h : r.findProgram? path stage defines = some id) (s : Storage) :
    r.program s path stage defines = pure (id, r) := by
  have h : r.findKey? (keyOf path stage defines) = some id := h
  unfold Depot.program
  simp only [h]

/-- The answer to a request has the key of the request. -/
theorem InOrder.keyOf?_program (h : r.InOrder j [] []) (s : Storage) (path : String) (stage : Stage)
    (defines : List Define) :
    ((r.program s path stage defines).play j).1.2.keyOf?
      ((r.program s path stage defines).play j).1.1 = some (keyOf path stage defines) :=
  (h.program s path stage defines).indexed.findKey?_eq_some_iff.mp
    (findProgram?_program s r path stage defines j)

/-! ## Pipelines -/

theorem pipeline_of_fits {slots : StageSlots} {id : PipelineId} (hfits : r.Fits slots)
    (h : r.findSlots? slots = some id) : r.pipeline slots = pure (.ok id, r) := by
  unfold Depot.pipeline
  simp only [fits_iff.mp hfits, h]

theorem pipeline_of_error {slots : StageSlots} {fault : DepotError}
    (h : (r.pipeline slots).value.1 = .error fault) :
    r.pipeline slots = pure (.error fault, r) := by
  unfold Depot.pipeline at h ⊢
  cases hfault : r.slotFault? slots with
  | some cause =>
    simp only [hfault] at h ⊢
    obtain rfl : cause = fault := Except.error.inj h
    rfl
  | none =>
    -- Slots that have no fault are answered.
    simp only [hfault] at h
    cases hfind : r.findSlots? slots <;> simp only [hfind] at h <;> cases h

/-- The answer to a request has the slots of the request. -/
theorem slotsOf?_pipeline (hl : r.Listed) {slots : StageSlots} {id : PipelineId}
    (h : (r.pipeline slots).value.1 = .ok id) :
    (r.pipeline slots).value.2.slotsOf? id = some slots := by
  unfold Depot.pipeline at h ⊢
  cases hfault : r.slotFault? slots with
  | some cause =>
    simp only [hfault] at h
    cases h
  | none =>
    simp only [hfault] at h ⊢
    cases hfind : r.findSlots? slots with
    | some a =>
      simp only [hfind] at h ⊢
      obtain rfl : a = id := Except.ok.inj h
      exact (hl.slots slots a).mp hfind
    | none =>
      simp only [hfind] at h ⊢
      obtain rfl : ⟨r.pipelines.size⟩ = id := Except.ok.inj h
      exact (slotsOf?_addPipeline r slots _).trans (if_pos rfl)

end Depot

/-! ## Sessions -/

namespace Session

open Depot Device Journal DeviceM

/-- The answer to a request for a program. -/
def programId (σ : Session) (path : String) (stage : Stage) (defines : List Define) : ProgramId :=
  ((σ.depot.program σ.storage path stage defines).play σ.journal).1.1

/-- The answer to a request for a pipeline. -/
def pipelineId (σ : Session) (slots : StageSlots) : Except DepotError PipelineId :=
  (σ.depot.pipeline slots).value.1

variable {σ : Session}

/-- How a request for a program goes with one that comes later. -/
structure SharesPrograms (σ : Session) : Prop where
  same_iff : ∀ path stage defines path' stage' defines' actions,
    σ.programId path stage defines =
        ((σ.step (.ask (.program path stage defines))).run actions).programId path' stage' defines' ↔
      Path.normalize path = Path.normalize path' ∧ stage = stage' ∧ defines = defines'
  /-- A program that was asked for is found by each request of its key. -/
  found : ∀ path stage defines path' actions, Path.normalize path = Path.normalize path' →
    ((σ.step (.ask (.program path stage defines))).run actions).depot.findProgram? path' stage
      defines = some (σ.programId path stage defines)
  /-- A request whose program is found neither changes the depot nor says or does anything. -/
  traceless : ∀ path stage defines id, σ.depot.findProgram? path stage defines = some id →
    ∀ s, σ.depot.program s path stage defines = pure (id, σ.depot)

/-- How a request for a pipeline goes with one that comes later. -/
structure SharesPipelines (σ : Session) : Prop where
  same_iff : ∀ slots slots' actions a b, σ.pipelineId slots = .ok a →
    ((σ.step (.ask (.pipeline slots))).run actions).pipelineId slots' = .ok b →
    (a = b ↔ ∀ stage, slots.get? stage = slots'.get? stage)
  /-- Of slots that programs were put in one after the other, the last program of each stage counts. -/
  placed_iff : ∀ placements placements' actions a b,
    σ.pipelineId (.ofList placements) = .ok a →
    ((σ.step (.ask (.pipeline (.ofList placements)))).run actions).pipelineId (.ofList placements') =
      .ok b →
    (a = b ↔ ∀ stage, placements.reverse.lookup stage = placements'.reverse.lookup stage)
  /-- A pipeline that was asked for is found by each request of its slots. -/
  found : ∀ slots actions a, σ.pipelineId slots = .ok a →
    ((σ.step (.ask (.pipeline slots))).run actions).depot.findSlots? slots = some a
  /-- A request whose pipeline is found, or that fails, changes nothing and says nothing. -/
  traceless : ∀ slots, (∀ id, σ.depot.findSlots? slots = some id →
      σ.depot.pipeline slots = pure (.ok id, σ.depot)) ∧
    ∀ fault, σ.pipelineId slots = .error fault →
      σ.depot.pipeline slots = pure (.error fault, σ.depot)

theorem Reachable.keyOf?_programId (hσ : Reachable σ) (path : String) (stage : Stage)
    (defines : List Define) (actions : List Action) :
    ((σ.step (.ask (.program path stage defines))).run actions).depot.keyOf?
      (σ.programId path stage defines) = some (keyOf path stage defines) := by
  apply (hσ.step (.ask (.program path stage defines))).lasting
    (P := fun r => r.keyOf? (σ.programId path stage defines) = some (keyOf path stage defines))
    fun hs hr => hs.keyOf? hr
  rw [depot_step_ask, Request.run, play_map]
  exact hσ.inOrder.keyOf?_program σ.storage path stage defines

theorem Reachable.slotsOf?_pipelineId (hσ : Reachable σ) {slots : StageSlots} {id : PipelineId}
    (h : σ.pipelineId slots = .ok id) (actions : List Action) :
    ((σ.step (.ask (.pipeline slots))).run actions).depot.slotsOf? id = some slots := by
  apply (hσ.step (.ask (.pipeline slots))).lasting (P := fun r => r.slotsOf? id = some slots)
    fun hs hr => hs.slotsOf? hr
  rw [depot_step_ask, Request.run, play_map, play_ofTraced (calls_pipeline σ.depot slots)]
  exact slotsOf?_pipeline hσ.listed h

theorem Reachable.sharesPrograms (hσ : Reachable σ) : σ.SharesPrograms := by
  have hfound : ∀ path stage defines path' actions, Path.normalize path = Path.normalize path' →
      ((σ.step (.ask (.program path stage defines))).run actions).depot.findProgram? path' stage
        defines = some (σ.programId path stage defines) := by
    intro path stage defines path' actions hpath
    have hτ := (hσ.step (.ask (.program path stage defines))).run actions
    rw [findProgram?, ← keyOf_inj.mpr ⟨hpath, rfl, rfl⟩]
    exact hτ.inOrder.indexed.findKey?_eq_some_iff.mpr (hσ.keyOf?_programId ..)
  refine ⟨?_, hfound, fun _ _ _ _ h s => program_of_findProgram? h s⟩
  intro path stage defines path' stage' defines' actions
  have hτ := (hσ.step (.ask (.program path stage defines))).run actions
  constructor
  · -- After both calls the one program has the keys of both.
    intro he
    have hfirst := hσ.keyOf?_programId path stage defines
      (actions ++ [.ask (.program path' stage' defines')])
    have hsecond := hτ.keyOf?_programId path' stage' defines' []
    rw [← he] at hsecond
    rw [Session.run, List.foldl_append] at hfirst
    exact keyOf_inj.mp (Option.some.inj (hfirst.symm.trans hsecond))
  · rintro ⟨hpath, rfl, rfl⟩
    have hgiven := program_of_findProgram? (hfound path stage defines path' actions hpath)
    show _ = ((Depot.program _ _ path' stage defines).play _).1.1
    rw [hgiven, play_pure]

theorem Reachable.sharesPipelines (hσ : Reachable σ) : σ.SharesPipelines := by
  have hsame : ∀ slots slots' actions a b, σ.pipelineId slots = .ok a →
      ((σ.step (.ask (.pipeline slots))).run actions).pipelineId slots' = .ok b →
      (a = b ↔ ∀ stage, slots.get? stage = slots'.get? stage) := by
    intro slots slots' actions a b ha hb
    have hτ := (hσ.step (.ask (.pipeline slots))).run actions
    -- After both calls the pipelines have the slots that were asked for.
    have hfirst := hσ.slotsOf?_pipelineId ha (actions ++ [.ask (.pipeline slots')])
    have hsecond := hτ.slotsOf?_pipelineId hb []
    rw [Session.run, List.foldl_append] at hfirst
    constructor
    · rintro rfl
      obtain rfl := Option.some.inj (hfirst.symm.trans hsecond)
      exact fun _ => rfl
    · intro hget
      obtain rfl := StageSlots.ext_get? hget
      have hlisted := (hτ.step (.ask (.pipeline slots))).listed
      exact Option.some.inj (((hlisted.slots slots a).mpr hfirst).symm.trans
        ((hlisted.slots slots b).mpr hsecond))
  refine ⟨hsame, fun placements placements' actions a b ha hb => ?_, fun slots actions a ha => ?_,
    fun slots => ⟨fun id hid => ?_, fun fault hfault => pipeline_of_error hfault⟩⟩
  · rw [hsame _ _ actions a b ha hb]
    simp only [StageSlots.get?_ofList]
  · have hτ := (hσ.step (.ask (.pipeline slots))).run actions
    exact (hτ.listed.slots slots a).mpr (hσ.slotsOf?_pipelineId ha actions)
  · exact pipeline_of_fits (hσ.filed.slots slots id hid) hid

/-- Equal requests share one program or pipeline and others do not, a request that finds what it asks for
or that fails leaves no trace, and the books list each program and pipeline where it belongs, once. -/
theorem requests_shared (hσ : Reachable σ) :
    σ.SharesPrograms ∧ σ.SharesPipelines ∧ σ.depot.Filed :=
  ⟨hσ.sharesPrograms, hσ.sharesPipelines, hσ.filed⟩

theorem requests_shared_sample :
    (∀ s, sample.depot.program s "./a.comp" .compute [] = pure (⟨0⟩, sample.depot)) ∧
      sample.programId "a.comp" .compute [] ≠
        ((sample.step (.ask (.program "a.comp" .compute []))).run [.ask .update]).programId "a.comp"
          .compute [⟨"N", "1"⟩] ∧
      sample.depot.pipeline (.ofList [(.compute, ⟨7⟩), (.compute, ⟨0⟩)]) =
        pure (.ok ⟨0⟩, sample.depot) ∧
      (sample.depot.usersOf ⟨0⟩).count ⟨0⟩ = 1 ∧ (sample.depot.dependentsOf ⟨0⟩).count ⟨0⟩ = 1 := by
  have hclosed : sample.depot.findProgram? "./a.comp" .compute [] = some ⟨0⟩ ∧
      sample.depot.findSlots? (.ofList [(.compute, ⟨7⟩), (.compute, ⟨0⟩)]) = some ⟨0⟩ ∧
      sample.depot.entryOf? ⟨0⟩ = some ⟨0⟩ ∧
      (sample.depot.slotsOf? ⟨0⟩).any (·.contains ⟨0⟩) = true := by
    decide +kernel
  obtain ⟨hprogram, hpipeline, hentry, hslots⟩ := hclosed
  obtain ⟨hprograms, hpipelines, hfiled⟩ := requests_shared reachable_sample
  refine ⟨hprograms.traceless _ _ _ _ hprogram, ?_, (hpipelines.traceless _).1 _ hpipeline, ?_, ?_⟩
  · intro he
    exact absurd ((hprograms.same_iff ..).mp he).2.2 (by decide)
  · rw [hfiled.users, if_pos hentry]
  · rw [hfiled.dependents, if_pos hslots]

end Session

end ShaderDepot
