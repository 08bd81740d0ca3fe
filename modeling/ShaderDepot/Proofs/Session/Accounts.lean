import ShaderDepot.Proofs.Depot.Attempts
import ShaderDepot.Proofs.Depot.Counts
import ShaderDepot.Proofs.Session.Dispatch
import ShaderDepot.Proofs.Session.Updates

/-!
# What a session counts

Between two things that happen every program is valid or not, and has an object and work groups
accordingly (`Program.Steady`).  What was counted in a run is what happened in it: each program that the
device was asked for, each compile that failed, and each time that a pipeline was made anew
(`Session.run_accounted`).
-/

namespace ShaderDepot

open Device Journal DeviceM

/-- What holds of a program that is not being compiled. -/
structure Program.Steady (p : Program) (d : Device) : Prop where
  build : p.build = .valid ∨ p.build = .invalid
  handle : p.handle?.isSome ↔ p.build = .valid
  /-- The work groups are those that the device reports, unless the requests for programs have taken a
  number twice. -/
  sized : d.Roomy .program → ∀ h, p.handle? = some h → p.build = .valid → p.key.stage = .compute →
    p.workGroup = d.workGroup h
  unsized : p.build ≠ .valid ∨ p.key.stage ≠ .compute → p.workGroup = .zero

namespace Depot

variable {r : Depot} {j : Journal} {id : ProgramId} {p : Program}

theorem InOrder.steady (h : r.InOrder j [] []) (hsized : r.Sized j)
    (hp : r.program? id = some p) : p.Steady j.device := by
  have hhandle : p.handle?.isSome ↔ p.build = .valid := by
    rw [(h.owns.settled id p hp).isSome_handle?, Program.isValid, decide_eq_true_iff]
  refine ⟨(h.compiled id p hp List.not_mem_nil).build, hhandle, fun hroomy x hx _ _ => ?_,
    fun hn => hsized.zero id p hp (hn.imp_left fun hv => ?_)⟩
  · rw [hsized.reported (h.sound.numbered.distinct hroomy) id p hp, hx]
    rfl
  · exact Option.not_isSome_iff_eq_none.mp fun hsome => hv (hhandle.mp hsome)

end Depot

namespace Session

open Depot

variable {σ : Session}

/-! ## Sums over a run -/

/-- What is counted action by action, each in the state in which it happens. -/
def tally (f : Session → Action → Nat) : Session → List Action → Nat
  | _, [] => 0
  | σ, action :: actions => f σ action + tally f (σ.step action) actions

theorem tally_run (look : Session → Nat) {f : Session → Action → Nat}
    (hf : ∀ σ, Reachable σ → ∀ action, look (σ.step action) = look σ + f σ action)
    (hσ : Reachable σ) (actions : List Action) : look (σ.run actions) = look σ + tally f σ actions := by
  induction actions generalizing σ with
  | nil => rfl
  | cons action actions ih =>
    calc look ((σ.step action).run actions)
      _ = look (σ.step action) + tally f (σ.step action) actions := ih (hσ.step action)
      _ = look σ + (f σ action + tally f (σ.step action) actions) := by
        rw [hf σ hσ action, Nat.add_assoc]

/-- The calls that reach the device in an action. -/
def callsIn (σ : Session) (action : Action) : List DeviceCall :=
  (σ.step action).journal.calls.drop σ.journal.calls.length

/-- The programs that are compiled in an action, and are invalid after it. -/
def failedIn (σ : Session) (action : Action) : List ProgramId :=
  let after := (σ.step action).depot
  after.programIds.filter fun id =>
    decide (σ.depot.compileCountOf id < after.compileCountOf id) && after.isInvalid id

/-- How many pipelines the device makes in an action in which a pipeline of the depot is bound. -/
def builtIn (id : PipelineId) (σ : Session) : Action → Nat
  | .ask request =>
    if request.binds? = some id then
      (σ.callsIn (.ask request)).countP (DeviceCall.makes .pipeline)
    else 0
  | _ => 0

/-! ## One action -/

theorem calls_step_ask (σ : Session) (request : Request) :
    (σ.step (.ask request)).journal.calls = σ.journal.calls ++ σ.callsIn (.ask request) := by
  have hcalls : (σ.step (.ask request)).journal.calls =
      σ.journal.calls ++ (request.run σ.storage σ.depot σ.journal.device).calls := rfl
  rw [callsIn, hcalls, List.drop_left]

theorem Reachable.counts_step (hσ : Reachable σ) (action : Action) (id : ProgramId) :
    (σ.step action).depot.compileCountOf id = σ.depot.compileCountOf id ∨
      (σ.step action).depot.compileCountOf id = σ.depot.compileCountOf id + 1 := by
  cases action with
  | edit storage => exact .inl rfl
  | obstruct obstacles => exact .inl rfl
  | ask request =>
    have htallied := tallied_run hσ.inOrder σ.storage request
    have hcounts := htallied.counts id
    have hle := List.nodup_iff_count_le_one.mp htallied.nodup id
    rw [depot_step_ask]
    omega

theorem failedIn_of_depot_eq {action : Action} (h : (σ.step action).depot = σ.depot) :
    σ.failedIn action = [] := by
  rw [failedIn, h]
  exact List.filter_eq_nil_iff.mpr fun id _ => by simp

theorem Reachable.failures_step (hσ : Reachable σ) (action : Action) :
    (σ.step action).depot.failures = σ.depot.failures + (σ.failedIn action).length := by
  cases action with
  | edit storage =>
    rw [failedIn_of_depot_eq rfl]
    rfl
  | obstruct obstacles =>
    rw [failedIn_of_depot_eq rfl]
    rfl
  | ask request =>
    have htallied := tallied_run hσ.inOrder σ.storage request
    rw [← depot_step_ask, ← journal_step_ask] at htallied
    rw [htallied.failures, List.countP_eq_length_filter]
    congr 1
    -- The programs whose count rose are those that the request compiles.
    apply List.Perm.length_eq
    apply (List.perm_ext_iff_of_nodup (htallied.nodup.filter _) ((nodup_programIds _).filter _)).mpr
    intro id
    have hrose : id ∈ request.compiles σ.storage σ.depot ↔
        σ.depot.compileCountOf id < (σ.step (.ask request)).depot.compileCountOf id := by
      rw [htallied.counts, Nat.lt_add_right_iff_pos, List.count_pos_iff]
    rw [List.mem_filter, List.mem_filter, Bool.and_eq_true, decide_eq_true_iff, ← hrose]
    refine ⟨fun h => ⟨?_, h⟩, And.right⟩
    obtain ⟨p, hp, -⟩ := (Option.any_eq_true _ _).mp h.2
    exact mem_programIds.mpr (lt_size_of_program? hp)

theorem Reachable.builds_step (hσ : Reachable σ) (id : PipelineId) (action : Action) :
    (σ.step action).depot.buildCountOf id = σ.depot.buildCountOf id + builtIn id σ action := by
  cases action with
  | edit storage => rfl
  | obstruct obstacles => rfl
  | ask request =>
    have hbuilds := (tallied_run hσ.inOrder σ.storage request).builds id
    rw [← depot_step_ask, ← journal_step_ask] at hbuilds
    rw [builtIn]
    by_cases hid : request.binds? = some id
    · have hafter := countP_makes (σ.step (.ask request)).journal .pipeline
      rw [calls_step_ask, List.countP_append, countP_makes] at hafter
      rw [if_pos hid, if_pos hid] at hbuilds
      rw [if_pos hid]
      omega
    · rw [if_neg hid, if_neg hid] at hbuilds
      rw [if_neg hid]
      exact hbuilds

/-! ## A run -/

/-- In each state of a run every program is valid or invalid, with an object and work groups accordingly
(`Program.Steady`), and only setters change what is set.  The compilations that are counted are those of the
programs, and as many as the programs that the device made or refused; the failures are the compiles that
left a program invalid; and a pipeline counts the objects that the device made for it. -/
theorem run_accounted (settings : Settings) (storage : Storage) (style : LogStyle)
    (actions : List Action) :
    let σ₀ := start settings storage style
    let σ := σ₀.run actions
    (∀ id p, σ.depot.program? id = some p → p.Steady σ.device) ∧
    (∀ action id, (σ.step action).depot.retained id =
      (σ.askedWith id action).foldl (Request.setOn id) (σ.depot.retained id)) ∧
    (∀ id a, ((σ.depot.compile id).play σ.journal).1.retained a = σ.depot.retained a) ∧
    σ.depot.stats.compilations = (σ.depot.programs.toList.map (·.compileCount)).sum ∧
    σ.depot.stats.compilations =
      σ.journal.calls.countP (DeviceCall.makes .program) + σ.device.refusedPrograms ∧
    σ.depot.stats.failures = tally (fun σ action => (σ.failedIn action).length) σ₀ actions ∧
    (∀ action id, (σ.step action).depot.compileCountOf id = σ.depot.compileCountOf id ∨
      (σ.step action).depot.compileCountOf id = σ.depot.compileCountOf id + 1) ∧
    (∀ id p, σ.depot.pipeline? id = some p → p.buildCount = tally (builtIn id) σ₀ actions) ∧
    (σ.depot.pipelines.toList.map (·.buildCount)).sum =
      σ.journal.calls.countP (DeviceCall.makes .pipeline) := by
  intro σ₀ σ
  have hσ₀ : Reachable σ₀ := .start settings storage style
  have hσ : Reachable σ := hσ₀.run actions
  have hin := hσ.inOrder
  have hcounted := hσ.counted
  refine ⟨fun id p hp => hin.steady hσ.sized hp, fun action id => ?_, fun id a => ?_,
    hcounted.compilations, ?_, ?_, hσ.counts_step, fun id p hp => ?_, ?_⟩
  · exact (mirrors_step hσ.mirrors hin action).2 id
  · exact (hσ.mirrors.compile hin id).retained a
  · rw [countP_makes]
    exact hcounted.attempts
  · have hfailures := tally_run (fun σ => σ.depot.failures)
      (fun σ hσ action => hσ.failures_step action) hσ₀ actions
    exact hfailures.trans (Nat.zero_add _)
  · have hbuilds := tally_run (fun σ => σ.depot.buildCountOf id)
      (fun σ hσ action => hσ.builds_step id action) hσ₀ actions
    have hcount : σ.depot.buildCountOf id = p.buildCount := by
      rw [buildCountOf, hp]
      rfl
    exact hcount.symm.trans (hbuilds.trans (Nat.zero_add _))
  · rw [countP_makes]
    exact hcounted.builds

/-- A program whose number was taken once more does not know the work groups of its object. -/
theorem run_missized_wrappedSample :
    ∃ p h, wrappedSample.depot.program? ⟨0⟩ = some p ∧ p.build = .valid ∧ p.key.stage = .compute ∧
      p.handle? = some h ∧ p.workGroup ≠ wrappedSample.device.workGroup h := by
  obtain ⟨hafter, -, -, hobject⟩ := after_wrappedSample
  obtain ⟨hprogram, -⟩ := hafter.first
  have hne : firstProgram.workGroup ≠ (Compiler.compile .compute secondText).workGroup := by
    decide +kernel
  exact ⟨firstProgram, ⟨1⟩, hprogram, rfl, rfl, rfl, fun h => hne (h.trans (workGroup_of_make hobject))⟩

end Session

end ShaderDepot
