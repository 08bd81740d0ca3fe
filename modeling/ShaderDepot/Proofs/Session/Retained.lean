import ShaderDepot.Proofs.Depot.Mirror
import ShaderDepot.Proofs.Session.Wrapped

/-!
# What was set last is what the device holds

Whatever was asked in a run and whatever failed on the way, the object of each valid program holds the
values and bindings that were set last, as long as no number was taken twice
(`Session.retained_mirrored`).
-/

namespace ShaderDepot

namespace Request

/-- The value that a request gives to a uniform of a program. -/
def value? (id : ProgramId) (name : String) : Request → Option UniformValue
  | setUniform id' name' value => if id' = id ∧ name' = name then some value else none
  | _ => none

/-- The binding that a request gives to a block of a program. -/
def binding? (kind : BlockKind) (id : ProgramId) (block : String) : Request → Option Nat
  | bindUniformBlock id' block' n => if .uniform = kind ∧ id' = id ∧ block' = block then some n else none
  | bindStorageBlock id' block' n => if .storage = kind ∧ id' = id ∧ block' = block then some n else none
  | _ => none

/-- What is set on a program after a request. -/
def setOn (id : ProgramId) (t : Retained) : Request → Retained
  | setUniform id' name value => if id' = id then t.setUniform name value else t
  | bindUniformBlock id' block n => if id' = id then t.bindBlock .uniform block n else t
  | bindStorageBlock id' block n => if id' = id then t.bindBlock .storage block n else t
  | _ => t

end Request

namespace Session

open Depot Device Journal DeviceM

variable {σ : Session} {id : ProgramId} {request : Request}

/-- The request of an action, if the program is there. -/
def askedWith (σ : Session) (id : ProgramId) : Action → List Request
  | .ask request => if (σ.depot.program? id).isSome then [request] else []
  | _ => []

/-- A request sets on a program what it says, and goes on to have all objects hold what was set. -/
structure SetBy (request : Request) (r : Depot) (r' : Depot) (j' : Journal) : Prop where
  mirrors : r'.Mirrors j'
  retained : ∀ a, r'.retained a =
    if (r.program? a).isSome then request.setOn a (r.retained a) else {}

theorem setBy_of_carries {r r' : Depot} {j' : Journal} (h : r.Carries r' j')
    (hset : ∀ a t, request.setOn a t = t) : SetBy request r r' j' where
  mirrors := h.mirrors
  retained a := by
    rw [h.retained, hset, Depot.retained]
    cases r.program? a <;> rfl

theorem setBy_of_withProgram {r r' : Depot} {j' : Journal} {set : Retained → Retained}
    (h : r'.Mirrors j' ∧ ∀ a, r'.retained a =
      if id = a ∧ (r.program? a).isSome then set (r.retained a) else r.retained a)
    (hset : ∀ a t, request.setOn a t = if id = a then set t else t) : SetBy request r r' j' where
  mirrors := h.1
  retained a := by
    rw [h.2, hset]
    by_cases hsome : (r.program? a).isSome = true
    · simp only [hsome, and_true, if_true]
    · rw [if_neg fun e => hsome e.2, if_neg hsome, Depot.retained]
      rw [Option.not_isSome_iff_eq_none.mp hsome]
      rfl

theorem setBy_run {s : Storage} {r : Depot} {j : Journal} (hm : r.Mirrors j) (h : r.InOrder j [] [])
    (request : Request) :
    SetBy request r ((request.run s r).play j).1 ((request.run s r).play j).2 := by
  -- Most requests set nothing, and then it is enough that programs and objects are kept.
  have hkeeps : ∀ {r' : Depot} {j' : Journal}, r.Keeps j r' j' → j.calls <+: j'.calls →
      r.Carries r' j' := fun hk hcalls => ⟨hk.mirrors hcalls hm, hk.retained⟩
  have hsame : ∀ {r' : Depot}, r.Keeps j r' j → r.Carries r' j := fun hk => hkeeps hk List.prefix_rfl
  cases request with
  | source path =>
    rw [Request.run, play_map, play_source]
    exact setBy_of_carries (hsame (.of_programs rfl)) fun _ _ => rfl
  | program path stage defines =>
    rw [Request.run, play_map]
    exact setBy_of_carries (hm.program h s path stage defines) fun _ _ => rfl
  | resolve id =>
    rw [Request.run, play_map, play_ofTraced (calls_resolve r id)]
    exact setBy_of_carries (hsame (.of_programs rfl)) fun _ _ => rfl
  | location id name =>
    rw [Request.run, play_map]
    refine setBy_of_withProgram (hm.withProgram h id (fun p hp => ?_) fun t ht => ht)
      fun a t => (ite_self _).symm
    exact Program.follows_location (fun hd x => hm.mirrored hd id p x hp) name
  | setUniform id name value =>
    rw [Request.run, play_map]
    refine setBy_of_withProgram (hm.withProgram h id (fun p hp => ?_) fun t ht =>
      ht.setUniform name value) fun a t => rfl
    simp only [play_bind, play_pure]
    exact Program.follows_setUniform h.sound (h.owns.settled id p hp)
      (fun hd x => hm.mirrored hd id p x hp) name value
  | bindUniformBlock id block n =>
    rw [Request.run, play_map]
    refine setBy_of_withProgram (hm.withProgram h id (fun p hp => ?_) fun t ht =>
      ht.bindBlock .uniform block n) fun a t => rfl
    simp only [play_bind, play_pure]
    exact Program.follows_bindBlock (h.owns.settled id p hp)
      (fun hd x => hm.mirrored hd id p x hp) .uniform block n
  | bindStorageBlock id block n =>
    rw [Request.run, play_map]
    refine setBy_of_withProgram (hm.withProgram h id (fun p hp => ?_) fun t ht =>
      ht.bindBlock .storage block n) fun a t => rfl
    simp only [play_bind, play_pure]
    exact Program.follows_bindBlock (h.owns.settled id p hp)
      (fun hd x => hm.mirrored hd id p x hp) .storage block n
  | pipeline slots =>
    rw [Request.run, play_map, play_ofTraced (calls_pipeline r slots)]
    exact setBy_of_carries (hsame (keeps_pipeline r slots j)) fun _ _ => rfl
  | bind id =>
    rw [Request.run, play_map]
    exact setBy_of_carries (hkeeps (keeps_bind r id j) (prefix_play ..)) fun _ _ => rfl
  | invalidate =>
    rw [Request.run, play_pure]
    exact setBy_of_carries (hsame (.of_programs rfl)) fun _ _ => rfl
  | dispatchGroups groups =>
    rw [Request.run, play_map]
    exact setBy_of_carries (hkeeps (keeps_dispatchGroups r groups j) (prefix_play ..)) fun _ _ => rfl
  | dispatchThreads threads =>
    rw [Request.run, play_map]
    exact setBy_of_carries (hkeeps (keeps_dispatchThreads r threads j) (prefix_play ..)) fun _ _ => rfl
  | notify path =>
    rw [Request.run, play_pure, notify_eq]
    exact setBy_of_carries (hsame (.of_programs rfl)) fun _ _ => rfl
  | watch disk root =>
    rw [Request.run, play_map, play_ofTraced (calls_watch r disk root)]
    exact setBy_of_carries (hsame (keeps_watch r disk root j)) fun _ _ => rfl
  | unwatch =>
    rw [Request.run, play_pure]
    exact setBy_of_carries (hsame (.of_programs rfl)) fun _ _ => rfl
  | update =>
    rw [Request.run, play_map]
    exact setBy_of_carries (hm.update h s) fun _ _ => rfl

/-! ## A run -/

theorem mirrors_step {σ : Session} (hm : σ.depot.Mirrors σ.journal)
    (h : σ.depot.InOrder σ.journal [] []) (action : Action) :
    (σ.step action).depot.Mirrors (σ.step action).journal ∧
      ∀ id, (σ.step action).depot.retained id =
        (σ.askedWith id action).foldl (Request.setOn id) (σ.depot.retained id) := by
  cases action with
  | edit storage => exact ⟨hm, fun _ => rfl⟩
  | obstruct obstacles =>
    -- What the device will refuse is none of what it holds.
    exact ⟨⟨hm.unique, fun hd id p x hp hx =>
      (hm.mirrored hd id p x hp hx).untouched (untouched_same rfl)⟩, fun _ => rfl⟩
  | ask request =>
    have hset := setBy_run hm h (s := σ.storage) request
    refine ⟨hset.mirrors, fun id => (hset.retained id).trans ?_⟩
    rw [askedWith]
    split
    · rfl
    · next hnone =>
      rw [Depot.retained, Option.not_isSome_iff_eq_none.mp hnone]
      rfl

end Session

end ShaderDepot
