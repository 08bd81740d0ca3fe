import Mathlib.Logic.Relation
import ShaderDepot.Proofs.Depot.Binding
import ShaderDepot.Proofs.Depot.Growth
import ShaderDepot.Proofs.Program.Outcome

/-!
# The steps of a depot

Whatever is asked of a depot, it goes on by a few kinds of steps (`Depot.Step`): a program is added,
compiled or used, a pipeline is added, spoiled, made anew or bound, and files come and changes go.  What
each step keeps therefore holds in every reachable state of a session (`Session.Reachable.invariant`).
-/

namespace ShaderDepot

namespace Depot

open Device Journal DeviceM Relation

/-- What a depot and its device do at a time. -/
inductive Step : Depot × Journal → Depot × Journal → Prop
  /-- Neither the programs and pipelines nor the device become others. -/
  | aside {r : Depot} {j j' : Journal} (graph : IncludeGraph) (changes : ChangeQueue)
      (watched : Option String) (hdevice : j'.device = j.device)
      (hissues : ∀ kind, j'.issues kind = j.issues kind) :
    Step (r, j) ({ r with graph, changes, watched }, j')
  | forget {r : Depot} {j : Journal} : Step (r, j) (r.invalidate, j)
  | use {r : Depot} {j j' : Journal} {id : ProgramId} {p p' : Program} (h : r.InOrder j [] [])
      (hp : r.program? id = some p) (hu : p.Used j p' j') (hfixed : p'.fixed = p.fixed)
      (hbeside : j'.device.besidePrograms = j.device.besidePrograms) :
    Step (r, j) (r.setProgram id p', j')
  | addProgram {r : Depot} {j : Journal} (key : ProgramKey) (entry : FileId) :
    Step (r, j) (r.addProgram key entry, j)
  | compile {r : Depot} {j j' : Journal} {id : ProgramId} {p p' : Program} {pending : List ProgramId}
      (h : r.InOrder j (id :: pending) []) (hp : r.program? id = some p)
      (hnew : p.Renewed (r.resolveProgram p).value.text j p' j') (compilations failures : Nat)
      (hcompilations : compilations = r.compilations + 1)
      (hfailures : failures = if p'.isValid then r.failures else r.failures + 1) :
    Step (r, j) ({ r.setProgram id p' with compilations, failures }, j')
  | spoil {r : Depot} {j : Journal} (id : ProgramId) : Step (r, j) (r.spoilDependents id, j)
  | addPipeline {r : Depot} {j : Journal} {slots : StageSlots} (hnew : r.findSlots? slots = none)
      (hfault : r.slotFault? slots = none) : Step (r, j) (r.addPipeline slots, j)
  | rebind {r : Depot} {j : Journal} {id : PipelineId} {p : Pipeline}
      {out : (Except DepotError Unit × Depot) × Journal} (h : r.InOrder j [] [])
      (hp : r.pipeline? id = some p) (hdirty : p.isDirty = true) (hout : Rebinds r id p j out) :
    Step (r, j) (out.1.2, out.2)
  | bind {r : Depot} {j : Journal} {id : PipelineId} {p : Pipeline} {x : PipelineHandle}
      (hp : r.pipeline? id = some p) (hx : p.handle? = some x) :
    Step (r, j) ({ r with bound := some id }, j.push (.bindPipeline x) { j.device with bound := some x })

abbrev Steps : Depot × Journal → Depot × Journal → Prop := ReflTransGen Step

variable {s : Storage} {r r' : Depot} {j j' : Journal} {id : ProgramId} {pending : List ProgramId}

/-- Numbers that are distinct after a step were distinct before it. -/
theorem Step.distinct (hs : Step (r, j) (r', j')) {kind : ObjectKind} (hd : j'.Distinct kind) :
    j.Distinct kind := by
  cases hs with
  | aside graph changes watched hdevice hissues => rwa [Distinct, ← hissues]
  | use hr hp hu hfixed hbeside => exact hd.of_initial hu.quiet.calls
  | compile hr hp hnew compilations failures => exact hd.of_initial hnew.calls
  | @rebind _ _ id p out hr hp hdirty hout =>
    cases hout with
    | refused fault hbuilt =>
      have hcalls : j.calls <+: (p.release.play j).2.calls := prefix_play p.release j
      exact hd.of_initial hcalls
    | bound hbuilt =>
      have hprefix := prefix_play (p.rebuild r.programs) j
      rw [hbuilt] at hprefix
      exact hd.of_push.of_initial hprefix
  | bind hp hx => exact hd.of_push
  | _ => exact hd

/-! ## Programs -/

theorem steps_compile (h : r.InOrder j (id :: pending) []) : Steps (r, j) ((r.compile id).play j) := by
  cases hp : r.program? id with
  | none => rw [play_compile_of_none hp]
  | some p =>
    rw [play_compile_eq hp]
    have hnew := Program.renewed_compile h.sound (h.owns.settled id p hp) (r.resolveProgram p).value
      r.settings.listOnError
    exact .single (.compile h hp hnew _ _ rfl rfl)

theorem steps_recompile (h : r.InOrder j (id :: pending) []) :
    Steps (r, j) ((r.recompile id).play j) := by
  unfold recompile
  rw [DeviceM.play_bind, DeviceM.play_pure]
  exact (steps_compile h).tail (.spoil id)

theorem steps_program (h : r.InOrder j [] []) (s : Storage) (path : String) (stage : Stage)
    (defines : List Define) :
    Steps (r, j) (((r.program s path stage defines).play j).1.2,
      ((r.program s path stage defines).play j).2) := by
  cases hk : r.findKey? (keyOf path stage defines) with
  | some id =>
    simp only [Depot.program, hk, DeviceM.play_pure]
    exact .refl
  | none =>
    rw [play_program_of_none hk]
    obtain ⟨-, -, -, hfind⟩ :=
      IncludeGraph.settled_intern s h.indexed.graph (keyOf path stage defines).path
    have hadded := (h.source s (keyOf path stage defines).path).addProgram hk hfind ⟨path, rfl⟩
    have hfile : Step (r, j)
        ({ r with graph := (r.graph.intern s (keyOf path stage defines).path).value.2 }, j) :=
      .aside _ r.changes r.watched rfl fun _ => rfl
    exact ((ReflTransGen.single hfile).tail (.addProgram ..)).trans (steps_compile hadded)

theorem steps_withProgram {α : Type} (h : r.InOrder j [] []) (id : ProgramId)
    {f : Program → DeviceM (α × Program)}
    (hu : ∀ p, r.program? id = some p → p.Used j ((f p).play j).1.2 ((f p).play j).2)
    (hfixed : ∀ p, ((f p).play j).1.2.fixed = p.fixed)
    (hbeside : ∀ p, Leaves besidePrograms (f p)) :
    Steps (r, j) (((r.withProgram id f).play j).1.2, ((r.withProgram id f).play j).2) := by
  cases hp : r.program? id with
  | none =>
    simp only [Depot.withProgram, hp, DeviceM.play_pure]
    exact .refl
  | some p =>
    simp only [Depot.withProgram, hp, DeviceM.play_bind, DeviceM.play_pure]
    exact .single (.use h hp (hu p hp) (hfixed p) (hbeside p j))

theorem steps_changeProgram (h : r.InOrder j [] []) (id : ProgramId) {f : Program → DeviceM Program}
    (hu : ∀ p : Program, p.Settled j → p.Used j ((f p).play j).1 ((f p).play j).2)
    (hfixed : ∀ p, ((f p).play j).1.fixed = p.fixed) (hbeside : ∀ p, Leaves besidePrograms (f p)) :
    Steps (r, j) (((r.changeProgram id f).play j).1.2, ((r.changeProgram id f).play j).2) := by
  apply steps_withProgram h id
  · intro p hp
    simp only [DeviceM.play_bind, DeviceM.play_pure]
    exact hu p (h.owns.settled id p hp)
  · intro p
    simp only [DeviceM.play_bind, DeviceM.play_pure]
    exact hfixed p
  · exact fun p => (hbeside p).bind fun _ => leaves_pure _

theorem steps_bindBlock (h : r.InOrder j [] []) (id : ProgramId) (kind : BlockKind) (block : String)
    (n : Nat) :
    Steps (r, j) (((r.changeProgram id (·.bindBlock kind block n)).play j).1.2,
      ((r.changeProgram id (·.bindBlock kind block n)).play j).2) :=
  steps_changeProgram h id (fun _ hp => Program.used_bindBlock h.sound hp kind block n)
    (fun p => Program.fixed_bindBlock p kind block n j)
    fun p => Program.leaves_bindBlock p kind block n

/-! ## Pipelines and dispatches -/

theorem steps_pipeline (r : Depot) (slots : StageSlots) (j : Journal) :
    Steps (r, j) ((r.pipeline slots).value.2, j) := by
  unfold Depot.pipeline
  split
  · exact .refl
  · next hfault =>
    split
    · exact .refl
    · next hnew => exact .single (.addPipeline hnew hfault)

theorem steps_bind (h : r.InOrder j [] []) (id : PipelineId) :
    Steps (r, j) (((r.bind id).play j).1.2, ((r.bind id).play j).2) := by
  have hbinds := h.binds id
  generalize (r.bind id).play j = out at hbinds
  cases hbinds with
  | unknown hp => exact .refl
  | skipped hp hclean hbound => exact .refl
  | bound hp hclean hx => exact .single (.bind hp hx)
  | remade hp hdirty hout => exact .single (.rebind h hp hdirty hout)

theorem device_dispatchGroups (r : Depot) (groups : Extent) (j : Journal) :
    ((r.dispatchGroups groups).play j).2.device = j.device := by
  unfold dispatchGroups
  rw [DeviceM.play_bind, play_ofTraced (calls_boundCompute r)]
  split
  · rfl
  · rw [DeviceM.play_pure]

theorem device_dispatchThreads (r : Depot) (threads : Extent) (j : Journal) :
    ((r.dispatchThreads threads).play j).2.device = j.device := by
  unfold dispatchThreads
  rw [DeviceM.play_bind, play_ofTraced (calls_boundCompute r)]
  split
  · simp only
    split
    · rw [DeviceM.play_pure]
    · rfl
  · rw [DeviceM.play_pure]

theorem steps_watch (r : Depot) (disk : Disk) (root : String) (j : Journal) :
    Steps (r, j) ((r.watch disk root).value.2, j) := by
  unfold watch
  split
  · exact .refl
  · have hstep : Step (r, j) ({ r with watched := some root }, j) :=
      .aside r.graph r.changes (some root) rfl fun _ => rfl
    exact .single hstep

/-! ## Updates -/

theorem steps_update (h : r.InOrder j [] []) (s : Storage) :
    Steps (r, j) (((r.update s).play j).1.2, ((r.update s).play j).2) := by
  have hreread : Step (r, j) (r.reread s, j) := .aside _ _ r.watched rfl fun _ => rfl
  have horder := h.reread s
  rw [play_update]
  exact (play_foldlM (motive := fun rest (r' : Depot) j' =>
    r'.InOrder j' rest [] ∧ Steps (r, j) (r', j')) Depot.recompile (r.affected s)
    ⟨horder, .single hreread⟩ fun id rest r' j' ⟨h', hs⟩ =>
      ⟨h'.recompile, hs.trans (steps_recompile h')⟩).2

/-! ## Requests -/

theorem steps_run (h : r.InOrder j [] []) (s : Storage) (request : Request) :
    Steps (r, j) ((request.run s r).play j) := by
  cases request with
  | source path =>
    rw [Request.run, play_map, play_source]
    exact .single (.aside _ r.changes r.watched rfl fun _ => rfl)
  | program path stage defines =>
    rw [Request.run, play_map]
    exact steps_program h s path stage defines
  | resolve id =>
    rw [Request.run, play_map, play_ofTraced (calls_resolve r id)]
  | location id name =>
    rw [Request.run, play_map]
    exact steps_withProgram h id
      (fun p hp => (Program.used_location h.sound (h.owns.settled id p hp) name).1)
      (fun p => Program.fixed_location p name j) fun p => Program.leaves_location p name
  | setUniform id name value =>
    rw [Request.run, play_map]
    exact steps_changeProgram h id (fun p hp => Program.used_setUniform h.sound hp name value)
      (fun p => Program.fixed_setUniform p name value j) fun p => Program.leaves_setUniform p name value
  | bindUniformBlock id block n =>
    rw [Request.run, play_map]
    exact steps_bindBlock h id .uniform block n
  | bindStorageBlock id block n =>
    rw [Request.run, play_map]
    exact steps_bindBlock h id .storage block n
  | pipeline slots =>
    rw [Request.run, play_map, play_ofTraced (calls_pipeline r slots)]
    exact steps_pipeline r slots j
  | bind id =>
    rw [Request.run, play_map]
    exact steps_bind h id
  | invalidate =>
    rw [Request.run, DeviceM.play_pure]
    exact .single .forget
  | dispatchGroups groups =>
    rw [Request.run, play_map]
    exact .single (.aside r.graph r.changes r.watched (device_dispatchGroups r groups j)
      (quiet_dispatchGroups h.sound r groups).issues)
  | dispatchThreads threads =>
    rw [Request.run, play_map]
    exact .single (.aside r.graph r.changes r.watched (device_dispatchThreads r threads j)
      (quiet_dispatchThreads h.sound r threads).issues)
  | notify path =>
    rw [Request.run, DeviceM.play_pure, notify_eq]
    exact .single (.aside r.graph (r.changes.notify path).2 r.watched rfl fun _ => rfl)
  | watch disk root =>
    rw [Request.run, play_map, play_ofTraced (calls_watch r disk root)]
    exact steps_watch r disk root j
  | unwatch =>
    rw [Request.run, DeviceM.play_pure]
    exact .single (.aside r.graph r.changes none rfl fun _ => rfl)
  | update =>
    rw [Request.run, play_map]
    exact steps_update h s

theorem Steps.keeps {P : Depot → Journal → Prop} {a b : Depot × Journal} (h : Steps a b)
    (hstep : ∀ {r r' : Depot} {j j' : Journal}, Step (r, j) (r', j') → P r j → P r' j')
    (ha : P a.1 a.2) : P b.1 b.2 := by
  induction h with
  | refl => exact ha
  | tail _ hs ih => exact hstep hs ih

end Depot

namespace Session

open Depot Device Journal

/-- What holds of a new depot on a new device, and is kept by each step and by whatever makes the device
refuse objects, holds in every reachable state. -/
theorem Reachable.invariant {P : Depot → Journal → Prop} {σ : Session} (hσ : Reachable σ)
    (hstart : ∀ settings style, P (.create settings) ⟨.create style, []⟩)
    (hstep : ∀ {r r' : Depot} {j j' : Journal}, Step (r, j) (r', j') → P r j → P r' j')
    (hobstruct : ∀ (r : Depot) (j : Journal) obstacles, P r j → P r (j.obstruct obstacles)) :
    P σ.depot σ.journal := by
  induction hσ with
  | start settings storage style => exact hstart settings style
  | @step σ action hσ ih =>
    cases action with
    | edit storage => exact ih
    | obstruct obstacles => exact hobstruct _ _ _ ih
    | ask request =>
      exact (steps_run hσ.inOrder σ.storage request).keeps hstep ih

/-- What holds of the depot in some state, and is kept by each step, holds of it ever after. -/
theorem Reachable.lasting {P : Depot → Prop} {σ : Session} (hσ : Reachable σ)
    (hstep : ∀ {r r' : Depot} {j j' : Journal}, Step (r, j) (r', j') → P r → P r') (h : P σ.depot)
    (actions : List Action) : P (σ.run actions).depot := by
  induction actions generalizing σ with
  | nil => exact h
  | cons action actions ih =>
    apply ih (hσ.step action)
    cases action with
    | edit storage => exact h
    | obstruct obstacles => exact h
    | ask request =>
      exact (steps_run hσ.inOrder σ.storage request).keeps (P := fun r _ => P r) hstep h

end Session

end ShaderDepot
