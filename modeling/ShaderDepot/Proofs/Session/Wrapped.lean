import ShaderDepot.Proofs.Depot.Growth
import ShaderDepot.Proofs.Depot.Numbers

/-!
# Numbers that come round

To be told of a file that has not changed, to take that in and to bind the pipeline of the one shader that
is made from the file takes a number for a program and one for a pipeline, and changes nothing but what these
two are (`Session.turns_rounds`).  So a depot that goes on like this comes to the numbers of objects that it
still has.
-/

namespace ShaderDepot

open Device Journal DeviceM

namespace Depot

variable {r : Depot} {s : Storage} {path : String} {id : ProgramId} {b : PipelineId} {j : Journal}
  {p p' : Program} {q q' : Pipeline} {m n : Nat}

/-! ## Another program and another pipeline -/

/-- The depot with another program and another pipeline in the places of two that it has. -/
def turned (r : Depot) (id : ProgramId) (p : Program) (b : PipelineId) (q : Pipeline)
    (compilations failures : Nat) : Depot :=
  { (r.setProgram id p).setPipeline b q with compilations, failures }

theorem turned_turned (r : Depot) (id : ProgramId) (p p' : Program) (b : PipelineId) (q q' : Pipeline)
    (c f c' f' : Nat) :
    (r.turned id p b q c f).turned id p' b q' c' f' = r.turned id p' b q' c' f' := by
  have hprogram := congrArg Depot.programs (setProgram_setProgram r id p p')
  have hpipeline := congrArg Depot.pipelines (setPipeline_setPipeline r b q q')
  exact (congrArg₂ (fun programs pipelines => { r with
    programs, pipelines, compilations := c', failures := f' }) hprogram hpipeline :)

theorem turned_self (hp : r.program? id = some p) (hq : r.pipeline? b = some q) :
    r.turned id p b q r.compilations r.failures = r := by
  rw [turned, setProgram_self hp, setPipeline_self hq]

theorem program?_turned (hp : r.program? id = some p) (a : ProgramId) (c f : Nat) :
    (r.turned id p' b q c f).program? a = if id = a then some p' else r.program? a :=
  program?_setProgram_of hp a

theorem pipeline?_turned (hq : r.pipeline? b = some q) (a : PipelineId) (c f : Nat) :
    (r.turned id p b q' c f).pipeline? a = if b = a then some q' else r.pipeline? a :=
  pipeline?_setPipeline_of hq a

theorem graph_turned (r : Depot) (id : ProgramId) (p : Program) (b : PipelineId) (q : Pipeline)
    (c f : Nat) : (r.turned id p b q c f).graph = r.graph := rfl

theorem changes_turned (r : Depot) (id : ProgramId) (p : Program) (b : PipelineId) (q : Pipeline)
    (c f : Nat) : (r.turned id p b q c f).changes = r.changes := rfl

theorem programsFrom_turned (r : Depot) (id : ProgramId) (p : Program) (b : PipelineId) (q : Pipeline)
    (c f : Nat) : (r.turned id p b q c f).programsFrom = r.programsFrom := by
  have hids : (r.turned id p b q c f).programIds = r.programIds :=
    congrArg (fun size => (List.range size).map ProgramId.mk) Array.size_modify
  funext files
  rw [programsFrom, programsFrom, hids]
  rfl

/-! ## Taking in a change that was none -/

/-- What the depot takes in when it is told of a path. -/
def told (r : Depot) (path : String) : List String × ChangeQueue := (r.changes.notify path).2.drain

/-- All that comes of telling the depot of the path is that one program is compiled, of one pipeline. -/
structure Revolves (r : Depot) (s : Storage) (path : String) (id : ProgramId) (b : PipelineId) :
    Prop where
  graph : (reloadFiles s r.graph (r.told path).1).value.1 = r.graph
  changes : (r.told path).2 = r.changes
  affected : r.programsFrom
    (r.graph.includersClosure (reloadFiles s r.graph (r.told path).1).value.2) = [id]
  dependents : r.dependentsOf id = [b]

theorem revolves_of_reloadFiles {files : List FileId}
    (hreload : (reloadFiles s r.graph (r.told path).1).value = (r.graph, files))
    (hchanges : (r.told path).2 = r.changes)
    (haffected : r.programsFrom (r.graph.includersClosure files) = [id])
    (hdependents : r.dependentsOf id = [b]) : r.Revolves s path id b :=
  ⟨by rw [hreload], hchanges, by rw [hreload, haffected], hdependents⟩

theorem told_turned (r : Depot) (id : ProgramId) (p : Program) (b : PipelineId) (q : Pipeline)
    (c f : Nat) (path : String) : (r.turned id p b q c f).told path = r.told path := by
  rw [told, told, changes_turned]

theorem Revolves.turned (h : r.Revolves s path id b) (p : Program) (q : Pipeline) (c f : Nat) :
    (r.turned id p b q c f).Revolves s path id b where
  graph := by rw [told_turned, graph_turned, h.graph]
  changes := by rw [told_turned, changes_turned, h.changes]
  affected := by rw [told_turned, graph_turned, programsFrom_turned, h.affected]
  dependents := h.dependents

theorem Revolves.play_update (h : r.Revolves s path id b) (j : Journal) :
    ((r.notify path).2.update s).play j =
      ((1, ((r.recompile id).play j).1), ((r.recompile id).play j).2) := by
  have hdrain : (r.notify path).2.changes.drain = r.told path := by rw [notify_eq, told]
  have hgraph : (r.notify path).2.graph = r.graph := by rw [notify_eq]
  have hprograms : (r.notify path).2.programsFrom = r.programsFrom := by
    rw [notify_eq]
    generalize (r.changes.notify path).2 = changes
    rfl
  have hreread : (r.notify path).2.reread s = r := by
    rw [reread, hdrain, hgraph, h.graph, h.changes, notify_eq]
  have haffected : (r.notify path).2.affected s = [id] := by
    rw [Depot.affected, hdrain, hgraph, h.graph, hprograms, h.affected]
  rw [Depot.play_update, hreread, haffected, List.foldlM_cons, play_bind, List.foldlM_nil, play_pure]
  rfl

theorem spoilPipeline_eq (hq : r.pipeline? b = some q) : r.spoilPipeline b = r.setPipeline b q.spoil := by
  have harray : r.pipelines.modify b.index Pipeline.spoil =
      r.pipelines.modify b.index fun _ => q.spoil := by
    apply Array.ext_getElem?
    intro i
    rw [Array.getElem?_modify, Array.getElem?_modify]
    split
    · next e => rw [← e, show r.pipelines[b.index]? = some q from hq, Option.map_some, Option.map_some]
    · rfl
  rw [spoilPipeline, setPipeline, harray]

/-- To compile the program of one pipeline spoils this one. -/
theorem play_recompile_eq (hp : r.program? id = some p) (hq : r.pipeline? b = some q)
    (hdependents : r.dependentsOf id = [b]) (j : Journal) :
    let out := (p.compile (r.resolveProgram p).value r.settings.listOnError).play j
    ∃ c f, (r.recompile id).play j = (r.turned id out.1 b q.spoil c f, out.2) := by
  intro out
  obtain ⟨c, f, hplay⟩ := play_compile hp j
  refine ⟨c, f, ?_⟩
  rw [recompile, play_bind, hplay, play_pure]
  have hspoil : ∀ r' : Depot, r'.dependentsOf id = [b] → r'.pipeline? b = some q →
      r'.spoilDependents id = r'.setPipeline b q.spoil := by
    intro r' hr' hq'
    rw [spoilDependents, hr', List.foldl_cons, List.foldl_nil, spoilPipeline_eq hq']
  exact congrArg (·, out.2) (hspoil _ hdependents hq)

/-- To bind a pipeline that is dirty makes it another, and the depot, if it was bound before. -/
theorem play_bind_eq (hq : r.pipeline? b = some q) (hdirty : q.isDirty = true) (hbound : r.bound = some b)
    (j : Journal) :
    let out := (q.rebuild r.programs).play j
    ((r.bind b).play j).1.2 = r.setPipeline b out.1.2 ∧
      ∃ bound, ((r.bind b).play j).2.device = { out.2.device with bound } := by
  intro out
  rw [play_bind_of_isDirty hq hdirty]
  have hout := rebinds r b q j
  generalize (r.rebind b q).play j = done at hout
  cases hout with
  | refused fault hbuilt =>
    have hbuilt : out = _ := hbuilt
    rw [hbuilt]
    exact ⟨rfl, _, rfl⟩
  | bound hbuilt =>
    have hbuilt : out = _ := hbuilt
    rw [hbuilt]
    exact ⟨(congrArg (fun bound => { r.setPipeline b _ with bound }) hbound.symm :), _, rfl⟩

end Depot

namespace Session

open Depot

variable {σ τ : Session} {path : String} {id : ProgramId} {b : PipelineId} {p : Program}
  {q : Pipeline} {m n : Nat}

theorem step_bind (σ : Session) (id : PipelineId) :
    σ.step (.ask (.bind id)) =
      ⟨σ.storage, ((σ.depot.bind id).play σ.journal).1.2, ((σ.depot.bind id).play σ.journal).2⟩ := by
  have hplay : ((Request.bind id).run σ.storage σ.depot).play σ.journal =
      (((σ.depot.bind id).play σ.journal).1.2, ((σ.depot.bind id).play σ.journal).2) := by
    rw [Request.run, play_map]
  exact congrArg (fun out => Session.mk σ.storage out.1 out.2) hplay

/-! ## Rounds -/

/-- What is left when a session goes on with one program and one pipeline of it, while the requests of
the device have come to have taken `m` and `n` numbers. -/
structure Turns (σ : Session) (id : ProgramId) (p : Program) (b : PipelineId) (q : Pipeline) (m n : Nat)
    (τ : Session) : Prop where
  storage : τ.storage = σ.storage
  depot : ∃ p' q' c f, τ.depot = σ.depot.turned id p' b q' c f ∧ p'.key = p.key ∧ p'.entry = p.entry ∧
    p'.retained = p.retained ∧ q'.slots = q.slots
  willing : τ.device.Willing m n

theorem turns_refl (hp : σ.depot.program? id = some p) (hq : σ.depot.pipeline? b = some q)
    (h : σ.device.Willing m n) : Turns σ id p b q m n σ where
  storage := rfl
  depot := ⟨p, q, _, _, (turned_self hp hq).symm, rfl, rfl, rfl, rfl⟩
  willing := h

/-- The depot is told of a path and takes that in. -/
def rumour (path : String) : List Action := [.ask (.notify path), .ask .update]

theorem step_notify_eq (τ : Session) (path : String) :
    τ.step (.ask (.notify path)) = ⟨τ.storage, (τ.depot.notify path).2, τ.journal⟩ := by
  simp only [step, Request.run, play_pure]

/-- To tell a depot of a path changes none of its programs. -/
theorem programs_step_notify (τ : Session) (path : String) (id : ProgramId) :
    (τ.step (.ask (.notify path))).depot.program? id = τ.depot.program? id ∧
      (τ.step (.ask (.notify path))).depot.resolve id = τ.depot.resolve id ∧
      (τ.step (.ask (.notify path))).device = τ.device := by
  rw [step_notify_eq, notify_eq]
  generalize (τ.depot.changes.notify path).2 = changes
  exact ⟨rfl, rfl, rfl⟩

theorem step_update (τ : Session) :
    let done := (τ.depot.update τ.storage).play τ.journal
    τ.step (.ask .update) = ⟨τ.storage, done.1.2, done.2⟩ := by
  simp only [step, Request.run, play_map]

theorem run_rumour (τ : Session) (path : String) :
    let done := ((τ.depot.notify path).2.update τ.storage).play τ.journal
    τ.run (rumour path) = ⟨τ.storage, done.1.2, done.2⟩ := by
  rw [rumour, run, List.foldl_cons, step_notify_eq, List.foldl_cons, List.foldl_nil, step_update]

theorem resolveProgram_turned {p' : Program} (hkey : p'.key = p.key) (hentry : p'.entry = p.entry)
    (r : Depot) (id : ProgramId) (x : Program) (q : Pipeline) (c f : Nat) :
    (r.turned id x b q c f).resolveProgram p' = r.resolveProgram p := by
  rw [resolveProgram, resolveProgram, hkey, hentry]
  rfl

/-- A rumour takes a number for a program and spoils the pipeline.  If nothing was set on the program and its
text links, it has an object with this number unless that is kept back. -/
theorem Turns.heard (h : Turns σ id p b q m n τ) (hτ : Reachable τ)
    (hσ : σ.depot.Revolves σ.storage path id b) (hp : σ.depot.program? id = some p)
    (hq : σ.depot.pipeline? b = some q) :
    Turns σ id p b q (m + 1) n (τ.run (rumour path)) ∧
      (τ.run (rumour path)).depot.pipeline? b = (τ.depot.pipeline? b).map Pipeline.spoil ∧
      (p.retained = {} → numberAfter m ≠ .ofNat (UInt32.size - 1) →
        (Compiler.compile p.key.stage (σ.depot.resolveProgram p).value.text).linked = true →
        ((τ.run (rumour path)).depot.program? id).bind (·.handle?) = some ⟨(numberAfter m).toNat⟩ ∧
          (τ.run (rumour path)).device.programs.get? ⟨(numberAfter m).toNat⟩ =
            some (.make p.key.stage (σ.depot.resolveProgram p).value.text)) := by
  obtain ⟨p', q', c, f, hdepot, hkey, hentry, hretained, hslots⟩ := h.depot
  have hp' : τ.depot.program? id = some p' := by
    rw [hdepot, program?_turned hp, if_pos rfl]
  have hq' : τ.depot.pipeline? b = some q' := by
    rw [hdepot, pipeline?_turned hq, if_pos rfl]
  have hrevolves : τ.depot.Revolves τ.storage path id b := by
    rw [h.storage, hdepot]
    exact hσ.turned ..
  obtain ⟨c', f', hplay⟩ := play_recompile_eq hp' hq' hrevolves.dependents τ.journal
  have hnew := Program.renewed_compile hτ.inOrder.sound (hτ.inOrder.owns.settled id p' hp')
    (τ.depot.resolveProgram p').value τ.depot.settings.listOnError
  have hset := p'.retained_compile (τ.depot.resolveProgram p').value τ.depot.settings.listOnError
    τ.journal
  have hwilling := p'.willing_compile h.willing (τ.depot.resolveProgram p').value
    τ.depot.settings.listOnError
  have hlinked := fun hblank hm => p'.play_compile_of_linked (hretained.trans hblank) h.willing hm
    (τ.depot.resolveProgram p').value τ.depot.settings.listOnError
  -- The graph is that of the first round, so the program is made of the same unit.
  have hunit : τ.depot.resolveProgram p' = σ.depot.resolveProgram p := by
    rw [hdepot, resolveProgram_turned hkey hentry]
  rw [hunit] at hplay hnew hset hwilling hlinked
  rw [hkey] at hlinked
  rw [run_rumour, hrevolves.play_update, hplay]
  -- However the compile went, it kept what a round asks for.
  generalize (p'.compile _ _).play τ.journal = out at hnew hset hwilling hlinked ⊢
  refine ⟨⟨h.storage, ⟨out.1, q'.spoil, c', f', ?_, hnew.key.trans hkey, hnew.entry.trans hentry,
    hset.trans hretained, hslots⟩, hwilling⟩, ?_, fun hblank hm hl => ?_⟩
  · show τ.depot.turned id out.1 b q'.spoil c' f' = _
    rw [hdepot, turned_turned]
  · rw [hq']
    exact (pipeline?_turned hq' b ..).trans (if_pos rfl)
  · obtain ⟨hhandle, hobject⟩ := hlinked hblank hm hl
    refine ⟨?_, hobject⟩
    show (Depot.program? _ id).bind _ = _
    rw [program?_turned hp', if_pos rfl]
    exact hhandle

/-- To bind the spoiled pipeline takes a number for a pipeline, and it has an object with this number unless
that is kept back. -/
theorem Turns.bound (h : Turns σ id p b q m n τ) (hq : σ.depot.pipeline? b = some q)
    (hbound : σ.depot.bound = some b) {x : Option Pipeline}
    (hspoiled : τ.depot.pipeline? b = x.map Pipeline.spoil) :
    Turns σ id p b q m (n + 1) (τ.step (.ask (.bind b))) ∧
      (numberAfter n ≠ .ofNat (UInt32.size - 1) →
        ((τ.step (.ask (.bind b))).depot.pipeline? b).bind (·.handle?) =
          some ⟨(numberAfter n).toNat⟩) := by
  obtain ⟨p', q', c, f, hdepot, hkey, hentry, hretained, hslots⟩ := h.depot
  have hq' : τ.depot.pipeline? b = some q' := by
    rw [hdepot, pipeline?_turned hq, if_pos rfl]
  have hdirty : q'.isDirty = true := by
    obtain ⟨q'', -, rfl⟩ := Option.map_eq_some_iff.mp (hspoiled.symm.trans hq')
    rfl
  have hbound' : τ.depot.bound = some b := by
    rw [hdepot]
    exact hbound
  obtain ⟨hset, bound, hdevice⟩ := play_bind_eq hq' hdirty hbound' τ.journal
  have hwilling := q'.willing_rebuild h.willing τ.depot.programs
  have hkept := q'.slots_rebuild τ.depot.programs τ.journal
  have hhandle := fun hn => q'.handle?_rebuild h.willing hn τ.depot.programs
  rw [step_bind]
  generalize (q'.rebuild τ.depot.programs).play τ.journal = out at *
  refine ⟨⟨h.storage, ⟨p', out.1.2, c, f, ?_, hkey, hentry, hretained, hkept.trans hslots⟩, ?_⟩, ?_⟩
  · refine hset.trans ?_
    rw [hdepot]
    exact (congrArg (fun pipelines => { σ.depot.turned id p' b q' c f with pipelines })
      (congrArg Depot.pipelines (setPipeline_setPipeline σ.depot b q' out.1.2)) :)
  · show (Device.Willing ((τ.depot.bind b).play τ.journal).2.device m (n + 1))
    rw [hdevice]
    exact hwilling.congr rfl
  · intro hn
    show (Depot.pipeline? ((τ.depot.bind b).play τ.journal).1.2 b).bind _ = _
    rw [hset, pipeline?_setPipeline_of hq', if_pos rfl]
    exact hhandle hn

/-- A session goes some rounds: it hears a rumour and binds the pipeline. -/
def rounds (path : String) (b : PipelineId) : Nat → List Action
  | 0 => []
  | n + 1 => rounds path b n ++ (rumour path ++ [.ask (.bind b)])

theorem run_append (σ : Session) (actions actions' : List Action) :
    σ.run (actions ++ actions') = (σ.run actions).run actions' := List.foldl_append

theorem run_singleton (σ : Session) (action : Action) : σ.run [action] = σ.step action := rfl

theorem run_cons (σ : Session) (action : Action) (actions : List Action) :
    σ.run (action :: actions) = (σ.step action).run actions := rfl

/-- Each round takes a number of each kind. -/
theorem turns_rounds (hσ : Reachable σ) (hrevolves : σ.depot.Revolves σ.storage path id b)
    (hp : σ.depot.program? id = some p) (hq : σ.depot.pipeline? b = some q)
    (hbound : σ.depot.bound = some b) (h : σ.device.Willing m n) (k : Nat) :
    Turns σ id p b q (m + k) (n + k) (σ.run (rounds path b k)) := by
  induction k with
  | zero => exact turns_refl hp hq h
  | succ k ih =>
    rw [rounds, run_append, run_append, run_singleton]
    obtain ⟨hheard, hspoiled, -⟩ := ih.heard (hσ.run _) hrevolves hp hq
    exact (hheard.bound hq hbound hspoiled).1

theorem Turns.roomy (h : Turns σ id p b q m n τ) :
    (m ≤ UInt32.size → τ.device.Roomy .program) ∧ (n ≤ UInt32.size → τ.device.Roomy .pipeline) :=
  ⟨fun hm => (h.willing.programRequests ▸ hm :), fun hn => (h.willing.pipelineRequests ▸ hn :)⟩

/-- The other programs are as they were, and so is what they would be compiled from. -/
theorem Turns.program?_of_ne (h : Turns σ id p b q m n τ) (hp : σ.depot.program? id = some p)
    {a : ProgramId} (ha : id ≠ a) :
    τ.depot.program? a = σ.depot.program? a ∧
      ∀ x : Program, τ.depot.resolveProgram x = σ.depot.resolveProgram x := by
  obtain ⟨p', q', c, f, hdepot, -⟩ := h.depot
  rw [hdepot]
  exact ⟨(program?_turned hp a ..).trans (if_neg ha), fun x => resolveProgram_turned rfl rfl ..⟩

theorem Turns.bound_eq (h : Turns σ id p b q m n τ) : τ.depot.bound = σ.depot.bound := by
  obtain ⟨p', q', c, f, hdepot, -⟩ := h.depot
  rw [hdepot]
  rfl

theorem Turns.pipeline?_of_ne (h : Turns σ id p b q m n τ) (hq : σ.depot.pipeline? b = some q)
    {a : PipelineId} (ha : b ≠ a) : τ.depot.pipeline? a = σ.depot.pipeline? a := by
  obtain ⟨p', q', c, f, hdepot, -⟩ := h.depot
  rw [hdepot]
  exact (pipeline?_turned hq a ..).trans (if_neg ha)

/-! ## A session that goes all the way round -/

/-- Two shaders, a pipeline of each, which is bound, and a value for the first. -/
def twinActions : List Action :=
  [.ask (.program "a" .compute []), .ask (.program "c" .compute []),
    .ask (.setUniform ⟨0⟩ "n" (.int .one #v[5])), .ask (.pipeline (.compute ⟨0⟩)),
    .ask (.pipeline (.compute ⟨1⟩)), .ask (.bind ⟨0⟩), .ask (.bind ⟨1⟩)]

/-- After so many rounds the next numbers are those of the first objects. -/
def wornActions : List Action := twinActions ++ rounds "c" ⟨1⟩ 4294967294

/-- In the end the second shader has an object with the number of the first one's. -/
def wrappingActions : List Action := wornActions ++ rumour "c"

def wrappingFiles : Storage :=
  .memory { texts := ⟨[("a", "layout(local_size_x=8) in;\nuniform int n;"), ("c", "uniform int n;")]⟩ }

def twinSample : Session := (start {} wrappingFiles .labeled).run twinActions

def wornSample : Session := (start {} wrappingFiles .labeled).run wornActions

def wrappedSample : Session := (start {} wrappingFiles .labeled).run wrappingActions

def firstProgram : Program where
  key := ⟨"a", .compute, []⟩
  entry := ⟨0⟩
  handle? := some ⟨1⟩
  build := .valid
  workGroup := ⟨8, 1, 1⟩
  uniforms := ⟨[("n", .int .one #v[5])]⟩
  locations := ⟨[("n", some ⟨0⟩)]⟩
  compileCount := 1

def secondProgram : Program where
  key := ⟨"c", .compute, []⟩
  entry := ⟨1⟩
  handle? := some ⟨2⟩
  build := .valid
  workGroup := ⟨1, 1, 1⟩
  compileCount := 1

def firstPipeline : Pipeline := ⟨.compute ⟨0⟩, ⟨some ⟨1⟩, false⟩, 1⟩

def secondPipeline : Pipeline := ⟨.compute ⟨1⟩, ⟨some ⟨2⟩, false⟩, 1⟩

def firstText : String :=
  "#version 450 core\n#extension GL_ARB_separate_shader_objects : enable\n/* File: a */\n" ++
    "layout(local_size_x=8) in;\nuniform int n;\n"

def secondText : String :=
  "#version 450 core\n#extension GL_ARB_separate_shader_objects : enable\n/* File: c */\nuniform int n;\n"

theorem reachable_twinSample : Reachable twinSample := .run (.start ..) _

theorem reachable_wornSample : Reachable wornSample := .run (.start ..) _

theorem reachable_wrappedSample : Reachable wrappedSample := .run (.start ..) _

theorem wornSample_eq : wornSample = twinSample.run (rounds "c" ⟨1⟩ 4294967294) := run_append ..

theorem wrappedSample_eq : wrappedSample = wornSample.run (rumour "c") := run_append ..

/-- What there is before the first round. -/
structure Twin (σ : Session) : Prop where
  first : σ.depot.program? ⟨0⟩ = some firstProgram
  second : σ.depot.program? ⟨1⟩ = some secondProgram
  firstPipeline : σ.depot.pipeline? ⟨0⟩ = some firstPipeline
  secondPipeline : σ.depot.pipeline? ⟨1⟩ = some secondPipeline
  bound : σ.depot.bound = some ⟨1⟩
  firstText : (σ.depot.resolveProgram firstProgram).value.text = firstText
  secondText : (σ.depot.resolveProgram secondProgram).value.text = secondText
  revolves : σ.depot.Revolves σ.storage "c" ⟨1⟩ ⟨1⟩
  willing : σ.device.Willing 2 2

theorem twin_twinSample : Twin twinSample := by
  -- Only these few actions are carried out here; there are too many rounds for that.
  have hclosed : (twinSample.depot.program? ⟨0⟩ = some firstProgram ∧
      twinSample.depot.program? ⟨1⟩ = some secondProgram ∧
      twinSample.depot.pipeline? ⟨0⟩ = some firstPipeline ∧
      twinSample.depot.pipeline? ⟨1⟩ = some secondPipeline ∧ twinSample.depot.bound = some ⟨1⟩ ∧
      (twinSample.depot.resolveProgram firstProgram).value.text = firstText ∧
      (twinSample.depot.resolveProgram secondProgram).value.text = secondText) ∧
      ((reloadFiles twinSample.storage twinSample.depot.graph
          (twinSample.depot.told "c").1).value = (twinSample.depot.graph, [⟨1⟩]) ∧
        (twinSample.depot.told "c").2 = twinSample.depot.changes ∧
        twinSample.depot.programsFrom (twinSample.depot.graph.includersClosure [⟨1⟩]) = [⟨1⟩] ∧
        twinSample.depot.dependentsOf ⟨1⟩ = [⟨1⟩]) ∧
      twinSample.device.poisoned = false ∧ twinSample.device.programOutlook = [] ∧
      twinSample.device.programFault = none ∧ twinSample.device.pipelineOutlook = [] ∧
      twinSample.device.pipelineFault = none ∧ twinSample.device.programRequests = 2 ∧
      twinSample.device.pipelineRequests = 2 := by
    decide +kernel
  obtain ⟨⟨h₁, h₂, h₃, h₄, h₅, h₆, h₇⟩, ⟨hreload, hchanges, haffected, hdependents⟩,
    k₁, k₂, k₃, k₄, k₅, k₆, k₇⟩ := hclosed
  exact ⟨h₁, h₂, h₃, h₄, h₅, h₆, h₇,
    revolves_of_reloadFiles hreload hchanges haffected hdependents,
    ⟨k₁, k₂, k₃, k₄, k₅, k₆, k₇⟩⟩

/-- Sessions after `twinSample`, in which the second shader was compiled and its pipeline bound again. -/
def After (m n : Nat) (τ : Session) : Prop := Turns twinSample ⟨1⟩ secondProgram ⟨1⟩ secondPipeline m n τ

theorem after_wornSample : After 4294967296 4294967296 wornSample := by
  rw [wornSample_eq]
  -- Two numbers of each kind are taken before the first round.
  exact turns_rounds reachable_twinSample twin_twinSample.revolves twin_twinSample.second
    twin_twinSample.secondPipeline twin_twinSample.bound twin_twinSample.willing 4294967294

theorem After.first {τ : Session} (h : After m n τ) :
    τ.depot.program? ⟨0⟩ = some firstProgram ∧ τ.depot.pipeline? ⟨0⟩ = some firstPipeline ∧
      ∃ unit, (τ.depot.resolve ⟨0⟩).value = some unit ∧ unit.text = firstText := by
  obtain ⟨hprogram, hresolve⟩ := h.program?_of_ne twin_twinSample.second (a := ⟨0⟩) (by decide)
  rw [twin_twinSample.first] at hprogram
  refine ⟨hprogram, ?_, (τ.depot.resolveProgram firstProgram).value, ?_, ?_⟩
  · rw [h.pipeline?_of_ne twin_twinSample.secondPipeline (by decide), twin_twinSample.firstPipeline]
  · rw [Depot.resolve, hprogram]
    rfl
  · rw [hresolve, twin_twinSample.firstText]

theorem after_wrappedSample :
    After 4294967297 4294967296 wrappedSample ∧
      wrappedSample.depot.pipeline? ⟨1⟩ = (wornSample.depot.pipeline? ⟨1⟩).map Pipeline.spoil ∧
      (wrappedSample.depot.program? ⟨1⟩).bind (·.handle?) = some ⟨1⟩ ∧
      wrappedSample.device.programs.get? ⟨1⟩ = some (.make .compute secondText) := by
  rw [wrappedSample_eq]
  obtain ⟨hafter, hspoiled, hobject⟩ := Turns.heard after_wornSample reachable_wornSample
    twin_twinSample.revolves twin_twinSample.second twin_twinSample.secondPipeline
  rw [twin_twinSample.secondText] at hobject
  obtain ⟨hhandle, hmade⟩ := hobject rfl (by decide) (by decide +kernel)
  exact ⟨hafter, hspoiled, hhandle, hmade⟩

/-- The second pipeline has an object with the number of the first one's, and is spoiled once more. -/
def reboundSample : Session := (wrappedSample.step (.ask (.bind ⟨1⟩))).run (rumour "c")

/-- The first pipeline is bound, and then the device refuses the second one an object. -/
def unboundSample : Session :=
  reboundSample.run [.ask (.bind ⟨0⟩), .obstruct { pipelineFault := some (.backend "lost") },
    .ask (.bind ⟨1⟩)]

theorem reachable_unboundSample : Reachable unboundSample :=
  .run (.run (reachable_wrappedSample.step _) _) _

theorem after_reboundSample :
    After 4294967298 4294967297 reboundSample ∧
      ∃ q, reboundSample.depot.pipeline? ⟨1⟩ = some q ∧ q.isDirty = true ∧ q.handle? = some ⟨1⟩ := by
  obtain ⟨hafter, hspoiled, -⟩ := after_wrappedSample
  obtain ⟨hbound, hhandle⟩ := Turns.bound hafter twin_twinSample.secondPipeline twin_twinSample.bound
    hspoiled
  obtain ⟨q, hq, hh⟩ := Option.bind_eq_some_iff.mp (hhandle (by decide))
  obtain ⟨hheard, hspoiled', -⟩ := hbound.heard (reachable_wrappedSample.step _)
    twin_twinSample.revolves twin_twinSample.second twin_twinSample.secondPipeline
  rw [hq] at hspoiled'
  exact ⟨hheard, q.spoil, hspoiled', rfl, hh⟩

/-- A pipeline that is not dirty and not the one bound last is bound. -/
theorem step_bind_of_clean {x : PipelineHandle} (hq : σ.depot.pipeline? b = some q)
    (hclean : q.isDirty = false) (hx : q.handle? = some x) (hne : σ.depot.bound ≠ some b) :
    σ.step (.ask (.bind b)) = ⟨σ.storage, { σ.depot with bound := some b },
      σ.journal.push (.bindPipeline x) { σ.device with bound := some x }⟩ := by
  rw [step_bind]
  simp only [Depot.bind, hq, hclean, hx, if_neg hne, Bool.false_eq_true, if_false, play_bind, play_pure]
  rfl

/-- A pipeline that is dirty gives its object back before it is refused another one. -/
theorem step_bind_of_obstacle {x : PipelineHandle} {fault : DeviceError}
    (hq : σ.depot.pipeline? b = some q) (hdirty : q.isDirty = true) (hx : q.handle? = some x)
    (hfault : σ.device.pipelineObstacle? = some fault) :
    σ.step (.ask (.bind b)) = ⟨σ.storage, σ.depot.setPipeline b q.released,
      ⟨(σ.device.dropPipeline x).refusePipeline, σ.journal.calls ++ [.deletePipeline x]⟩⟩ := by
  have hrelease : (q.release.play σ.journal).2 =
      σ.journal.push (.deletePipeline x) (σ.device.dropPipeline x) := by
    rw [Pipeline.play_release_eq, hx]
    rfl
  have hobstacle : (σ.device.dropPipeline x).pipelineObstacle? = some fault := hfault
  have hends := q.ends_rebuild σ.depot.programs σ.journal
  rw [hrelease] at hends
  have hrebuild : ∃ cause, (q.rebuild σ.depot.programs).play σ.journal = ((.error cause, q.released),
      ⟨(σ.device.dropPipeline x).refusePipeline, σ.journal.calls ++ [.deletePipeline x]⟩) := by
    generalize (q.rebuild σ.depot.programs).play σ.journal = out at hends
    cases hends with
    | refused hf => exact ⟨_, rfl⟩
    | made hf =>
      rw [pipelineRefusal?] at hf
      cases hobstacle.symm.trans (Option.or_eq_none_iff.mp hf).1
  obtain ⟨cause, hrebuild⟩ := hrebuild
  rw [step_bind, play_bind_of_isDirty hq hdirty, rebind, play_bind, hrebuild]
  simp only [play_pure]

/-- If two pipelines share an object, the one that is bound loses it when the other is refused a new one. -/
theorem lost_of_shared {a : PipelineId} {o : Pipeline} {x : PipelineHandle} (hne : b ≠ a)
    (ho : σ.depot.pipeline? a = some o) (hclean : o.isDirty = false) (hox : o.handle? = some x)
    (hq : σ.depot.pipeline? b = some q) (hdirty : q.isDirty = true) (hqx : q.handle? = some x)
    (hbound : σ.depot.bound ≠ some a) (fault : DeviceError) :
    let τ := σ.run [.ask (.bind a), .obstruct { pipelineFault := some fault }, .ask (.bind b)]
    τ.depot.bound = some a ∧ τ.depot.pipeline? a = some o ∧
      (∀ id, τ.depot.program? id = σ.depot.program? id) ∧ τ.device.bound = none ∧
      τ.device.pipelines.get? x = none := by
  intro τ
  -- Before the refusal the shared object is bound, as that of the first pipeline.
  let σ' := (σ.step (.ask (.bind a))).step (.obstruct { pipelineFault := some fault })
  have hdepot : σ'.depot = { σ.depot with bound := some a } := by
    show (σ.step (.ask (.bind a))).depot = _
    rw [step_bind_of_clean ho hclean hox hbound]
  have hdevice : σ'.device = { σ.device with bound := some x }.obstruct { pipelineFault := some fault } := by
    show (σ.step (.ask (.bind a))).device.obstruct _ = _
    rw [step_bind_of_clean ho hclean hox hbound]
    rfl
  have hq' : σ'.depot.pipeline? b = some q := by
    rw [hdepot]
    exact hq
  have hlast : τ = σ'.step (.ask (.bind b)) := rfl
  rw [hlast, step_bind_of_obstacle hq' hdirty hqx (by rw [hdevice]; rfl)]
  simp only [device, hdepot]
  refine ⟨rfl, ?_, fun _ => rfl, ?_, (Table.get?_erase ..).trans (if_pos rfl)⟩
  · exact ((pipeline?_setPipeline_of hq a).trans (if_neg hne)).trans ho
  · show (σ'.device.dropPipeline x).bound = none
    rw [hdevice]
    exact if_pos rfl

theorem unboundSample_lost :
    unboundSample.depot.bound = some ⟨0⟩ ∧ unboundSample.depot.pipeline? ⟨0⟩ = some firstPipeline ∧
      unboundSample.depot.program? ⟨0⟩ = some firstProgram ∧ unboundSample.device.bound = none ∧
      unboundSample.device.pipelines.get? ⟨1⟩ = none := by
  obtain ⟨hafter, q, hq, hdirty, hx⟩ := after_reboundSample
  obtain ⟨hprogram, hpipeline, -⟩ := hafter.first
  have hbound : reboundSample.depot.bound ≠ some ⟨0⟩ := by
    rw [hafter.bound_eq, twin_twinSample.bound]
    decide
  obtain ⟨h₁, h₂, h₃, h₄, h₅⟩ :=
    lost_of_shared (by decide) hpipeline rfl rfl hq hdirty hx hbound (.backend "lost")
  exact ⟨h₁, h₂, (h₃ _).trans hprogram, h₄, h₅⟩

end Session

end ShaderDepot
