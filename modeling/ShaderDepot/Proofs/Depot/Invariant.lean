import ShaderDepot.Proofs.Depot.Views
import ShaderDepot.Proofs.IncludeGraph.Renaming
import ShaderDepot.Proofs.Pipeline.Rebuild
import ShaderDepot.Proofs.Program.Compile

/-!
# A depot in order

What holds of a depot and its device between two requests (`Depot.InOrder`): the books of the depot
agree (`Indexed`), it owns its objects on the device, each by one program or pipeline (`Owns`), each
program was compiled from the unit that it has now (`Compiled`), and to each pipeline that is not dirty
the right programs are attached (`Attached`).  Within a request some programs may still have to be
compiled, and some may just have been, so that their pipelines are not yet spoiled.
-/

namespace ShaderDepot

namespace Depot

open Device Journal

structure Indexed (r : Depot) : Prop where
  graph : r.graph.Settled
  version : r.graph.defaultVersion = r.settings.defaultVersion
  /-- A program starts from the file that its key names. -/
  entry : ∀ id p, r.program? id = some p → r.graph.find? p.key.path = some p.entry
  /-- A program was asked for by some path. -/
  asked : ∀ id p, r.program? id = some p → ∃ path, Path.normalize path = p.key.path
  keys : ∀ key id, r.findKey? key = some id ↔ ∃ p, r.program? id = some p ∧ p.key = key
  users : ∀ id p, r.program? id = some p → id ∈ r.usersOf p.entry
  /-- The programs of a pipeline are there and lead to it. -/
  slots : ∀ id p stage a, r.pipeline? id = some p → p.slots.get? stage = some a →
    (r.program? a).isSome ∧ id ∈ r.dependentsOf a

/-- While the numbers of objects are distinct, a depot has its objects to itself. -/
structure Owns (r : Depot) (j : Journal) : Prop where
  settled : ∀ id p, r.program? id = some p → p.Settled j
  apart : j.Distinct .program → ∀ a b p q h, r.program? a = some p → r.program? b = some q →
    p.handle? = some h → q.handle? = some h → a = b
  known : j.Distinct .pipeline → ∀ id p h, r.pipeline? id = some p → p.handle? = some h →
    j.device.Knows (.pipeline h)
  pipelinesApart : j.Distinct .pipeline → ∀ a b p q h, r.pipeline? a = some p →
    r.pipeline? b = some q → p.handle? = some h → q.handle? = some h → a = b

structure Compiled (r : Depot) (j : Journal) (p : Program) : Prop where
  build : p.build = .valid ∨ p.build = .invalid
  text : j.Distinct .program → ∀ h, p.handle? = some h →
    j.device.made? h = some (.make p.key.stage (r.resolveProgram p).value.text)
  linked : p.build = .valid →
    (Compiler.compile p.key.stage (r.resolveProgram p).value.text).linked = true
  verdict : j.device.refusedPrograms = 0 →
    (Compiler.compile p.key.stage (r.resolveProgram p).value.text).linked = true → p.build = .valid

/-- The pipeline has an object, and the usable objects of its programs are attached to it. -/
def Attached (r : Depot) (d : Device) (p : Pipeline) : Prop :=
  ∃ h o, p.handle? = some h ∧ d.pipelines.get? h = some o ∧
    ∀ stage, o.stages.get? stage = p.wanted? r.programs stage

/-- The depot is in order, but for the programs `pending`, which have to be compiled, and the
pipelines of the programs `loose`, which have just been. -/
structure InOrder (r : Depot) (j : Journal) (pending loose : List ProgramId) : Prop where
  sound : j.Sound
  indexed : r.Indexed
  owns : r.Owns j
  compiled : ∀ id p, r.program? id = some p → id ∉ pending → r.Compiled j p
  /-- A pipeline that is not dirty has an object. -/
  built : ∀ id p, r.pipeline? id = some p → p.isDirty = false → p.handle?.isSome
  attached : j.Distinct .pipeline → ∀ id p, r.pipeline? id = some p → p.isDirty = false →
    (∀ stage a, p.slots.get? stage = some a → a ∉ loose) → r.Attached j.device p

variable {r r' : Depot} {j j' : Journal} {d d' : Device} {pending loose : List ProgramId}
  {id : ProgramId} {p p' : Program}

/-! ## What each part depends on -/

theorem Compiled.congr (h : r.Compiled j p) (hcalls : j.calls <+: j'.calls) (hkey : p'.key = p.key)
    (hhandle : p'.handle? = p.handle?) (hbuild : p'.build = p.build)
    (hunit : (r'.resolveProgram p').value = (r.resolveProgram p).value)
    (hmade : j'.Distinct .program → ∀ a, p.handle? = some a →
      j'.device.made? a = j.device.made? a)
    (hrefused : j.device.refusedPrograms ≤ j'.device.refusedPrograms) : r'.Compiled j' p' where
  build := by
    rw [hbuild]
    exact h.build
  text hd a ha := by
    rw [hhandle] at ha
    rw [hmade hd a ha, hkey, hunit]
    exact h.text (hd.of_initial hcalls) a ha
  linked hv := by
    rw [hbuild] at hv
    rw [hkey, hunit]
    exact h.linked hv
  verdict hr hl := by
    rw [hkey, hunit] at hl
    rw [hbuild]
    apply h.verdict _ hl
    omega

/-- Where nothing was refused, a program is valid exactly when its unit links. -/
theorem Compiled.isValid_iff (h : r.Compiled j p) (hrefused : j.device.refusedPrograms = 0) :
    p.isValid = true ↔
      (Compiler.compile p.key.stage (r.resolveProgram p).value.text).linked = true := by
  rw [Program.isValid, decide_eq_true_iff]
  exact ⟨h.linked, h.verdict hrefused⟩

theorem resolveProgram_congr (hkey : p'.key = p.key) (hentry : p'.entry = p.entry)
    (hgraph : r'.graph = r.graph) (hsettings : r'.settings = r.settings) :
    r'.resolveProgram p' = r.resolveProgram p := by
  rw [resolveProgram, resolveProgram, hkey, hentry, hgraph, hsettings]

theorem wanted?_congr {q : Pipeline} {programs programs' : Array Program}
    (h : ∀ stage a, q.slots.get? stage = some a →
      (programs'[a.index]?).bind Program.usable? = (programs[a.index]?).bind Program.usable?)
    (stage : Stage) : q.wanted? programs' stage = q.wanted? programs stage := by
  rw [Pipeline.wanted?, Pipeline.wanted?]
  cases hs : q.slots.get? stage with
  | none => rfl
  | some a => exact h stage a hs

theorem Attached.congr {q q' : Pipeline} (h : r.Attached d q) (hslots : q'.slots = q.slots)
    (hhandle : q'.handle? = q.handle?)
    (hpipelines : ∀ a, q.handle? = some a → d'.pipelines.get? a = d.pipelines.get? a)
    (husable : ∀ stage a, q.slots.get? stage = some a →
      (r'.program? a).bind Program.usable? = (r.program? a).bind Program.usable?) :
    r'.Attached d' q' := by
  obtain ⟨a, o, ha, ho, hstages⟩ := h
  refine ⟨a, o, hhandle.trans ha, (hpipelines a ha).trans ho, fun stage => ?_⟩
  rw [hstages, ← wanted?_congr husable, Pipeline.wanted?, Pipeline.wanted?, hslots]

/-- A depot that hands out no handle anew has its objects to itself as before. -/
theorem Owns.inherit (h : r.Owns j) (hcalls : j.calls <+: j'.calls)
    (hsettled : ∀ a q, r'.program? a = some q → q.Settled j')
    (hprogram : ∀ a q x, r'.program? a = some q → q.handle? = some x →
      ∃ q₀, r.program? a = some q₀ ∧ q₀.handle? = some x)
    (hpipeline : ∀ a q x, r'.pipeline? a = some q → q.handle? = some x →
      ∃ q₀, r.pipeline? a = some q₀ ∧ q₀.handle? = some x)
    (hknown : ∀ x, j.device.Knows (.pipeline x) → j'.device.Knows (.pipeline x)) : r'.Owns j' where
  settled := hsettled
  apart hd a b q q' x hq hq' hx hx' := by
    -- Whoever shares a handle now shared it before.
    obtain ⟨q₀, hq₀, hx₀⟩ := hprogram a q x hq hx
    obtain ⟨q₁, hq₁, hx₁⟩ := hprogram b q' x hq' hx'
    exact h.apart (hd.of_initial hcalls) a b q₀ q₁ x hq₀ hq₁ hx₀ hx₁
  known hd a q x hq hx := by
    obtain ⟨q₀, hq₀, hx₀⟩ := hpipeline a q x hq hx
    exact hknown x (h.known (hd.of_initial hcalls) a q₀ x hq₀ hx₀)
  pipelinesApart hd a b q q' x hq hq' hx hx' := by
    obtain ⟨q₀, hq₀, hx₀⟩ := hpipeline a q x hq hx
    obtain ⟨q₁, hq₁, hx₁⟩ := hpipeline b q' x hq' hx'
    exact h.pipelinesApart (hd.of_initial hcalls) a b q₀ q₁ x hq₀ hq₁ hx₀ hx₁

/-- What a pipeline wants at a stage is an object that linked. -/
theorem Owns.isLinked_of_wanted? (h : r.Owns j) (hd : j.Distinct .program) {q : Pipeline}
    {stage : Stage} {a : ProgramHandle} (ha : q.wanted? r.programs stage = some a) :
    j.device.isLinked a = true := by
  obtain ⟨p, hp, hu⟩ := Option.bind_eq_some_iff.mp ha
  obtain ⟨b, -, hb⟩ := Option.bind_eq_some_iff.mp hp
  have hhandle : p.handle? = some a := (Program.usable?_eq_some.mp hu).1
  exact ((h.settled b p hb).holds hd a hhandle).linked

/-! ## A depot whose device does the same -/

/-- Calls that leave the objects as they are leave a depot in order. -/
theorem InOrder.quiet (h : r.InOrder j pending loose) (hq : Quiet j j') :
    r.InOrder j' pending loose where
  sound := hq.sound
  indexed := h.indexed
  owns := by
    apply h.owns.inherit hq.calls
    · intro a q ha
      exact (h.owns.settled a q ha).congr hq.calls fun _ b _ => hq.same.made b
    · exact fun a q x ha hx => ⟨q, ha, hx⟩
    · exact fun a q x ha hx => ⟨q, ha, hx⟩
    · exact fun x hx => (hq.same.knows_iff _).mpr hx
  compiled a q ha hn := (h.compiled a q ha hn).congr hq.calls rfl rfl rfl rfl
    (fun _ b _ => hq.same.made b) (Nat.le_of_eq hq.same.refusedPrograms.symm)
  built := h.built
  attached hd a q ha hclean hl := (h.attached (hd.of_initial hq.calls) a q ha hclean hl).congr rfl rfl
    (fun b _ => by rw [hq.same.pipelines]) fun _ _ _ => rfl

/-- What a depot knows besides its graph, programs and pipelines is of no account. -/
theorem InOrder.same (h : r.InOrder j pending loose) (hgraph : r'.graph = r.graph)
    (hsettings : r'.settings = r.settings) (hprograms : r'.programs = r.programs)
    (hpipelines : r'.pipelines = r.pipelines) (hkeys : r'.keyIndex = r.keyIndex)
    (husages : r'.usages = r.usages) (hdependents : r'.dependents = r.dependents) :
    r'.InOrder j pending loose := by
  obtain ⟨settings', graph', programs', keyIndex', usages', pipelines', slotsIndex', dependents',
    bound', changes', watched', compilations', failures'⟩ := r'
  simp only at hgraph hsettings hprograms hpipelines hkeys husages hdependents
  subst hgraph hsettings hprograms hpipelines hkeys husages hdependents
  exact ⟨h.sound, ⟨h.indexed.graph, h.indexed.version, h.indexed.entry, h.indexed.asked,
      h.indexed.keys, h.indexed.users, h.indexed.slots⟩,
    ⟨h.owns.settled, h.owns.apart, h.owns.known, h.owns.pipelinesApart⟩,
    fun a q ha hn => ⟨(h.compiled a q ha hn).build, (h.compiled a q ha hn).text,
      (h.compiled a q ha hn).linked, (h.compiled a q ha hn).verdict⟩, h.built, h.attached⟩

end Depot

end ShaderDepot
