import ShaderDepot.Proofs.Depot.Books
import ShaderDepot.Proofs.IncludeGraph.Silent

/-!
# Programs of a depot in order

What becomes of a depot in order when a program is used, added or compiled, and when the graph below
the programs changes.
-/

namespace ShaderDepot

namespace Depot

open Device Journal

variable {r : Depot} {j j' : Journal} {pending loose : List ProgramId} {id : ProgramId}
  {p p' : Program}

/-! ## A program is used -/

theorem InOrder.used (h : r.InOrder j pending loose) (hp : r.program? id = some p)
    (hu : p.Used j p' j') : (r.setProgram id p').InOrder j' pending loose := by
  have same := hu.quiet.same
  have hset : ∀ a, (r.setProgram id p').program? a = if id = a then some p' else r.program? a :=
    program?_setProgram_of hp
  have hcalls := hu.quiet.calls
  refine ⟨hu.quiet.sound, h.indexed.setProgram hp hu.key hu.entry, ?_, ?_, h.built, ?_⟩
  · apply h.owns.inherit hcalls
    · intro a q hq
      rw [hset] at hq
      split at hq
      · obtain rfl := Option.some.inj hq
        exact hu.settled (h.owns.settled id p hp)
      · exact (h.owns.settled a q hq).congr hcalls fun _ b _ => same.made b
    · -- The used program has the object that it had.
      intro a q' x hq' hx
      rw [hset] at hq'
      split at hq'
      · next e =>
        obtain rfl := Option.some.inj hq'
        exact ⟨p, e ▸ hp, by rw [← hu.handle, hx]⟩
      · exact ⟨q', hq', hx⟩
    · exact fun a q x hq hx => ⟨q, hq, hx⟩
    · exact fun x hx => (same.knows_iff _).mpr hx
  · intro a q hq hn
    rw [hset] at hq
    have hrefused := Nat.le_of_eq same.refusedPrograms.symm
    split at hq
    · next e =>
      obtain rfl := Option.some.inj hq
      exact (h.compiled id p hp (e ▸ hn)).congr hcalls hu.key hu.handle hu.build
        (congrArg Traced.value (resolveProgram_congr hu.key hu.entry rfl rfl))
        (fun _ b _ => same.made b) hrefused
    · exact (h.compiled a q hq hn).congr hcalls rfl rfl rfl rfl (fun _ b _ => same.made b) hrefused
  · intro hd a q hq hclean hl
    refine (h.attached (hd.of_initial hcalls) a q hq hclean hl).congr rfl rfl
      (fun b _ => by rw [same.pipelines]) ?_
    intro stage b _
    rw [hset]
    split
    · next e =>
      have husable : p'.usable? = p.usable? := by
        rw [Program.usable?, Program.usable?, Program.isValid, Program.isValid, hu.handle, hu.build]
      rw [← e, hp]
      exact husable
    · rfl

/-! ## A program is compiled -/

theorem play_compile_of_none (hp : r.program? id = none) (j : Journal) :
    (r.compile id).play j = (r, j) := by
  unfold compile
  rw [hp]
  exact DeviceM.play_pure r j

theorem play_compile_eq (hp : r.program? id = some p) (j : Journal) :
    (r.compile id).play j =
      let out := (p.compile (r.resolveProgram p).value r.settings.listOnError).play j
      ({ r.setProgram id out.1 with
          compilations := r.compilations + 1
          failures := if out.1.isValid then r.failures else r.failures + 1 }, out.2) := by
  have hc : (r.resolveProgram p).calls = [] := IncludeGraph.calls_resolve ..
  unfold compile
  rw [hp]
  simp only [DeviceM.play_bind, DeviceM.play_pure, DeviceM.play_ofTraced hc]

/-- What a compile leaves, for who does not look at the counts. -/
theorem play_compile (hp : r.program? id = some p) (j : Journal) :
    ∃ compilations failures,
      (r.compile id).play j =
        ({ r.setProgram id
              ((p.compile (r.resolveProgram p).value r.settings.listOnError).play j).1 with
            compilations := compilations
            failures := failures },
          ((p.compile (r.resolveProgram p).value r.settings.listOnError).play j).2) :=
  ⟨_, _, play_compile_eq hp j⟩

/-- A depot as it is seen by who looks neither at its programs nor at its pipelines. -/
def beside (r : Depot) : Depot :=
  { r with programs := #[], pipelines := #[], compilations := 0, failures := 0 }

theorem beside_compile (r : Depot) (id : ProgramId) (j : Journal) :
    ((r.compile id).play j).1.beside = r.beside := by
  cases hp : r.program? id with
  | none => rw [play_compile_of_none hp]
  | some p =>
    obtain ⟨compilations, failures, hplay⟩ := play_compile hp j
    rw [hplay]
    rfl

theorem pipelines_compile (r : Depot) (id : ProgramId) (j : Journal) :
    ((r.compile id).play j).1.pipelines = r.pipelines := by
  cases hp : r.program? id with
  | none => rw [play_compile_of_none hp]
  | some p =>
    obtain ⟨compilations, failures, hplay⟩ := play_compile hp j
    rw [hplay]
    rfl

/-- The objects of the other programs are from before the compile and not touched by it. -/
theorem InOrder.made?_of_ne (h : r.InOrder j (id :: pending) []) (hp : r.program? id = some p)
    {text : String} (hr : p.Recompiled text j p' j') (hd : j'.Distinct .program) {a : ProgramId}
    {q : Program} {x : ProgramHandle} (ha : a ≠ id) (hq : r.program? a = some q)
    (hx : q.handle? = some x) :
    j.Issued (.program x) ∧ j'.device.made? x = j.device.made? x := by
  have hbefore := hd.of_initial hr.calls
  have hissued : j.Issued (.program x) :=
    h.sound.issued_of_knows ((h.owns.settled a q hq).knows hbefore hx)
  -- The compiled program had an object of its own.
  refine ⟨hissued, hr.others hd x hissued fun hpx => ha ?_⟩
  exact h.owns.apart hbefore a id q p x hq hp hx hpx

theorem InOrder.owns_recompiled (h : r.InOrder j (id :: pending) []) (hp : r.program? id = some p)
    {text : String} (hr : p.Recompiled text j p' j') : (r.setProgram id p').Owns j' := by
  have hset : ∀ a, (r.setProgram id p').program? a = if id = a then some p' else r.program? a :=
    program?_setProgram_of hp
  constructor
  · intro a q hq
    rw [hset] at hq
    split at hq
    · obtain rfl := Option.some.inj hq
      exact hr.settled
    · next e =>
      exact (h.owns.settled a q hq).congr hr.calls fun hd x hx =>
        (h.made?_of_ne hp hr hd (Ne.symm e) hq hx).2
  · -- The new object has a number that no object had before.
    intro hd a b q q' x hq hq' hx hx'
    rw [hset] at hq hq'
    split at hq <;> split at hq'
    · next ea eb => rw [← ea, ← eb]
    · next _ eb =>
      obtain rfl := Option.some.inj hq
      exact absurd (h.made?_of_ne hp hr hd (Ne.symm eb) hq' hx').1 ((hr.object hx).1 hd)
    · next ea _ =>
      obtain rfl := Option.some.inj hq'
      exact absurd (h.made?_of_ne hp hr hd (Ne.symm ea) hq hx).1 ((hr.object hx').1 hd)
    · exact h.owns.apart (hd.of_initial hr.calls) a b q q' x hq hq' hx hx'
  · intro hd a q x hq hx
    rw [Knows, hr.pipelines]
    exact h.owns.known (hd.of_initial hr.calls) a q x hq hx
  · exact fun hd => h.owns.pipelinesApart (hd.of_initial hr.calls)

/-- A program that was compiled is settled, and its pipelines are not to be trusted. -/
theorem InOrder.recompiled (h : r.InOrder j (id :: pending) []) (hp : r.program? id = some p)
    (hr : p.Recompiled (r.resolveProgram p).value.text j p' j') :
    (r.setProgram id p').InOrder j' pending [id] := by
  have hset : ∀ a, (r.setProgram id p').program? a = if id = a then some p' else r.program? a :=
    program?_setProgram_of hp
  have hunit : ((r.setProgram id p').resolveProgram p').value = (r.resolveProgram p).value :=
    congrArg Traced.value (resolveProgram_congr hr.key hr.entry rfl rfl)
  refine ⟨hr.sound, h.indexed.setProgram hp hr.key hr.entry, h.owns_recompiled hp hr, ?_, h.built, ?_⟩
  · intro a q hq hn
    rw [hset] at hq
    split at hq
    · -- The unit is the one that was just compiled, for a compile leaves the graph alone.
      obtain rfl := Option.some.inj hq
      constructor
      · exact hr.outcome.imp (·.1) (·.1)
      · intro _ x hx
        rw [hunit, hr.key]
        exact (hr.object hx).2
      · rw [hunit, hr.key]
        exact hr.verdict.1
      · rw [hunit, hr.key]
        exact hr.verdict.2
    · next e =>
      have hn' : a ∉ id :: pending := by
        rw [List.mem_cons]
        rintro (rfl | hm)
        · exact e rfl
        · exact hn hm
      exact (h.compiled a q hq hn').congr hr.calls rfl rfl rfl rfl
        (fun hd x hx => (h.made?_of_ne hp hr hd (Ne.symm e) hq hx).2) hr.refusedPrograms
  · -- Only the pipelines of the compiled program may have lost what was attached to them.
    intro hd a q hq hclean hl
    refine (h.attached (hd.of_initial hr.calls) a q hq hclean fun _ _ _ => List.not_mem_nil).congr rfl rfl
      (fun x _ => by rw [hr.pipelines]) fun stage b hb => ?_
    rw [hset, if_neg fun e => hl stage b hb (List.mem_singleton.mpr e.symm)]

theorem InOrder.compile (h : r.InOrder j (id :: pending) []) :
    ((r.compile id).play j).1.InOrder ((r.compile id).play j).2 pending [id] := by
  cases hp : r.program? id with
  | none =>
    -- There is nothing to compile under this id, and nothing that had to be.
    rw [play_compile_of_none hp]
    refine ⟨h.sound, h.indexed, h.owns, fun a q hq hn => ?_, h.built, fun hd a q hq hclean _ => ?_⟩
    · apply h.compiled a q hq
      rw [List.mem_cons]
      rintro (rfl | hm)
      · rw [hp] at hq
        cases hq
      · exact hn hm
    · exact h.attached hd a q hq hclean fun _ _ _ => List.not_mem_nil
  | some p =>
    obtain ⟨compilations, failures, hplay⟩ := play_compile hp j
    rw [hplay]
    have hr := Program.recompiled_compile h.sound (h.owns.settled id p hp) (r.resolveProgram p).value
      r.settings.listOnError
    exact (h.recompiled hp hr).same rfl rfl rfl rfl rfl rfl rfl

/-! ## The pipelines of a compiled program are spoiled -/

theorem InOrder.spoilDependents (h : r.InOrder j pending [id]) :
    (r.spoilDependents id).InOrder j pending [] := by
  have hold := fun a q' => @pipeline?_spoilDependents r a q' id
  have hindexed := h.indexed.spoilDependents id
  unfold Depot.spoilDependents at hold hindexed ⊢
  have heq := foldl_spoilPipeline_eq r (r.dependentsOf id)
  generalize (r.dependentsOf id).foldl spoilPipeline r = r' at hold hindexed heq
  have hprogram : ∀ a, r'.program? a = r.program? a := by
    intro a
    rw [heq]
    rfl
  refine ⟨h.sound, hindexed, ?_, ?_, ?_, ?_⟩
  · apply h.owns.inherit List.prefix_rfl
    · intro a q hq
      rw [hprogram] at hq
      exact h.owns.settled a q hq
    · intro a q x hq hx
      rw [hprogram] at hq
      exact ⟨q, hq, hx⟩
    · intro a q' x hq' hx
      obtain ⟨q, hq, -, hhandle, -⟩ := hold a q' hq'
      exact ⟨q, hq, hhandle ▸ hx⟩
    · exact fun x hx => hx
  · intro a q hq hn
    rw [hprogram] at hq
    rw [heq]
    exact (h.compiled a q hq hn).congr List.prefix_rfl rfl rfl rfl rfl (fun _ _ _ => rfl) (Nat.le_refl _)
  · intro a q' hq' hclean
    obtain ⟨q, hq, -, hhandle, hwas⟩ := hold a q' hq'
    rw [hhandle]
    exact h.built a q hq (hwas hclean).1
  · intro hd a q' hq' hclean _
    obtain ⟨q, hq, hslots, hhandle, hwas⟩ := hold a q' hq'
    obtain ⟨hclean', hm⟩ := hwas hclean
    -- A pipeline of the program is among those that were spoiled.
    refine (h.attached hd a q hq hclean' fun stage b hb hbl => hm ?_).congr hslots hhandle
      (fun _ _ => rfl) fun _ b _ => by rw [hprogram]
    rw [← List.mem_singleton.mp hbl]
    exact (h.indexed.slots a q stage b hq hb).2

theorem InOrder.recompile (h : r.InOrder j (id :: pending) []) :
    ((r.recompile id).play j).1.InOrder ((r.recompile id).play j).2 pending [] := by
  unfold Depot.recompile
  rw [DeviceM.play_bind, DeviceM.play_pure]
  exact h.compile.spoilDependents

/-! ## A program is added -/

/-- A program that has its place but was not compiled. -/
theorem InOrder.addProgram (h : r.InOrder j pending loose) {key : ProgramKey} {entry : FileId}
    (hkey : r.findKey? key = none) (hentry : r.graph.find? key.path = some entry)
    (hasked : ∃ path, Path.normalize path = key.path) :
    (r.addProgram key entry).InOrder j (⟨r.programs.size⟩ :: pending) loose := by
  have hadd := program?_addProgram r key entry
  refine ⟨h.sound, h.indexed.addProgram hkey hentry hasked, ?_, ?_, h.built, ?_⟩
  · apply h.owns.inherit List.prefix_rfl
    · intro a q hq
      rw [hadd] at hq
      split at hq
      · obtain rfl := Option.some.inj hq
        exact Program.settled_of_none nofun rfl
      · exact h.owns.settled a q hq
    · -- The new program has no object yet.
      intro a q x hq hx
      rw [hadd] at hq
      split at hq
      · obtain rfl := Option.some.inj hq
        cases hx
      · exact ⟨q, hq, hx⟩
    · exact fun a q x hq hx => ⟨q, hq, hx⟩
    · exact fun x hx => hx
  · intro a q hq hn
    rw [List.mem_cons, not_or] at hn
    rw [hadd, if_neg hn.1] at hq
    exact (h.compiled a q hq hn.2).congr List.prefix_rfl rfl rfl rfl rfl (fun _ _ _ => rfl)
      (Nat.le_refl _)
  · intro hd a q hq hclean hl
    refine (h.attached hd a q hq hclean hl).congr rfl rfl (fun _ _ => rfl) fun stage b hb => ?_
    -- The programs of a pipeline were there before.
    obtain ⟨q', hq'⟩ := Option.isSome_iff_exists.mp (h.indexed.slots a q stage b hq hb).1
    have hlt := lt_size_of_program? hq'
    rw [hadd, if_neg]
    rintro rfl
    exact Nat.lt_irrefl _ hlt

/-- A program that no pipeline holds spoils none. -/
theorem InOrder.tighten (h : r.InOrder j pending [id])
    (hn : ∀ a q stage, r.pipeline? a = some q → q.slots.get? stage ≠ some id) :
    r.InOrder j pending [] where
  sound := h.sound
  indexed := h.indexed
  owns := h.owns
  compiled := h.compiled
  built := h.built
  attached hd a q hq hclean _ := by
    refine h.attached hd a q hq hclean fun stage b hb hbl => hn a q stage hq ?_
    rw [hb, List.mem_singleton.mp hbl]

/-! ## The graph changes -/

/-- Files may be read again and get places.  The programs that reach a file read again have to be
compiled. -/
theorem InOrder.setGraph (h : r.InOrder j pending loose) {g : IncludeGraph}
    {reread : FileId → Prop} (pending' : List ProgramId) (hs : g.Settled)
    (hg : IncludeGraph.Grows reread r.graph g)
    (hn : ∀ a q, r.program? a = some q → a ∉ pending' → a ∉ pending ∧
      ∀ b, b.index < r.graph.size → g.Reaches q.entry b → ¬reread b) :
    InOrder { r with graph := g } j pending' loose where
  sound := h.sound
  indexed := {
    graph := hs
    version := hg.defaultVersion.trans h.indexed.version
    entry := fun a q hq => hg.lookup _ _ (h.indexed.entry a q hq)
    asked := h.indexed.asked
    keys := h.indexed.keys
    users := h.indexed.users
    slots := h.indexed.slots }
  owns := ⟨h.owns.settled, h.owns.apart, h.owns.known, h.owns.pipelinesApart⟩
  compiled a q hq ha := by
    -- Nothing that the entry file reaches was read again, so the unit is the same in the new graph.
    obtain ⟨ha', hreach⟩ := hn a q hq ha
    have hentry := h.indexed.graph.lt_size_of_lookup? (h.indexed.entry a q hq)
    exact (h.compiled a q hq ha').congr List.prefix_rfl rfl rfl rfl
      (hg.resolve_eq h.indexed.graph.toWellFormed hentry hreach _ _) (fun _ _ _ => rfl) (Nat.le_refl _)
  built := h.built
  attached := h.attached

end Depot

end ShaderDepot
