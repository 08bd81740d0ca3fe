import Mathlib.Algebra.Order.Floor.Div
import ShaderDepot.Proofs.Depot.Tracked
import ShaderDepot.Proofs.Session.Wrapped

/-!
# Dispatches run what the graph gives now

A dispatch is forwarded on the word of the depot alone: which pipeline it bound last, that this is not
dirty, and that its compute program is valid.  As long as no number was taken twice, the device agrees with
it (`InOrder.runs`), and the work groups that a program remembers are those of its object (`Depot.Sized`).
Hence what is forwarded runs the present text, in the least number of work groups
(`Session.dispatch_current`).
-/

namespace ShaderDepot

namespace Depot

open Device Journal DeviceM

/-! ## Counting work groups -/

/-- A number of groups of a size is the least that covers a number of threads, and not the larger of the
two. -/
structure Covers (groups size threads : Nat) : Prop where
  enough : (threads : Int) ≤ groups * size
  least : ((groups : Int) - 1) * size < threads
  zero_iff : groups = 0 ↔ threads = 0
  fits : groups ≤ threads

theorem groupsFor_le_iff {threads size groups : Nat} (h : 0 < size) :
    groupsFor threads size ≤ groups ↔ threads ≤ size * groups := by
  rw [groupsFor, ← Nat.ceilDiv_eq_add_pred_div, ceilDiv_le_iff_le_mul h]

theorem covers_groupsFor (threads : Nat) {size : Nat} (h : 0 < size) :
    Covers (groupsFor threads size) size threads where
  enough := by
    have henough : threads ≤ size * groupsFor threads size := (groupsFor_le_iff h).mp (Nat.le_refl _)
    rw [Nat.mul_comm] at henough
    exact_mod_cast henough
  least := by
    cases hg : groupsFor threads size with
    | zero =>
      have hsize : (0 : Int) < size := Int.ofNat_lt.mpr h
      omega
    | succ g =>
      -- One group less would have been enough otherwise.
      have hless : ¬threads ≤ size * g := by
        rw [← groupsFor_le_iff h]
        omega
      rw [Nat.mul_comm, not_le] at hless
      push_cast
      rw [add_sub_cancel_right]
      exact_mod_cast hless
  zero_iff := by
    rw [← Nat.le_zero, groupsFor_le_iff h, Nat.mul_zero, Nat.le_zero]
  fits := (groupsFor_le_iff h).mpr (Nat.le_mul_of_pos_left threads h)

/-- Work groups cover threads on each axis. -/
structure CoversAll (groups size threads : Extent) : Prop where
  x : Covers groups.x size.x threads.x
  y : Covers groups.y size.y threads.y
  z : Covers groups.z size.z threads.z

/-! ## The work groups that programs remember -/

/-- A program remembers work groups only if it is a compute program with an object.  While the numbers of
programs are distinct, they are those that the device reports for this object. -/
structure Sized (r : Depot) (j : Journal) : Prop where
  reported : j.Distinct .program → ∀ id p, r.program? id = some p →
    p.workGroup = (p.handle?.map j.device.workGroup).getD .zero
  zero : ∀ id p, r.program? id = some p → p.handle? = none ∨ p.key.stage ≠ .compute →
    p.workGroup = .zero

variable {r r' : Depot} {j j' : Journal} {id : ProgramId} {p p' : Program}

theorem workGroup_congr {d d' : Device} {x : ProgramHandle} (hmade : d'.made? x = d.made? x) :
    d'.workGroup x = d.workGroup x := by
  rw [workGroup_eq, workGroup_eq, hmade]

/-- It counts only which objects the programs have, and how these were made. -/
theorem Sized.congr (h : r.Sized j)
    (hprogram : ∀ id p', r'.program? id = some p' → ∃ p, r.program? id = some p ∧
      p'.key = p.key ∧ p'.workGroup = p.workGroup ∧ p'.handle? = p.handle?)
    (hdistinct : j'.Distinct .program → j.Distinct .program)
    (hmade : ∀ x, j'.device.made? x = j.device.made? x) : r'.Sized j' where
  reported hd id p' hp' := by
    obtain ⟨p, hp, -, hsize, hhandle⟩ := hprogram id p' hp'
    have hreported : j'.device.workGroup = j.device.workGroup :=
      funext fun x => workGroup_congr (hmade x)
    rw [hsize, hhandle, hreported]
    exact h.reported (hdistinct hd) id p hp
  zero id p' hp' hn := by
    obtain ⟨p, hp, hkey, hsize, hhandle⟩ := hprogram id p' hp'
    rw [hkey, hhandle] at hn
    exact hsize.trans (h.zero id p hp hn)

/-- To make a pipeline anew changes no program. -/
theorem Sized.rebind (h : r.Sized j) {id : PipelineId} {p : Pipeline} (hr : r.InOrder j [] [])
    (hp : r.pipeline? id = some p) {out : (Except DepotError Unit × Depot) × Journal}
    (hout : Rebinds r id p j out) (hdistinct : out.2.Distinct .program → j.Distinct .program) :
    out.1.2.Sized out.2 := by
  have hrebuilt := Pipeline.rebuilt_rebuild hr.sound (fun x hx hd => hr.owns.known hd id p x hp hx)
    r.programs fun i q => hr.owns.settled ⟨i⟩ q
  have hmade := hrebuilt.altered.made
  cases hout with
  | refused fault hbuilt =>
    rw [hbuilt] at hmade
    exact h.congr (fun a q hq => ⟨q, hq, rfl, rfl, rfl⟩) hdistinct hmade
  | bound hbuilt =>
    rw [hbuilt] at hmade
    exact h.congr (fun a q hq => ⟨q, hq, rfl, rfl, rfl⟩) hdistinct hmade

theorem Sized.compile (h : r.Sized j) {pending : List ProgramId}
    (hr : r.InOrder j (id :: pending) []) (hp : r.program? id = some p) {text : String}
    (hnew : p.Renewed text j p' j') : (r.setProgram id p').Sized j' where
  reported hd a q hq := by
    rw [program?_setProgram_of hp] at hq
    split at hq
    · obtain rfl := Option.some.inj hq
      exact hnew.workGroup
    · next hne =>
      -- The compile leaves the objects of other programs alone.
      rw [h.reported (hd.of_initial hnew.calls) a q hq]
      cases hx : q.handle? with
      | none => rfl
      | some x =>
        have hmade := (hr.made?_of_ne hp hnew.toRecompiled hd (Ne.symm hne) hq hx).2
        exact (workGroup_congr hmade).symm
  zero a q hq hn := by
    rw [program?_setProgram_of hp] at hq
    split at hq
    · obtain rfl := Option.some.inj hq
      rw [hnew.workGroup]
      cases hx : p'.handle? with
      | none => rfl
      | some x =>
        -- The device reports no work groups for an object of another stage.
        rw [hx, hnew.key] at hn
        have hstage : p.key.stage ≠ .compute := hn.resolve_left nofun
        rw [Option.map_some, Option.getD_some, workGroup_eq, (hnew.object hx).2]
        exact if_neg hstage
    · exact h.zero a q hq hn

theorem Sized.step (hs : Step (r, j) (r', j')) (h : r.Sized j) : r'.Sized j' := by
  have hdistinct : j'.Distinct .program → j.Distinct .program := hs.distinct
  cases hs with
  | aside graph changes watched hdevice hissues =>
    exact h.congr (fun a q hq => ⟨q, hq, rfl, rfl, rfl⟩) hdistinct fun x => by rw [hdevice]
  | forget => exact ⟨h.reported, h.zero⟩
  | @use _ _ _ id p p' hr hp hu hfixed hbeside =>
    refine h.congr ?_ hdistinct hu.quiet.same.made
    intro a q hq
    rw [program?_setProgram_of hp] at hq
    split at hq
    · next e =>
      obtain rfl := Option.some.inj hq
      exact ⟨p, e ▸ hp, hu.key, (congrArg Program.workGroup hfixed :), hu.handle⟩
    · exact ⟨q, hq, rfl, rfl, rfl⟩
  | addProgram key entry =>
    have hadd := program?_addProgram r key entry
    constructor
    · intro hd a q hq
      rw [hadd] at hq
      split at hq
      · obtain rfl := Option.some.inj hq
        rfl
      · exact h.reported hd a q hq
    · intro a q hq hn
      rw [hadd] at hq
      split at hq
      · obtain rfl := Option.some.inj hq
        rfl
      · exact h.zero a q hq hn
  | compile hr hp hnew compilations failures =>
    have hcompiled := h.compile hr hp hnew
    exact ⟨hcompiled.reported, hcompiled.zero⟩
  | spoil id =>
    rw [spoilDependents, foldl_spoilPipeline_eq]
    exact ⟨h.reported, h.zero⟩
  | @addPipeline _ _ slots hnew =>
    obtain ⟨dependents, heq⟩ := addPipeline_eq r slots
    rw [heq]
    exact ⟨h.reported, h.zero⟩
  | rebind hr hp hdirty hout => exact h.rebind hr hp hout hdistinct
  | bind hp hx => exact h.congr (fun a q hq => ⟨q, hq, rfl, rfl, rfl⟩) hdistinct fun _ => rfl

/-! ## What a dispatch runs -/

/-- The pipeline that the depot takes for current is not dirty, and its compute program is valid. -/
def Ready (r : Depot) (a : ProgramId) (q : Program) : Prop :=
  ∃ id p, r.bound = some id ∧ r.pipeline? id = some p ∧ p.isDirty = false ∧
    p.slots.get? .compute = some a ∧ r.program? a = some q ∧ q.isValid = true

theorem boundCompute_eq_some {q : Program} :
    r.boundCompute.value = some q ↔ ∃ a, r.Ready a q := by
  unfold boundCompute
  cases hp : r.bound.bind r.pipeline? with
  | none =>
    constructor
    · exact nofun
    · rintro ⟨a, id, p, hbound, hp', -⟩
      rw [hbound, Option.bind_some, hp'] at hp
      cases hp
  | some p =>
    obtain ⟨id, hbound, hp⟩ := Option.bind_eq_some_iff.mp hp
    simp only
    split
    · next hdirty =>
      constructor
      · exact nofun
      · rintro ⟨a, id', p', hbound', hp', hclean, -⟩
        obtain rfl := Option.some.inj (hbound.symm.trans hbound')
        obtain rfl := Option.some.inj (hp.symm.trans hp')
        rw [hdirty] at hclean
        cases hclean
    · next hclean =>
      show ((p.slots.get? .compute).bind r.program?).filter _ = some q ↔ _
      rw [Option.filter_eq_some_iff, Option.bind_eq_some_iff]
      constructor
      · rintro ⟨⟨a, ha, hq⟩, hvalid⟩
        exact ⟨a, id, p, hbound, hp, Bool.eq_false_iff.mpr hclean, ha, hq, hvalid⟩
      · rintro ⟨a, id', p', hbound', hp', -, ha, hq, hvalid⟩
        obtain rfl := Option.some.inj (hbound.symm.trans hbound')
        obtain rfl := Option.some.inj (hp.symm.trans hp')
        exact ⟨⟨a, ha, hq⟩, hvalid⟩

/-- A dispatch on the device would run a program of the depot by an object of it. -/
structure Runs (r : Depot) (d : Device) (a : ProgramId) (x : ProgramHandle) : Prop where
  /-- The object of a clean pipeline that holds the program is current, and the program's is attached. -/
  pipeline : ∃ id p h, r.bound = some id ∧ r.pipeline? id = some p ∧ p.isDirty = false ∧
    p.slots.get? .compute = some a ∧ p.handle? = some h ∧ d.bound = some h ∧
    d.attached? h .compute = some x
  program : ∃ q, r.program? a = some q ∧ q.isValid = true ∧ q.handle? = some x
  live : d.programs.contains x = true
  linked : d.isLinked x = true
  /-- The object is made of the text that the graph gives now. -/
  text : ∃ unit, (r.resolve a).value = some unit ∧ d.source? x = some unit.text

theorem InOrder.runs (hr : r.InOrder j [] []) (ht : r.Tracks j) (hd : ∀ kind, j.Distinct kind)
    {a : ProgramId} {q : Program} (h : r.Ready a q) : ∃ x, q.handle? = some x ∧ r.Runs j.device a x := by
  obtain ⟨id, p, hbound, hp, hclean, ha, hq, hvalid⟩ := h
  obtain ⟨h, o, hh, ho, hstages⟩ := hr.attached (hd _) id p hp hclean fun _ _ _ => List.not_mem_nil
  obtain ⟨x, hx, hlinked⟩ := ((hr.owns.settled a q hq).isValid_iff (hd _)).mp hvalid
  have hwanted : p.wanted? r.programs .compute = some x := by
    rw [Pipeline.wanted?, ha]
    show (r.program? a).bind Program.usable? = some x
    rw [hq]
    exact Program.usable?_eq_some.mpr ⟨hx, of_decide_eq_true hvalid⟩
  have hattached : j.device.attached? h .compute = some x := by
    rw [attached?, ho]
    exact (hstages .compute).trans hwanted
  refine ⟨x, hx, ?_, ⟨q, hq, hvalid, hx⟩, ?_, hlinked, (r.resolveProgram q).value, ?_, ?_⟩
  · exact ⟨id, p, h, hbound, hp, hclean, ha, hh, (ht (hd _) id p hbound hp hclean).trans hh, hattached⟩
  · rw [contains_programs_eq]
    exact knows_program_of_isLinked hlinked
  · rw [resolve, hq]
    rfl
  · rw [source?_eq, (hr.compiled a q hq List.not_mem_nil).text (hd _) x hx]
    rfl

/-! ## What is forwarded -/

/-- An extent is nothing on some axis. -/
def Flat (size : Extent) : Prop := size.x = 0 ∨ size.y = 0 ∨ size.z = 0

theorem play_dispatchGroups_of_none (h : r.boundCompute.value = none) (groups : Extent) (j : Journal) :
    ((r.dispatchGroups groups).play j).2 = j := by
  unfold dispatchGroups
  rw [play_bind, play_ofTraced (calls_boundCompute r), h]
  simp only [Option.isSome_none, Bool.false_eq_true, if_false, play_pure]

theorem play_dispatchThreads_of_none (h : r.boundCompute.value = none) (threads : Extent)
    (j : Journal) : ((r.dispatchThreads threads).play j).2 = j := by
  unfold dispatchThreads
  rw [play_bind, play_ofTraced (calls_boundCompute r), h]
  simp only [play_pure]

variable {q : Program}

theorem play_dispatchGroups (h : r.boundCompute.value = some q) (groups : Extent) (j : Journal) :
    ((r.dispatchGroups groups).play j).2 = j.push (.dispatchCompute groups) j.device := by
  unfold dispatchGroups
  rw [play_bind, play_ofTraced (calls_boundCompute r), h]
  rfl

theorem play_dispatchThreads_of_flat (h : r.boundCompute.value = some q) (hflat : Flat q.workGroup)
    (threads : Extent) (j : Journal) : ((r.dispatchThreads threads).play j).2 = j := by
  unfold dispatchThreads
  rw [play_bind, play_ofTraced (calls_boundCompute r), h]
  rw [Flat] at hflat
  simp only [if_pos hflat, play_pure]

theorem play_dispatchThreads (h : r.boundCompute.value = some q) (hflat : ¬Flat q.workGroup)
    (threads : Extent) (j : Journal) :
    ∃ groups, CoversAll groups q.workGroup threads ∧
      ((r.dispatchThreads threads).play j).2 = j.push (.dispatchCompute groups) j.device := by
  unfold dispatchThreads
  rw [play_bind, play_ofTraced (calls_boundCompute r), h]
  rw [Flat] at hflat
  simp only [if_neg hflat]
  obtain ⟨hx, hy, hz⟩ : q.workGroup.x ≠ 0 ∧ q.workGroup.y ≠ 0 ∧ q.workGroup.z ≠ 0 := by
    simpa only [not_or] using hflat
  refine ⟨_, ⟨?_, ?_, ?_⟩, rfl⟩
  · exact covers_groupsFor _ (Nat.pos_of_ne_zero hx)
  · exact covers_groupsFor _ (Nat.pos_of_ne_zero hy)
  · exact covers_groupsFor _ (Nat.pos_of_ne_zero hz)

end Depot

namespace Session

open Depot Device Journal DeviceM

variable {σ : Session}

theorem Reachable.sized (hσ : Reachable σ) : σ.depot.Sized σ.journal :=
  hσ.invariant (P := Depot.Sized) (fun _ _ => ⟨fun _ _ _ hp => (nomatch hp), fun _ _ hp => (nomatch hp)⟩)
    Depot.Sized.step fun _ _ _ h => h.congr (fun _ q hq => ⟨q, hq, rfl, rfl, rfl⟩) id fun _ => rfl

/-- What is ready runs, and with the work groups of its object. -/
theorem Reachable.runs (hσ : Reachable σ) (hd : ∀ kind, σ.journal.Distinct kind) {a : ProgramId}
    {q : Program} (h : σ.depot.Ready a q) :
    ∃ x, σ.depot.Runs σ.device a x ∧ q.workGroup = σ.device.workGroup x := by
  obtain ⟨x, hx, hruns⟩ := hσ.inOrder.runs hσ.tracks hd h
  obtain ⟨-, -, -, -, -, -, hq, -⟩ := h
  refine ⟨x, hruns, ?_⟩
  rw [hσ.sized.reported (hd _) a q hq, hx]
  rfl

/-- Work groups are forwarded as they are whenever a program is ready, and threads as the least number of its
work groups that covers them, unless these are nothing on some axis; otherwise nothing is forwarded.  As long
as no number was taken twice, what is forwarded runs the present text of the program, and the work groups are
those of its object. -/
theorem dispatch_current (hσ : Reachable σ) (groups threads : Extent) :
    let grouped := ((σ.depot.dispatchGroups groups).play σ.journal).2
    let threaded := ((σ.depot.dispatchThreads threads).play σ.journal).2
    (∀ a q, σ.depot.Ready a q →
      grouped = σ.journal.push (.dispatchCompute groups) σ.device ∧
      (Flat q.workGroup → threaded = σ.journal) ∧
      (¬Flat q.workGroup → ∃ least, CoversAll least q.workGroup threads ∧
        threaded = σ.journal.push (.dispatchCompute least) σ.device)) ∧
    ((∀ a q, ¬σ.depot.Ready a q) → grouped = σ.journal ∧ threaded = σ.journal) ∧
    (σ.device.Roomy .program → σ.device.Roomy .pipeline →
      (grouped ≠ σ.journal ∨ threaded ≠ σ.journal → ∃ a x, σ.depot.Runs σ.device a x) ∧
      ∀ a q, σ.depot.Ready a q →
        ∃ x, σ.depot.Runs σ.device a x ∧ q.workGroup = σ.device.workGroup x) := by
  intro grouped threaded
  have hnone : (∀ a q, ¬σ.depot.Ready a q) → grouped = σ.journal ∧ threaded = σ.journal := by
    intro hnot
    have hn : σ.depot.boundCompute.value = none := by
      rw [Option.eq_none_iff_forall_ne_some]
      intro q hq
      obtain ⟨a, ha⟩ := boundCompute_eq_some.mp hq
      exact hnot a q ha
    exact ⟨play_dispatchGroups_of_none hn groups _, play_dispatchThreads_of_none hn threads _⟩
  refine ⟨fun a q hready => ?_, hnone, fun hprograms hpipelines => ?_⟩
  · have hsome := boundCompute_eq_some.mpr ⟨a, hready⟩
    exact ⟨play_dispatchGroups hsome groups _,
      fun hflat => play_dispatchThreads_of_flat hsome hflat threads _,
      fun hflat => play_dispatchThreads hsome hflat threads _⟩
  · have hruns := fun a q => @Reachable.runs σ hσ
      (hσ.inOrder.sound.numbered.distinct_all hprograms hpipelines) a q
    refine ⟨fun hforwarded => ?_, hruns⟩
    by_contra hidle
    -- Without a running program none is ready, and nothing is forwarded.
    obtain ⟨hg, ht⟩ := hnone fun a q hready =>
      have ⟨x, hx, _⟩ := hruns a q hready
      hidle ⟨a, x, hx⟩
    exact hforwarded.elim (· hg) (· ht)

/-- A shader with work groups of eight by four is bound. -/
def sizedSample : Session :=
  (start {} (sampleFiles "#version 430\nlayout(local_size_x = 8, local_size_y = 4) in;\n") .labeled).run
    [.ask (.program "a.comp" .compute []), .ask (.pipeline (.compute ⟨0⟩)), .ask (.bind ⟨0⟩)]

/-- Then its file becomes another, and the shader is compiled again but not bound. -/
def resizedSample : Session :=
  sizedSample.run [.edit (sampleFiles "#version 430\n"), .ask (.notify "a.comp"), .ask .update]

theorem dispatch_current_sizedSample :
    (∃ a, sizedSample.depot.Runs sizedSample.device a ⟨1⟩) ∧
      ((sizedSample.depot.dispatchGroups ⟨5, 1, 2⟩).play sizedSample.journal).2 =
        sizedSample.journal.push (.dispatchCompute ⟨5, 1, 2⟩) sizedSample.device ∧
      ((sizedSample.depot.dispatchThreads ⟨17, 4, 0⟩).play sizedSample.journal).2 =
        sizedSample.journal.push (.dispatchCompute ⟨3, 1, 0⟩) sizedSample.device ∧
      resizedSample.depot.bound = some ⟨0⟩ ∧
      ((resizedSample.depot.dispatchGroups ⟨5, 1, 2⟩).play resizedSample.journal).2 =
        resizedSample.journal := by
  have hclosed : sizedSample.depot.boundCompute.value.isSome ∧
      sizedSample.device.attached? ⟨1⟩ .compute = some ⟨1⟩ ∧ sizedSample.device.bound = some ⟨1⟩ ∧
      sizedSample.device.workGroup ⟨1⟩ = ⟨8, 4, 1⟩ ∧ sizedSample.device.Roomy .program ∧
      sizedSample.device.Roomy .pipeline := by decide +kernel
  have hresized : resizedSample.depot.bound = some ⟨0⟩ ∧
      resizedSample.depot.boundCompute.value = none := by decide +kernel
  obtain ⟨hsome, hattached, hbound, hsize, hprograms, hpipelines⟩ := hclosed
  obtain ⟨hbound', hnone⟩ := hresized
  obtain ⟨q, hq⟩ := Option.isSome_iff_exists.mp hsome
  obtain ⟨a, hready⟩ := boundCompute_eq_some.mp hq
  have hreachable : Reachable sizedSample := .run (.start ..) _
  obtain ⟨hforwarded, -, hcurrent⟩ := dispatch_current hreachable ⟨5, 1, 2⟩ ⟨17, 4, 0⟩
  obtain ⟨hgroups, -, hthreads⟩ := hforwarded a q hready
  obtain ⟨x, hruns, hreported⟩ := (hcurrent hprograms hpipelines).2 a q hready
  obtain rfl : ⟨1⟩ = x := by
    obtain ⟨id, p, h, -, -, -, -, -, hcurrent, hx⟩ := hruns.pipeline
    obtain rfl := Option.some.inj (hbound.symm.trans hcurrent)
    exact Option.some.inj (hattached.symm.trans hx)
  rw [hreported, hsize] at hthreads
  obtain ⟨⟨gx, gy, gz⟩, ⟨hx, hy, hz⟩, hthreads⟩ := hthreads (by rintro (h | h | h) <;> cases h)
  -- The least numbers that cover the threads are the only ones.
  obtain rfl : gx = 3 := by
    have henough : (17 : Int) ≤ gx * 8 := hx.enough
    have hleast : ((gx : Int) - 1) * 8 < 17 := hx.least
    omega
  obtain rfl : gy = 1 := by
    have henough : (4 : Int) ≤ gy * 4 := hy.enough
    have hleast : ((gy : Int) - 1) * 4 < 4 := hy.least
    omega
  obtain rfl : gz = 0 := hz.zero_iff.mpr rfl
  have hreachable' : Reachable resizedSample := hreachable.run _
  obtain ⟨-, hidle, -⟩ := dispatch_current hreachable' ⟨5, 1, 2⟩ ⟨17, 4, 0⟩
  refine ⟨⟨a, hruns⟩, hgroups, hthreads, hbound', (hidle fun a q hready => ?_).1⟩
  have hsome := boundCompute_eq_some.mpr ⟨a, hready⟩
  rw [hnone] at hsome
  cases hsome

theorem play_dispatchGroups_of_ready {a : ProgramId} {q : Program} (h : σ.depot.Ready a q)
    (groups : Extent) : ((σ.depot.dispatchGroups groups).play σ.journal).2 =
      σ.journal.push (.dispatchCompute groups) σ.device :=
  play_dispatchGroups (boundCompute_eq_some.mpr ⟨a, h⟩) groups _

theorem not_runs_of_bound_eq_none (h : σ.device.bound = none) (a : ProgramId) (x : ProgramHandle) :
    ¬σ.depot.Runs σ.device a x := by
  intro hruns
  obtain ⟨id, p, y, -, -, -, -, -, hcurrent, -⟩ := hruns.pipeline
  rw [h] at hcurrent
  cases hcurrent

/-- After a number was taken twice, a dispatch may be forwarded to a device on which no pipeline is
current. -/
theorem dispatch_astray_unboundSample :
    Reachable unboundSample ∧
      ((unboundSample.depot.dispatchGroups ⟨1, 1, 1⟩).play unboundSample.journal).2 =
        unboundSample.journal.push (.dispatchCompute ⟨1, 1, 1⟩) unboundSample.device ∧
      unboundSample.device.bound = none ∧ ∀ a x, ¬unboundSample.depot.Runs unboundSample.device a x := by
  obtain ⟨hbound, hpipeline, hprogram, hnone, -⟩ := unboundSample_lost
  have hready : unboundSample.depot.Ready ⟨0⟩ firstProgram :=
    ⟨⟨0⟩, firstPipeline, hbound, hpipeline, rfl, rfl, hprogram, rfl⟩
  exact ⟨reachable_unboundSample, play_dispatchGroups_of_ready hready ⟨1, 1, 1⟩, hnone,
    not_runs_of_bound_eq_none hnone⟩

end Session

end ShaderDepot
