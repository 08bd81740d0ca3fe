import ShaderDepot.Proofs.Depot.Concerns
import ShaderDepot.Proofs.Depot.Refreshed
import ShaderDepot.Proofs.Session.Retained

/-!
# An update compiles what it must, once

However many changes are taken in at once, and however often and by whatever ways a program's file
includes what changed, an update compiles each program that is concerned once more and no other, and
spoils the pipelines of these programs and no other (`Session.update_recompiles`).  The objects of the other
programs are kept as long as no number is taken twice.
-/

namespace ShaderDepot

/-- A compute pipeline holds nothing but its program. -/
theorem StageSlots.eq_of_get?_compute {program a : ProgramId} {stage : Stage}
    (h : (compute program).get? stage = some a) : a = program := by
  rw [compute, get?_insert] at h
  split at h
  · exact (Option.some.inj h).symm
  · cases stage <;> cases h

namespace Depot

open Device Journal DeviceM

/-- What becomes of a depot and its device while `count` programs are compiled again, those that a
change concerns. -/
structure Updated (r : Depot) (j : Journal) (count : Nat) (r' : Depot) (j' : Journal) : Prop where
  counted : ∃ ids : List ProgramId, ids.Nodup ∧ (∀ id, id ∈ ids ↔ r.Concerns r'.graph id) ∧
    ids.length = count
  idle : count = 0 → j' = j
  /-- A program that is concerned is compiled once. -/
  recompiled : ∀ id p, r.program? id = some p → r.Concerns r'.graph id →
    ∃ p', r'.program? id = some p' ∧ p'.key = p.key ∧ p'.compileCount = p.compileCount + 1
  others : ∀ id, ¬r.Concerns r'.graph id → r'.program? id = r.program? id
  /-- The objects of the others are kept, unless the requests for programs have taken a number twice. -/
  objects : j'.device.Roomy .program → ∀ id p h, ¬r.Concerns r'.graph id → r.program? id = some p →
    p.handle? = some h → Kept h j j'
  /-- A pipeline stays as it is, but it gets dirty if it holds a program that was compiled again. -/
  pipelines : ∀ id q, r.pipeline? id = some q → ∃ q', r'.pipeline? id = some q' ∧
    q'.slots = q.slots ∧ q'.handle? = q.handle? ∧ q'.buildCount = q.buildCount ∧
    (q'.isDirty = true ↔
      q.isDirty = true ∨ ∃ stage a, q.slots.get? stage = some a ∧ r.Concerns r'.graph a)
  noPipeline : ∀ id, r.pipeline? id = none → r'.pipeline? id = none
  bound : r'.bound = r.bound
  changes : r'.changes = .empty

variable {r r' : Depot} {j j' : Journal}

/-- Once the changed files have been read, all that an update does is to compile programs again. -/
theorem refreshed_reread (h : r.InOrder j [] []) (hm : r.Mirrors j) (s : Storage) :
    Refreshed (r.reread s) j (r.affected s)
      (((r.affected s).foldlM recompile (r.reread s)).play j).1
      (((r.affected s).foldlM recompile (r.reread s)).play j).2 :=
  refreshed_foldlM (r.affected s) (h.reread s) ⟨hm.unique, hm.mirrored⟩

theorem updated_update (h : r.InOrder j [] []) (hl : r.Listed) (hm : r.Mirrors j)
    (hlistens : r.changes ≠ .closed) (s : Storage) :
    Updated r j ((r.update s).play j).1.1 ((r.update s).play j).1.2 ((r.update s).play j).2 := by
  have hreread := h.reread s
  have hsound := (h.update s).sound
  have hlisted : (r.reread s).Listed := hl.congr rfl rfl rfl (fun _ => rfl) fun _ => rfl
  have hrefreshed := refreshed_reread h hm s
  have hidle : (r.affected s).length = 0 →
      (((r.affected s).foldlM recompile (r.reread s)).play j).2 = j := by
    intro hzero
    rw [List.eq_nil_of_length_eq_zero hzero, List.foldlM_nil, play_pure]
  have hmem : ∀ id, id ∈ r.affected s ↔ r.Concerns (r.reread s).graph id :=
    fun id => mem_affected_iff h hl s
  rw [play_update] at hsound ⊢
  generalize ((r.affected s).foldlM recompile (r.reread s)).play j = out at hrefreshed hidle hsound
  obtain ⟨r', j'⟩ := out
  simp only at hrefreshed hidle hsound ⊢
  have hgraph : r'.graph = (r.reread s).graph := (congrArg Depot.graph hrefreshed.beside :)
  rw [← hgraph] at hmem
  exact {
    counted := ⟨r.affected s, nodup_affected s r, hmem, rfl⟩
    idle := hidle
    recompiled := fun id p hp hc => by
      obtain ⟨p', hp', hkey, hcount⟩ := hrefreshed.recompiled id p hp
      rw [List.count_eq_one_of_mem (nodup_affected s r) ((hmem id).mpr hc)] at hcount
      exact ⟨p', hp', hkey, hcount⟩
    others := fun id hc => hrefreshed.others id (.inr fun hid => hc ((hmem id).mp hid))
    objects := fun hroomy id p x hc =>
      hrefreshed.objects (hsound.numbered.distinct hroomy) id p x fun hid => hc ((hmem id).mp hid)
    pipelines := fun id q hq => by
      simp only [← hmem]
      exact hrefreshed.pipeline hreread.indexed hlisted hq
    noPipeline := fun id hnone => by
      have hnone : (r.reread s).pipeline? id = none := hnone
      rw [hrefreshed.pipelines, hnone]
      exact ite_self none
    bound := (congrArg Depot.bound hrefreshed.beside :)
    changes := (congrArg Depot.changes hrefreshed.beside :).trans
      (ChangeQueue.drain_of_ne_closed hlistens) }

/-- A change concerns no program that is compiled as often as before. -/
theorem Updated.not_concerns {count : Nat} (hu : Updated r j count r' j') {id : ProgramId} {p p' : Program}
    (hp : r.program? id = some p) (hp' : r'.program? id = some p')
    (hcount : p'.compileCount = p.compileCount) : ¬r.Concerns r'.graph id := by
  intro hc
  obtain ⟨p'', hp'', -, hmore⟩ := hu.recompiled id p hp hc
  obtain rfl := Option.some.inj (hp'.symm.trans hp'')
  omega

end Depot

namespace Session

open Depot Device Journal DeviceM

variable {σ : Session}

theorem Reachable.mirrors (hσ : Reachable σ) : σ.depot.Mirrors σ.journal := by
  induction hσ with
  | start settings storage style => exact ⟨fun _ _ hp => (nomatch hp), fun _ _ _ _ hp => (nomatch hp)⟩
  | step action hσ ih => exact (mirrors_step ih hσ.inOrder action).1

/-- An update compiles once more each program that a change concerns, in the graph that the update leaves,
and answers how many these are.  It leaves every other program alone, and its object too unless the requests
for programs have taken a number twice, spoils exactly the pipelines that hold a program compiled again, and
empties the queue. -/
theorem update_recompiles (hσ : Reachable σ) :
    let done := (σ.depot.update σ.storage).play σ.journal
    Updated σ.depot σ.journal done.1.1 done.1.2 done.2 :=
  updated_update hσ.inOrder hσ.listed hσ.mirrors hσ.listens σ.storage

/-- Of two shaders that are bound one after the other the first one's file becomes another, and the depot is
told of it. -/
def pairedSample : Session :=
  let files (text : String) : Storage :=
    .memory { texts := ⟨[("a.comp", text), ("c.comp", "#version 430\n")]⟩ }
  (start {} (files "#version 430\n") .labeled).run
    [.ask (.program "a.comp" .compute []), .ask (.program "c.comp" .compute []),
      .ask (.pipeline (.compute ⟨0⟩)), .ask (.pipeline (.compute ⟨1⟩)), .ask (.bind ⟨0⟩),
      .ask (.bind ⟨1⟩), .edit (files "#version 460\n"), .ask (.notify "./a.comp")]

theorem update_recompiles_pairedSample :
    let done := (pairedSample.depot.update pairedSample.storage).play pairedSample.journal
    done.1.1 = 1 ∧ done.1.2.changes = .empty ∧
      (done.1.2.program? ⟨0⟩).map (·.compileCount) = some 2 ∧
      done.1.2.program? ⟨1⟩ = pairedSample.depot.program? ⟨1⟩ ∧
      Kept ⟨2⟩ pairedSample.journal done.2 ∧
      (done.1.2.pipeline? ⟨0⟩).map (·.isDirty) = some true ∧
      (done.1.2.pipeline? ⟨1⟩).map (·.isDirty) = some false := by
  intro done
  have hclosed : done.1.1 = 1 ∧ done.2.device.Roomy .program ∧
      (pairedSample.depot.program? ⟨1⟩).bind (·.handle?) = some ⟨2⟩ ∧ "a.comp" ∈ pairedSample.depot.changes.pending ∧
      pairedSample.depot.graph.find? "a.comp" = some ⟨0⟩ ∧
      (pairedSample.depot.program? ⟨0⟩).any (fun p => p.entry = ⟨0⟩ && p.compileCount = 1) = true ∧
      pairedSample.depot.pipeline? ⟨0⟩ = some ⟨.compute ⟨0⟩, ⟨some ⟨1⟩, false⟩, 1⟩ ∧
      pairedSample.depot.pipeline? ⟨1⟩ = some ⟨.compute ⟨1⟩, ⟨some ⟨2⟩, false⟩, 1⟩ := by
    decide +kernel
  obtain ⟨hcount, hroomy, hhandle, hpending, hfind, hprogram, hfirst, hsecond⟩ := hclosed
  obtain ⟨p, hp, hentry⟩ := (Option.any_eq_true _ _).mp hprogram
  rw [Bool.and_eq_true, decide_eq_true_iff, decide_eq_true_iff] at hentry
  have hreachable : Reachable pairedSample := .run (.start ..) _
  have hupdated : Updated _ _ done.1.1 done.1.2 done.2 := update_recompiles hreachable
  clear_value done
  -- The first shader starts from the file that was named, and so it is the one that is compiled.
  have hconcerned : pairedSample.depot.Concerns done.1.2.graph ⟨0⟩ := by
    refine ⟨p, hp, "a.comp", hpending, ⟨0⟩, hfind, ?_⟩
    rw [hentry.1]
    exact .refl _ _
  have hother : ¬pairedSample.depot.Concerns done.1.2.graph ⟨1⟩ := by
    obtain ⟨ids, -, hids, hlength⟩ := hupdated.counted
    obtain ⟨a, rfl⟩ := List.length_eq_one_iff.mp (hlength.trans hcount)
    obtain rfl := List.mem_singleton.mp ((hids ⟨0⟩).mpr hconcerned)
    rw [← hids, List.mem_singleton]
    exact nofun
  obtain ⟨p', hp', -, hcompiled⟩ := hupdated.recompiled ⟨0⟩ p hp hconcerned
  obtain ⟨q, hq, -, -, -, hdirty⟩ := hupdated.pipelines ⟨0⟩ _ hfirst
  obtain ⟨q', hq', -, -, -, hclean⟩ := hupdated.pipelines ⟨1⟩ _ hsecond
  obtain ⟨c, hc, hx⟩ := Option.bind_eq_some_iff.mp hhandle
  refine ⟨hcount, hupdated.changes, ?_, hupdated.others ⟨1⟩ hother,
    hupdated.objects hroomy ⟨1⟩ c ⟨2⟩ hother hc hx, ?_, ?_⟩
  · rw [hp', Option.map_some, hcompiled, hentry.2]
  · rw [hq, Option.map_some, hdirty.mpr (.inr ⟨.compute, ⟨0⟩, rfl, hconcerned⟩)]
  · have hnot : ¬q'.isDirty = true := by
      rw [hclean]
      rintro (h | ⟨stage, a, ha, hc⟩)
      · cases h
      · exact hother (StageSlots.eq_of_get?_compute ha ▸ hc)
    rw [hq', Option.map_some, Bool.eq_false_iff.mpr hnot]

/-- If a program is compiled as often as before and another text has its object, an update has replaced the
object though no change concerns the program. -/
theorem Reachable.displaces (hσ : Reachable σ) (hroomy : σ.device.Roomy .program) {id : ProgramId}
    {p : Program} {x : ProgramHandle} (hp : σ.depot.program? id = some p) (hx : p.handle? = some x)
    {unit : CompileUnit} (hunit : (σ.depot.resolve id).value = some unit) {τ : Session}
    (hτ : τ = σ.step (.ask .update)) (hp' : τ.depot.program? id = some p) {stage : Stage} {text : String}
    (hobject : τ.device.programs.get? x = some (.make stage text)) (htext : unit.text ≠ text) :
    let done := (σ.depot.update σ.storage).play σ.journal
    ¬σ.depot.Concerns done.1.2.graph id ∧ ¬Kept x σ.journal done.2 := by
  intro done
  rw [step_update] at hτ
  subst hτ
  have hupdated : Updated _ _ done.1.1 done.1.2 done.2 :=
    updated_update hσ.inOrder hσ.listed hσ.mirrors hσ.listens σ.storage
  refine ⟨hupdated.not_concerns hp hp' rfl, fun hkept => ?_⟩
  have hcompiled := (hσ.inOrder.compiled id p hp List.not_mem_nil).text
    (hσ.inOrder.sound.numbered.distinct hroomy) x hx
  have hobject : done.2.device.programs.get? x = some (.make stage text) := hobject
  rw [made?, ← hkept.object, hobject] at hcompiled
  rw [resolve, hp] at hunit
  obtain rfl := Option.some.inj hunit
  exact htext (congrArg ProgramObject.source (Option.some.inj hcompiled)).symm

/-- When the numbers have come round, an update replaces the object of a program that no change concerns. -/
theorem update_displaces_wornSample :
    let σ := wornSample.step (.ask (.notify "c"))
    let done := (σ.depot.update σ.storage).play σ.journal
    Reachable σ ∧ ∃ p h, σ.depot.program? ⟨0⟩ = some p ∧ p.handle? = some h ∧
      ¬σ.depot.Concerns done.1.2.graph ⟨0⟩ ∧ ¬Kept h σ.journal done.2 := by
  intro σ
  obtain ⟨hafter, -, -, hobject⟩ := after_wrappedSample
  obtain ⟨hprogram', -⟩ := hafter.first
  obtain ⟨hprogram, -, unit, hunit, htext⟩ := after_wornSample.first
  obtain ⟨hsame, hresolve, hdevice⟩ := programs_step_notify wornSample "c" ⟨0⟩
  have hroomy := (Turns.roomy after_wornSample).1 (by decide)
  have hreachable : Reachable σ := reachable_wornSample.step _
  rw [← hsame] at hprogram
  rw [← hresolve] at hunit
  rw [← hdevice] at hroomy
  have hlast : wrappedSample = σ.step (.ask .update) := by
    rw [wrappedSample_eq, rumour, run_cons, run_singleton]
  have hne : unit.text ≠ secondText := by
    rw [htext]
    decide +kernel
  exact ⟨hreachable, firstProgram, ⟨1⟩, hprogram, rfl,
    hreachable.displaces hroomy hprogram rfl hunit hlast hprogram' hobject hne⟩

end Session

end ShaderDepot
