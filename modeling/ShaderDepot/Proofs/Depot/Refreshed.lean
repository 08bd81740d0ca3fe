import ShaderDepot.Proofs.Depot.Listed
import ShaderDepot.Proofs.Depot.Mirror

/-!
# Compiling some programs again

What is left when some programs were compiled again, one after the other, and their pipelines spoiled
(`Refreshed`): the record of every other program is as it was, and so is its object, while the numbers of
programs are distinct, and all that became of a pipeline is that it may be dirty.
-/

namespace ShaderDepot

open Device Journal DeviceM

/-- A program object is the same as before, and so are its values, its bindings and its label. -/
structure Device.Kept (h : ProgramHandle) (j j' : Journal) : Prop extends Untouched h j j' where
  label : j'.device.labels.get? (.program h) = j.device.labels.get? (.program h)

namespace Depot

variable {r r' r'' : Depot} {j j' j'' : Journal} {id : ProgramId} {p : Program}
  {ids ids' pending : List ProgramId}

/-- What becomes of a depot while some programs are compiled again. -/
structure Refreshed (r : Depot) (j : Journal) (ids : List ProgramId) (r' : Depot) (j' : Journal) :
    Prop where
  calls : j.calls <+: j'.calls
  beside : r'.beside = r.beside
  recompiled : ∀ id p, r.program? id = some p → ∃ p', r'.program? id = some p' ∧ p'.key = p.key ∧
    p'.compileCount = p.compileCount + ids.count id
  others : ∀ id, r.program? id = none ∨ id ∉ ids → r'.program? id = r.program? id
  objects : j'.Distinct .program → ∀ id p h, id ∉ ids → r.program? id = some p →
    p.handle? = some h → Kept h j j'
  pipelines : ∀ id, r'.pipeline? id =
    if id ∈ ids.flatMap r.dependentsOf then (r.pipeline? id).map Pipeline.spoil else r.pipeline? id

theorem Refreshed.refl (r : Depot) (j : Journal) : Refreshed r j [] r j where
  calls := List.prefix_rfl
  beside := rfl
  recompiled _ p hp := ⟨p, hp, rfl, rfl⟩
  others _ _ := rfl
  objects _ _ _ h _ _ _ := ⟨.refl h j, rfl⟩
  pipelines _ := rfl

theorem Refreshed.dependentsOf (h : Refreshed r j ids r' j') : r'.dependentsOf = r.dependentsOf := by
  have hdependents : r'.dependents = r.dependents := (congrArg Depot.dependents h.beside :)
  funext a
  rw [Depot.dependentsOf, hdependents]
  rfl

theorem Refreshed.trans (h : Refreshed r j ids r' j') (h' : Refreshed r' j' ids' r'' j'') :
    Refreshed r j (ids ++ ids') r'' j'' where
  calls := h.calls.trans h'.calls
  beside := h'.beside.trans h.beside
  recompiled id p hp := by
    obtain ⟨p', hp', hkey, hcount⟩ := h.recompiled id p hp
    obtain ⟨p'', hp'', hkey', hcount'⟩ := h'.recompiled id p' hp'
    refine ⟨p'', hp'', hkey'.trans hkey, ?_⟩
    rw [hcount', hcount, List.count_append, Nat.add_assoc]
  others id hid := by
    rw [List.mem_append, not_or] at hid
    have hsame := h.others id (hid.imp_right And.left)
    rw [h'.others id (hid.imp (hsame.trans ·) And.right), hsame]
  objects hd id p x hid hp hx := by
    rw [List.mem_append, not_or] at hid
    have hkept := h.objects (hd.of_initial h'.calls) id p x hid.1 hp hx
    have hkept' := h'.objects hd id p x hid.2 ((h.others id (.inr hid.1)).trans hp) hx
    exact ⟨hkept.toUntouched.trans hkept'.toUntouched, hkept'.label.trans hkept.label⟩
  pipelines id := by
    rw [h'.pipelines, h.pipelines, h.dependentsOf, List.flatMap_append]
    -- To spoil a pipeline twice is to spoil it once.
    have hspoil : ((r.pipeline? id).map Pipeline.spoil).map Pipeline.spoil =
        (r.pipeline? id).map Pipeline.spoil := by
      rw [Option.map_map]
      rfl
    simp only [List.mem_append]
    split <;> split <;> grind

/-- The books of a depot list under a program the pipelines that hold it. -/
theorem mem_dependentsOf_iff (hi : r.Indexed) (hl : r.Listed) {id : PipelineId} {q : Pipeline}
    (hq : r.pipeline? id = some q) {a : ProgramId} :
    id ∈ r.dependentsOf a ↔ ∃ stage, q.slots.get? stage = some a := by
  constructor
  · intro hid
    obtain ⟨slots, stage, hslots, hstage⟩ := hl.dependents a id hid
    rw [slotsOf?, hq, Option.map_some] at hslots
    obtain rfl := Option.some.inj hslots
    exact ⟨stage, hstage⟩
  · rintro ⟨stage, hstage⟩
    exact (hi.slots id q stage a hq hstage).2

/-- A pipeline stays as it is, but it gets dirty if it holds one of the programs. -/
theorem Refreshed.pipeline (h : Refreshed r j ids r' j') (hi : r.Indexed) (hl : r.Listed)
    {id : PipelineId} {q : Pipeline} (hq : r.pipeline? id = some q) :
    ∃ q', r'.pipeline? id = some q' ∧ q'.slots = q.slots ∧ q'.handle? = q.handle? ∧
      q'.buildCount = q.buildCount ∧
      (q'.isDirty = true ↔ q.isDirty = true ∨ ∃ stage a, q.slots.get? stage = some a ∧ a ∈ ids) := by
  have hspoiled : id ∈ ids.flatMap r.dependentsOf ↔
      ∃ stage a, q.slots.get? stage = some a ∧ a ∈ ids := by
    simp only [List.mem_flatMap, mem_dependentsOf_iff hi hl hq]
    exact ⟨fun ⟨a, hc, stage, ha⟩ => ⟨stage, a, ha, hc⟩, fun ⟨stage, a, ha, hc⟩ => ⟨a, hc, stage, ha⟩⟩
  rw [← hspoiled]
  have hafter := h.pipelines id
  rw [hq] at hafter
  split at hafter
  · next hin => exact ⟨q.spoil, hafter, rfl, rfl, rfl, iff_of_true rfl (.inr hin)⟩
  · next hout => exact ⟨q, hafter, rfl, rfl, rfl, (or_iff_left hout).symm⟩

/-! ## One program -/

theorem program?_compile_of_ne (r : Depot) {a : ProgramId} (ha : a ≠ id) (j : Journal) :
    ((r.compile id).play j).1.program? a = r.program? a := by
  cases hp : r.program? id with
  | none => rw [play_compile_of_none hp]
  | some p =>
    obtain ⟨compilations, failures, hplay⟩ := play_compile hp j
    rw [hplay]
    exact (program?_setProgram_of hp a).trans (if_neg ha.symm)

theorem InOrder.counted_compile (h : r.InOrder j (id :: pending) []) (hp : r.program? id = some p) :
    ∃ p', ((r.compile id).play j).1.program? id = some p' ∧ p'.key = p.key ∧
      p'.compileCount = p.compileCount + 1 := by
  have hnew := Program.renewed_compile h.sound (h.owns.settled id p hp) (r.resolveProgram p).value
    r.settings.listOnError
  obtain ⟨compilations, failures, hplay⟩ := play_compile hp j
  rw [hplay]
  exact ⟨_, (program?_setProgram_of hp id).trans (if_pos rfl), hnew.key, hnew.compileCount⟩

/-- The object of another program has a number of its own, issued before. -/
theorem InOrder.kept_compile (h : r.InOrder j (id :: pending) []) (hm : r.Mirrors j) {a : ProgramId}
    {q : Program} {x : ProgramHandle} (hd : ((r.compile id).play j).2.Distinct .program) (ha : a ≠ id)
    (hq : r.program? a = some q) (hx : q.handle? = some x) : Kept x j ((r.compile id).play j).2 := by
  cases hp : r.program? id with
  | none =>
    rw [play_compile_of_none hp]
    exact ⟨.refl x j, rfl⟩
  | some p =>
    have hsettled := h.owns.settled id p hp
    have hbefore := hd.of_initial (prefix_play ..)
    have hissued : j.Issued (.program x) :=
      h.sound.issued_of_knows ((h.owns.settled a q hq).knows hbefore hx)
    have hne : p.handle? ≠ some x := fun hpx => ha (h.owns.apart hbefore a id q p x hq hp hx hpx)
    have hfollows := Program.follows_compile h.sound hsettled (hm.unique id p hp)
      (r.resolveProgram p).value r.settings.listOnError
    have hnew := Program.renewed_compile h.sound hsettled (r.resolveProgram p).value
      r.settings.listOnError
    have hlabel : p.handle?.map .program ≠ some (LabelTarget.program x) := by
      rw [ne_eq, Option.map_eq_some_iff]
      rintro ⟨y, hy, he⟩
      cases he
      exact hne hy
    obtain ⟨compilations, failures, hplay⟩ := play_compile hp j
    rw [hplay] at hd ⊢
    exact ⟨hfollows.others hd x hissued hne, hnew.labels hd _ hissued hlabel⟩

theorem pipeline?_recompile (r : Depot) (id : ProgramId) (j : Journal) (a : PipelineId) :
    ((r.recompile id).play j).1.pipeline? a =
      if a ∈ r.dependentsOf id then (r.pipeline? a).map Pipeline.spoil else r.pipeline? a := by
  have hdependents : ((r.compile id).play j).1.dependents = r.dependents :=
    (congrArg Depot.dependents (beside_compile r id j) :)
  unfold recompile
  rw [play_bind, play_pure, spoilDependents, pipeline?_foldl_spoilPipeline, pipeline?,
    pipelines_compile, Depot.dependentsOf, hdependents]
  rfl

theorem program?_spoilDependents (r : Depot) (id a : ProgramId) :
    (r.spoilDependents id).program? a = r.program? a := by
  rw [spoilDependents, foldl_spoilPipeline_eq]
  rfl

theorem beside_spoilDependents (r : Depot) (id : ProgramId) :
    (r.spoilDependents id).beside = r.beside := by
  rw [spoilDependents, foldl_spoilPipeline_eq]
  rfl

theorem refreshed_recompile (h : r.InOrder j (id :: pending) []) (hm : r.Mirrors j) :
    Refreshed r j [id] ((r.recompile id).play j).1 ((r.recompile id).play j).2 := by
  have hplay : (r.recompile id).play j =
      (((r.compile id).play j).1.spoilDependents id, ((r.compile id).play j).2) := by
    rw [recompile, play_bind, play_pure]
  have hprogram : ∀ a, a ≠ id → ((r.recompile id).play j).1.program? a = r.program? a := by
    intro a ha
    rw [hplay, program?_spoilDependents, program?_compile_of_ne r ha]
  refine ⟨prefix_play .., ?_, fun a p hp => ?_, fun a ha => ?_, fun hd a p x ha hp hx => ?_,
    fun a => ?_⟩
  · rw [hplay, beside_spoilDependents, beside_compile]
  · by_cases ha : a = id
    · subst ha
      rw [hplay, program?_spoilDependents, List.count_singleton_self]
      exact h.counted_compile hp
    · refine ⟨p, (hprogram a ha).trans hp, rfl, ?_⟩
      rw [List.count_eq_zero_of_not_mem (List.mem_singleton.not.mpr ha), Nat.add_zero]
  · by_cases he : a = id
    · -- A program that is not there is not compiled.
      subst he
      have hnone := ha.resolve_right (absurd (List.mem_singleton_self a))
      rw [hplay, program?_spoilDependents, play_compile_of_none hnone]
    · exact hprogram a he
  · rw [hplay] at hd ⊢
    exact h.kept_compile hm hd (List.mem_singleton.not.mp ha) hp hx
  · rw [pipeline?_recompile, List.flatMap_singleton]

/-! ## Some programs -/

theorem refreshed_foldlM (ids : List ProgramId) (h : r.InOrder j ids []) (hm : r.Mirrors j) :
    Refreshed r j ids ((ids.foldlM recompile r).play j).1 ((ids.foldlM recompile r).play j).2 := by
  induction ids generalizing r j with
  | nil =>
    rw [List.foldlM_nil, play_pure]
    exact .refl r j
  | cons id ids ih =>
    rw [List.foldlM_cons, play_bind]
    exact (refreshed_recompile h hm).trans (ih h.recompile (hm.recompile h).mirrors)

end Depot

end ShaderDepot
