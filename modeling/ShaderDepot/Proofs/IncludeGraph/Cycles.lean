import ShaderDepot.Proofs.IncludeGraph.Ranks
import ShaderDepot.Proofs.IncludeGraph.Trails

/-!
# The cycles that are reported

The walk leaves a file when it first comes back from all that the file includes.  By then each of its
includes was reported or leads to a file that was left earlier, for only a file on the trail is met and
not left.  So the includes that are not reported go round no cycle, and those that are reported are
what a graph has to lose to be without cycles (`order_reports_cycles`).
-/

namespace ShaderDepot.IncludeGraph

variable {g : IncludeGraph} {entry id a b : FileId} {trail left : List FileId} {w w' : Walk}

/-- From each file of the list the relation leads to later ones only. -/
def LeadsOn (r : FileId → FileId → Prop) : List FileId → Prop
  | [] => True
  | a :: left => (∀ b, r a b → b ∈ left) ∧ LeadsOn r left

namespace LeadsOn

variable {r r' : FileId → FileId → Prop}

theorem mono (hr : ∀ a b, r' a b → r a b) (h : LeadsOn r left) : LeadsOn r' left := by
  induction left with
  | nil => trivial
  | cons a left ih => exact ⟨fun b hb => h.1 b (hr a b hb), ih h.2⟩

theorem closed (h : LeadsOn r left) (ha : a ∈ left) (hr : r a b) : b ∈ left := by
  induction left with
  | nil => cases ha
  | cons c left ih =>
    rcases List.mem_cons.mp ha with rfl | ha
    · exact List.mem_cons_of_mem _ (h.1 b hr)
    · exact List.mem_cons_of_mem _ (ih h.2 ha)

theorem mem_of_transGen (h : LeadsOn r left) (ha : a ∈ left) (hr : Relation.TransGen r a b) :
    b ∈ left := by
  induction hr with
  | single hab => exact h.closed ha hab
  | tail _ hbc ih => exact h.closed ih hbc

theorem not_transGen (h : LeadsOn r left) (ha : a ∈ left) : ¬Relation.TransGen r a a := by
  induction left with
  | nil => cases ha
  | cons c left ih =>
    intro hcycle
    -- One step from the first file of the list, and the rest of the list cannot be left again.
    have hrest : a ∈ left := by
      rcases List.mem_cons.mp ha with rfl | ha
      · obtain ⟨b, hab, hba⟩ := Relation.TransGen.head'_iff.mp hcycle
        rcases Relation.reflTransGen_iff_eq_or_transGen.mp hba with rfl | hba
        · exact h.1 _ hab
        · exact h.2.mem_of_transGen (h.1 b hab) hba
      · exact ha
    exact ih h.2 hrest hcycle

end LeadsOn

namespace Walk

/-- An include that was not reported. -/
def Uncut (w : Walk) (g : IncludeGraph) (a b : FileId) : Prop :=
  b ∈ g.dependencies a ∧ (some a, b) ∉ w.reported

/-- Files were left, the latest first, and what else was met is on the trail. -/
structure Departed (w : Walk) (g : IncludeGraph) (trail left : List FileId) : Prop where
  leadsOn : LeadsOn (w.Uncut g) left
  met : ∀ a, w.Met a ↔ a ∈ left ∨ a ∈ trail

/-- What walking down from some files does to the files that were left. -/
structure Departs (g : IncludeGraph) (trail from_ : List FileId) (w w' : Walk) : Prop where
  kept : ∀ e ∈ w.reported, e ∈ w'.reported
  left : ∀ left, w.Departed g trail left → ∃ left', (∀ a ∈ left, a ∈ left') ∧
    w'.Departed g trail left' ∧ ∀ a ∈ from_, (trail.head?, a) ∈ w'.reported ∨ a ∈ left'

theorem Departed.raise (h : w.Departed g trail left) (hid : id ∈ left ∨ id ∈ trail) (rank : Nat) :
    (w.raise id rank).Departed g trail left where
  leadsOn := h.leadsOn
  met a := by
    rw [met_raise, h.met]
    exact or_iff_left_of_imp fun e => e ▸ hid

theorem uncut_of_closeCycle (includer : Option FileId)
    (h : (w.closeCycle g includer id).value.Uncut g a b) : w.Uncut g a b := by
  refine ⟨h.1, fun hm => h.2 ?_⟩
  unfold closeCycle
  split
  · exact hm
  · exact List.mem_append_left _ hm

theorem mem_closeCycle (g : IncludeGraph) (includer : Option FileId) (id : FileId) (w : Walk) :
    (includer, id) ∈ (w.closeCycle g includer id).value.reported := by
  unfold closeCycle
  split
  · assumption
  · exact List.mem_append_right _ (List.mem_singleton_self _)

/-- A file on the trail was not left, but the include that leads back to it is reported. -/
theorem departs_closeCycle (hm : id ∈ trail) (w : Walk) :
    Departs g trail [id] w ((w.raise id trail.length).closeCycle g trail.head? id).value where
  kept e he := by
    unfold closeCycle
    split
    · exact he
    · exact List.mem_append_left _ he
  left left h := by
    have hraise := h.raise (.inr hm) trail.length
    refine ⟨left, fun _ ha => ha, ⟨?_, fun a => ?_⟩, fun a ha => ?_⟩
    · exact hraise.leadsOn.mono fun _ _ => uncut_of_closeCycle trail.head?
    · rw [met_closeCycle, hraise.met]
    · rw [List.mem_singleton.mp ha]
      exact .inl (mem_closeCycle ..)

theorem departs_nil (w : Walk) : Departs g trail [] w w where
  kept _ he := he
  left left h := ⟨left, fun _ ha => ha, h, fun _ ha => nomatch ha⟩

theorem departs_foldlM {f : Walk → FileId → Traced Walk} {l : List FileId}
    (hf : ∀ d w, Departs g trail [d] w (f w d).value) (w : Walk) :
    Departs g trail l w (l.foldlM f w).value := by
  induction l generalizing w with
  | nil => exact departs_nil w
  | cons d l ih =>
    rw [List.foldlM_cons, Traced.value_bind]
    have hfirst := hf d w
    have hrest := ih (f w d).value
    refine ⟨fun e he => hrest.kept e (hfirst.kept e he), fun left h => ?_⟩
    obtain ⟨left', hsub, h', hd⟩ := hfirst.left left h
    obtain ⟨left'', hsub', h'', hl⟩ := hrest.left left' h'
    refine ⟨left'', fun a ha => hsub' a (hsub a ha), h'', fun a ha => ?_⟩
    rcases List.mem_cons.mp ha with rfl | ha
    · exact (hd a (List.mem_singleton_self a)).imp (hrest.kept _) (hsub' a)
    · exact hl a ha

/-- Once the walk has gone down to all that a file includes, the file is left, if it was not
before. -/
theorem Departs.leave
    (h : Departs g (id :: trail) (g.dependencies id) (w.raise id trail.length) w') :
    Departs g trail [id] w w' where
  kept := h.kept
  left left hw := by
    have hraise : (w.raise id trail.length).Departed g (id :: trail) left := by
      refine ⟨hw.leadsOn, fun a => ?_⟩
      rw [met_raise, hw.met, List.mem_cons, or_assoc, or_comm (a := a ∈ trail)]
    obtain ⟨left', hsub, hw', hd⟩ := h.left left hraise
    by_cases hid : id ∈ left'
    · -- The file was left before and is met anew.
      refine ⟨left', hsub, ⟨hw'.leadsOn, fun a => ?_⟩, fun a ha => ?_⟩
      · rw [hw'.met, List.mem_cons, or_left_comm]
        exact or_iff_right_of_imp fun e => .inl (e ▸ hid)
      · exact .inr (List.mem_singleton.mp ha ▸ hid)
    · refine ⟨id :: left', fun a ha => List.mem_cons_of_mem _ (hsub a ha), ⟨⟨?_, hw'.leadsOn⟩, ?_⟩,
        fun a ha => .inr (List.mem_singleton.mp ha ▸ List.mem_cons_self ..)⟩
      · exact fun b hb => (hd b hb.1).resolve_left hb.2
      · intro a
        rw [hw'.met, List.mem_cons, List.mem_cons, or_left_comm, or_assoc]

end Walk

open Walk

theorem departs_visit (g : IncludeGraph) (trail : List FileId) (id : FileId) (w : Walk) :
    Departs g trail [id] w (g.visit trail id w).value := by
  induction trail, id, w using visit.induct g with
  | case1 trail id w hm =>
    rw [visit, dif_pos hm]
    exact departs_closeCycle hm w
  | case2 trail id w hm hr =>
    rw [visit, dif_neg hm, if_pos hr]
    refine ⟨fun _ he => he, fun left h => ?_⟩
    have hid : id ∈ left := ((h.met id).mp (met_of_any hr)).resolve_right hm
    exact ⟨left, fun _ ha => ha, h.raise (.inl hid) trail.length,
      fun a ha => .inr (List.mem_singleton.mp ha ▸ hid)⟩
  | case3 trail id w hm hr hs ih =>
    rw [visit, dif_neg hm, if_neg hr, dif_pos hs]
    exact (departs_foldlM (fun d w => ih w d) _).leave
  | case4 trail id w hm hr hs =>
    rw [visit, dif_neg hm, if_neg hr, dif_neg hs]
    apply Departs.leave
    rw [dependencies_of_size_le (Nat.le_of_not_lt hs)]
    exact departs_nil _

/-! ## The reports of an order -/

theorem ClosesCycle.onCycle {e : FileId × FileId} (h : g.ClosesCycle entry e) : g.OnCycle e.1 :=
  ⟨e.2, h.included, h.back⟩

theorem eq_nil_of_closing {cuts : List (FileId × FileId)} (h : ∀ e ∈ cuts, g.ClosesCycle entry e)
    (hacyclic : ∀ a, g.Reaches entry a → ¬g.OnCycle a) : cuts = [] :=
  List.eq_nil_iff_forall_not_mem.mpr fun e he => hacyclic e.1 (h e he).reached (h e he).onCycle

theorem OnCycle.transGen (h : g.OnCycle a) :
    Relation.TransGen (fun a b => b ∈ g.dependencies a) a a := by
  obtain ⟨b, hb, hr⟩ := h
  exact Relation.TransGen.head' hb hr

/-- Includes below the entry, each on a cycle, without which there is no cycle. -/
structure CutsCycles (g : IncludeGraph) (entry : FileId) (cuts : List (FileId × FileId)) : Prop where
  nodup : cuts.Nodup
  closing : ∀ e ∈ cuts, g.ClosesCycle entry e
  acyclic : ∀ a, g.Reaches entry a →
    ¬Relation.TransGen (fun a b => b ∈ g.dependencies a ∧ (a, b) ∉ cuts) a a

theorem CutsCycles.eq_nil_iff {cuts : List (FileId × FileId)} (h : g.CutsCycles entry cuts) :
    cuts = [] ↔ ∀ a, g.Reaches entry a → ¬g.OnCycle a := by
  constructor
  · rintro rfl a ha hcycle
    exact h.acyclic a ha
      (Relation.TransGen.mono (fun a b hb => ⟨hb, List.not_mem_nil⟩) a a hcycle.transGen)
  · exact eq_nil_of_closing h.closing

theorem exists_cutsCycles (g : IncludeGraph) (entry : FileId) :
    ∃ cuts, g.CutsCycles entry cuts ∧ (g.order entry).events = cuts.map g.cycleEvent := by
  obtain ⟨cuts, h⟩ := exists_reports_visit (g := g) .start {}
  obtain ⟨left, -, hleft, -⟩ := (departs_visit g [] entry {}).left [] ⟨trivial, fun a => by
    rw [or_iff_left List.not_mem_nil]
    rfl⟩
  have hreported : (g.visit [] entry {}).value.reported = cuts.map fun e => (some e.1, e.2) :=
    h.reported.trans (List.nil_append _)
  refine ⟨cuts, ⟨?_, h.closing, fun a ha hcycle => ?_⟩, ?_⟩
  · have hnodup := h.nodup List.nodup_nil
    rw [hreported] at hnodup
    exact hnodup.of_map _
  · -- All that the entry reaches was left, and what leads on from there was not reported.
    have hmet : (g.visit [] entry {}).value.Met a :=
      (order_perm g entry).mem_iff.mp (mem_order_iff.mpr ha)
    have hmem : a ∈ left := ((hleft.met a).mp hmet).resolve_right List.not_mem_nil
    refine hleft.leadsOn.not_transGen hmem (Relation.TransGen.mono (fun b c hbc => ?_) a a hcycle)
    refine ⟨hbc.1, fun hm => ?_⟩
    rw [hreported] at hm
    obtain ⟨e, he, heq⟩ := List.mem_map.mp hm
    obtain ⟨h₁, h₂⟩ := Prod.mk.inj heq
    exact hbc.2 (Option.some.inj h₁ ▸ h₂ ▸ he)
  · rw [order, Traced.events_bind, Traced.events_pure, List.append_nil, h.events]

/-- The order of a file holds what the file reaches, once each.  What it reports are includes that
close a cycle, none of them twice, and without these includes nothing below the file is on a cycle;
so there is a report just when something is. -/
theorem order_reports_cycles (g : IncludeGraph) (entry : FileId) :
    (g.order entry).value.Nodup ∧
      (∀ a, a ∈ (g.order entry).value ↔ g.Reaches entry a) ∧
      (∃ cuts, g.CutsCycles entry cuts ∧
        (g.order entry).diagnostics = cuts.map fun e => .includeCycle (g.pathOf e.2)) ∧
      (∀ d ∈ (g.order entry).diagnostics, d.severity = .error) ∧
      ((g.order entry).diagnostics ≠ [] ↔ ∃ a, g.Reaches entry a ∧ g.OnCycle a) := by
  obtain ⟨cuts, hcuts, hevents⟩ := exists_cutsCycles g entry
  have hdiagnostics : (g.order entry).diagnostics =
      cuts.map fun e => .includeCycle (g.pathOf e.2) := by
    rw [Traced.diagnostics, hevents, List.filterMap_map]
    exact congrFun List.filterMap_eq_map cuts
  refine ⟨nodup_order g entry, fun a => mem_order_iff, ⟨cuts, hcuts, hdiagnostics⟩, ?_, ?_⟩
  · intro d hd
    rw [hdiagnostics] at hd
    obtain ⟨e, -, rfl⟩ := List.mem_map.mp hd
    rfl
  · rw [hdiagnostics, ne_eq, List.map_eq_nil_iff, hcuts.eq_nil_iff]
    push Not
    rfl

end ShaderDepot.IncludeGraph
