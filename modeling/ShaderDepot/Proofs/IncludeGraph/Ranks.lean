import ShaderDepot.Proofs.IncludeGraph.Order

/-!
# What comes before what in the order of a file

The walk ranks what a file includes above the file, unless the file is met again below itself: this
raises the file's rank, and not the ranks of what it includes.  So a file on no cycle comes after all
that it includes (`order_includes`), and a file on a cycle need not, even where what it includes is on
none (`order_selfIncluding`).
-/

namespace ShaderDepot.IncludeGraph

variable {g : IncludeGraph} {trail : List FileId} {id : FileId} {w w' : Walk}

namespace Walk

def rank (w : Walk) (a : FileId) : Nat := (w.ranks.get? a).getD 0

/-- An include of the file was reported to close a cycle. -/
def Cut (w : Walk) (a : FileId) : Prop := ∃ includer, (includer, a) ∈ w.reported

/-- What a file includes ranks above it, once the walk has left the file and unless it was cut. -/
def Sorted (w : Walk) (g : IncludeGraph) (trail : List FileId) : Prop :=
  ∀ a, w.Met a → a ∉ trail → ¬w.Cut a → ∀ b ∈ g.dependencies a, w.rank a < w.rank b

theorem rank_raise (w : Walk) (id : FileId) (rank : Nat) (a : FileId) :
    (w.raise id rank).rank a = if id = a then max (w.rank id) rank else w.rank a := by
  rw [Walk.rank, raise, Table.get?_insert]
  split <;> rfl

theorem rank_raise_self (w : Walk) (id : FileId) (rank : Nat) :
    (w.raise id rank).rank id = max (w.rank id) rank := by
  rw [rank_raise, if_pos rfl]

theorem rank_raise_of_ne (w : Walk) (rank : Nat) {a : FileId} (h : a ≠ id) :
    (w.raise id rank).rank a = w.rank a := by
  rw [rank_raise, if_neg h.symm]

theorem rank_le_raise (w : Walk) (id : FileId) (rank : Nat) (a : FileId) :
    w.rank a ≤ (w.raise id rank).rank a := by
  rw [rank_raise]
  split
  · next h => exact h ▸ Nat.le_max_left ..
  · exact Nat.le_refl _

theorem le_rank_of_any {rank : Nat} (h : (w.ranks.get? id).any (rank ≤ ·) = true) :
    rank ≤ w.rank id := by
  obtain ⟨n, hn, hle⟩ := (Option.any_eq_true _ _).mp h
  rw [Walk.rank, hn]
  exact of_decide_eq_true hle

theorem rank_le_of_not_any {rank : Nat} (h : ¬(w.ranks.get? id).any (rank ≤ ·) = true) :
    w.rank id ≤ rank := by
  rw [Walk.rank]
  cases hn : w.ranks.get? id with
  | none => exact Nat.zero_le _
  | some n =>
    rw [hn, Option.any_some, decide_eq_true_iff] at h
    exact Nat.le_of_not_le h

theorem Sorted.raise (h : w.Sorted g trail) (id : FileId) (rank : Nat) :
    (w.raise id rank).Sorted g (id :: trail) := by
  intro a ha hn hc b hb
  rw [List.mem_cons, not_or] at hn
  have hmet := ((met_raise w id rank a).mp ha).resolve_right hn.1
  rw [rank_raise_of_ne w rank hn.1]
  exact Nat.lt_of_lt_of_le (h a hmet hn.2 hc b hb) (rank_le_raise w id rank b)

/-- What walking down from some files does to the ranks. -/
structure Ranked (g : IncludeGraph) (trail from_ : List FileId) (w w' : Walk) : Prop where
  cut : ∀ a, w.Cut a → w'.Cut a
  rises : ∀ a, w.rank a ≤ w'.rank a
  lifted : ∀ a ∈ from_, trail.length ≤ w'.rank a
  /-- A file whose includes are being walked is raised only where it is cut. -/
  still : ∀ a ∈ trail, w'.Cut a ∨ w'.rank a = w.rank a
  sorted : w.Sorted g trail → w'.Sorted g trail

theorem ranked_foldlM {f : Walk → FileId → Traced Walk} {l : List FileId}
    (hf : ∀ d w, Ranked g trail [d] w (f w d).value) (w : Walk) :
    Ranked g trail l w (l.foldlM f w).value := by
  induction l generalizing w with
  | nil =>
    exact ⟨fun _ ha => ha, fun _ => Nat.le_refl _, fun _ ha => (nomatch ha), fun _ _ => .inr rfl,
      fun hs => hs⟩
  | cons d l ih =>
    rw [List.foldlM_cons, Traced.value_bind]
    have hfirst := hf d w
    have hrest := ih (f w d).value
    constructor
    · exact fun a ha => hrest.cut a (hfirst.cut a ha)
    · exact fun a => Nat.le_trans (hfirst.rises a) (hrest.rises a)
    · intro a ha
      rcases List.mem_cons.mp ha with rfl | ha
      · exact Nat.le_trans (hfirst.lifted a (List.mem_singleton_self a)) (hrest.rises a)
      · exact hrest.lifted a ha
    · intro a ha
      rcases hrest.still a ha with hc | he
      · exact .inl hc
      · rcases hfirst.still a ha with hc | he'
        · exact .inl (hrest.cut a hc)
        · exact .inr (he.trans he')
    · exact fun hs => hrest.sorted (hfirst.sorted hs)

/-- A file off the trail is ranked, and what it includes ranks above the rank already. -/
theorem ranked_raise (hm : id ∉ trail)
    (h : w.Met id ∧ trail.length ≤ w.rank id ∨ g.dependencies id = []) :
    Ranked g trail [id] w (w.raise id trail.length) where
  cut _ ha := ha
  rises := rank_le_raise w id trail.length
  lifted a ha := by
    rw [List.mem_singleton.mp ha, rank_raise_self]
    exact Nat.le_max_right ..
  still a ha := by
    refine .inr (rank_raise_of_ne w _ ?_)
    rintro rfl
    exact hm ha
  sorted hs a ha hn hc b hb := by
    refine Nat.lt_of_lt_of_le ?_ (rank_le_raise w id trail.length b)
    by_cases hid : a = id
    · rw [hid] at hb hn hc ⊢
      rcases h with ⟨hmet, hle⟩ | h
      · rw [rank_raise_self, Nat.max_eq_left hle]
        exact hs id hmet hn hc b hb
      · rw [h] at hb
        cases hb
    · rw [rank_raise_of_ne w _ hid]
      exact hs a (((met_raise w id _ a).mp ha).resolve_right hid) hn hc b hb

theorem cut_closeCycle (g : IncludeGraph) (includer : Option FileId) (id : FileId) (w : Walk)
    (a : FileId) : (w.closeCycle g includer id).value.Cut a ↔ w.Cut a ∨ a = id := by
  unfold closeCycle
  split
  · next h =>
    refine ⟨.inl, ?_⟩
    rintro (ha | rfl)
    · exact ha
    · exact ⟨includer, h⟩
  · constructor
    · rintro ⟨i, hi⟩
      rcases List.mem_append.mp hi with hi | hi
      · exact .inl ⟨i, hi⟩
      · exact .inr (Prod.mk.inj (List.mem_singleton.mp hi)).2
    · rintro (⟨i, hi⟩ | rfl)
      · exact ⟨i, List.mem_append_left _ hi⟩
      · exact ⟨includer, List.mem_append_right _ (List.mem_singleton_self _)⟩

theorem ranks_closeCycle (g : IncludeGraph) (includer : Option FileId) (id : FileId) (w : Walk) :
    (w.closeCycle g includer id).value.ranks = w.ranks := by
  unfold closeCycle
  split <;> rfl

theorem rank_closeCycle (g : IncludeGraph) (includer : Option FileId) (id : FileId) (w : Walk)
    (a : FileId) : (w.closeCycle g includer id).value.rank a = w.rank a := by
  rw [Walk.rank, ranks_closeCycle]
  rfl

theorem met_closeCycle (g : IncludeGraph) (includer : Option FileId) (id : FileId) (w : Walk)
    (a : FileId) : (w.closeCycle g includer id).value.Met a ↔ w.Met a := by
  rw [Met, ranks_closeCycle]
  rfl

/-- A file on the trail is raised and cut. -/
theorem ranked_closeCycle (includer : Option FileId) (hm : id ∈ trail) :
    Ranked g trail [id] w ((w.raise id trail.length).closeCycle g includer id).value := by
  constructor
  · exact fun a ha => (cut_closeCycle ..).mpr (.inl ha)
  · intro a
    rw [rank_closeCycle]
    exact rank_le_raise w id trail.length a
  · intro a ha
    rw [rank_closeCycle, List.mem_singleton.mp ha, rank_raise_self]
    exact Nat.le_max_right ..
  · intro a ha
    by_cases hid : a = id
    · exact .inl ((cut_closeCycle ..).mpr (.inr hid))
    · rw [rank_closeCycle]
      exact .inr (rank_raise_of_ne w _ hid)
  · intro hs a ha hn hc b hb
    have hid : a ≠ id := fun e => hn (e ▸ hm)
    have hmet : w.Met a :=
      ((met_raise w id _ a).mp ((met_closeCycle ..).mp ha)).resolve_right hid
    have hcut : ¬w.Cut a := fun h => hc ((cut_closeCycle ..).mpr (.inl h))
    rw [rank_closeCycle, rank_closeCycle, rank_raise_of_ne w _ hid]
    exact Nat.lt_of_lt_of_le (hs a hmet hn hcut b hb) (rank_le_raise w id trail.length b)

/-- The walk leaves a file at the rank with which it came, and what the file includes has been lifted
above that rank. -/
theorem Ranked.leave (hm : id ∉ trail) (hr : w.rank id ≤ trail.length)
    (h : Ranked g (id :: trail) (g.dependencies id) (w.raise id trail.length) w') :
    Ranked g trail [id] w w' := by
  have hrank : (w.raise id trail.length).rank id = trail.length := by
    rw [rank_raise_self, Nat.max_eq_right hr]
  constructor
  · exact h.cut
  · exact fun a => Nat.le_trans (rank_le_raise w id trail.length a) (h.rises a)
  · intro a ha
    have hle := h.rises id
    rwa [hrank, ← List.mem_singleton.mp ha] at hle
  · intro a ha
    have hid : a ≠ id := fun e => hm (e ▸ ha)
    have hstill := h.still a (List.mem_cons_of_mem _ ha)
    rwa [rank_raise_of_ne w _ hid] at hstill
  · intro hs a ha hn hc b hb
    by_cases hid : a = id
    · rw [hid] at hb hc ⊢
      rw [(h.still id (List.mem_cons_self ..)).resolve_left hc, hrank]
      exact h.lifted b hb
    · exact h.sorted (hs.raise id trail.length) a ha
        (fun hm => (List.mem_cons.mp hm).elim hid hn) hc b hb

end Walk

open Walk

theorem ranked_visit (g : IncludeGraph) (trail : List FileId) (id : FileId) (w : Walk) :
    Ranked g trail [id] w (g.visit trail id w).value := by
  induction trail, id, w using visit.induct g with
  | case1 trail id w hm =>
    rw [visit, dif_pos hm]
    exact ranked_closeCycle trail.head? hm
  | case2 trail id w hm hr =>
    rw [visit, dif_neg hm, if_pos hr]
    exact ranked_raise hm (.inl ⟨met_of_any hr, le_rank_of_any hr⟩)
  | case3 trail id w hm hr hs ih =>
    rw [visit, dif_neg hm, if_neg hr, dif_pos hs]
    exact (ranked_foldlM (fun d w => ih w d) _).leave hm (rank_le_of_not_any hr)
  | case4 trail id w hm hr hs =>
    rw [visit, dif_neg hm, if_neg hr, dif_neg hs]
    exact ranked_raise hm (.inr (dependencies_of_size_le (Nat.le_of_not_lt hs)))

/-! ## Cycles -/

def OnCycle (g : IncludeGraph) (a : FileId) : Prop := ∃ b ∈ g.dependencies a, g.Reaches b a

/-- Each file of the trail includes, directly or through others, the file met at its end. -/
def Trailed (g : IncludeGraph) (trail : List FileId) (id : FileId) : Prop :=
  ∀ a ∈ trail, ∃ b ∈ g.dependencies a, g.Reaches b id

theorem Trailed.cons (h : g.Trailed trail id) {d : FileId} (hd : d ∈ g.dependencies id) :
    g.Trailed (id :: trail) d := by
  intro a ha
  rcases List.mem_cons.mp ha with rfl | ha
  · exact ⟨d, hd, .refl g d⟩
  · obtain ⟨b, hb, hr⟩ := h a ha
    exact ⟨b, hb, Relation.ReflTransGen.tail hr hd⟩

/-- What a walk cuts is on a cycle, and is told of. -/
def Walk.Accounted (g : IncludeGraph) (w : Walk) (x : Traced Walk) : Prop :=
  ∀ a, x.value.Cut a →
    w.Cut a ∨ g.OnCycle a ∧ Event.diagnostic (.includeCycle (g.pathOf a)) ∈ x.events

theorem accounted_foldlM {f : Walk → FileId → Traced Walk} {l : List FileId}
    (hf : ∀ d ∈ l, ∀ w, Accounted g w (f w d)) (w : Walk) : Accounted g w (l.foldlM f w) := by
  induction l generalizing w with
  | nil => exact fun _ ha => .inl ha
  | cons d l ih =>
    rw [List.foldlM_cons]
    intro a ha
    rw [Traced.events_bind, List.mem_append]
    rcases ih (fun d hd => hf d (List.mem_cons_of_mem _ hd)) _ a ha with ha | ⟨hcycle, he⟩
    · exact (hf d (List.mem_cons_self ..) w a ha).imp_right (.imp_right .inl)
    · exact .inr ⟨hcycle, .inr he⟩

theorem accounted_closeCycle (includer : Option FileId) (hcycle : g.OnCycle id) :
    Accounted g w (w.closeCycle g includer id) := by
  unfold Walk.closeCycle
  split
  · exact fun _ ha => .inl ha
  · rintro a ⟨i, hi⟩
    rcases List.mem_append.mp hi with hi | hi
    · exact .inl ⟨i, hi⟩
    · obtain ⟨-, rfl⟩ := Prod.mk.inj (List.mem_singleton.mp hi)
      exact .inr ⟨hcycle, List.mem_singleton_self _⟩

theorem accounted_visit (g : IncludeGraph) (trail : List FileId) (id : FileId) (w : Walk)
    (ht : g.Trailed trail id) : Accounted g w (g.visit trail id w) := by
  induction trail, id, w using visit.induct g with
  | case1 trail id w hm =>
    rw [visit, dif_pos hm]
    exact accounted_closeCycle trail.head? (ht id hm)
  | case2 trail id w hm hr =>
    rw [visit, dif_neg hm, if_pos hr]
    exact fun _ ha => .inl ha
  | case3 trail id w hm hr hs ih =>
    rw [visit, dif_neg hm, if_neg hr, dif_pos hs]
    exact accounted_foldlM (fun d hd w => ih w d (ht.cons hd)) _
  | case4 trail id w hm hr hs =>
    rw [visit, dif_neg hm, if_neg hr, dif_neg hs]
    exact fun _ ha => .inl ha

/-! ## The order -/

/-- The order is the order of discovery, sorted by falling rank. -/
theorem Walk.order_eq (hu : w.ranks.Unique) :
    w.order = w.ranks.keys.mergeSort fun a b => w.rank b ≤ w.rank a := by
  have hrank : ∀ e ∈ w.ranks.entries, w.rank e.1 = e.2 := by
    intro e he
    rw [Walk.rank, Table.get?, Table.lookup_eq_some_of_mem hu he]
    rfl
  rw [Walk.order, Table.keys]
  refine List.map_mergeSort fun e he e' he' => ?_
  rw [hrank e he, hrank e' he']

theorem pairwise_order (g : IncludeGraph) (entry : FileId) :
    (g.order entry).value.Pairwise fun a b =>
      (g.visit [] entry {}).value.rank b ≤ (g.visit [] entry {}).value.rank a := by
  have hu := (explored_visit g [] entry {}).unique Table.unique_empty
  rw [order, Traced.value_bind, Traced.value_pure, Walk.order_eq hu]
  refine (List.pairwise_mergeSort (fun a b c hab hbc => ?_) (fun a b => ?_) _).imp of_decide_eq_true
  · rw [decide_eq_true_iff] at hab hbc ⊢
    exact Nat.le_trans hbc hab
  · rw [Bool.or_eq_true, decide_eq_true_iff, decide_eq_true_iff]
    exact Nat.le_total ..

theorem sublist_of_pairwise {α : Type} {R : α → α → Prop} {l : List α} (h : l.Pairwise R) {a b : α}
    (ha : a ∈ l) (hb : b ∈ l) (hne : a ≠ b) (hn : ¬R b a) : [a, b].Sublist l := by
  obtain ⟨s, t, rfl⟩ := List.append_of_mem ha
  rcases List.mem_append.mp hb with hb | hb
  · exact absurd ((List.pairwise_append.mp h).2.2 b hb a (List.mem_cons_self ..)) hn
  · have hb := (List.mem_cons.mp hb).resolve_left hne.symm
    exact ((List.singleton_sublist.mpr hb).cons_cons a).trans (List.sublist_append_right ..)

/-- In the order of a file each file comes after what it includes, unless it is on a cycle and was
reported to be. -/
theorem order_includes (g : IncludeGraph) {entry u v : FileId} (hu : g.Reaches entry u)
    (hv : v ∈ g.dependencies u) :
    [v, u].Sublist (g.order entry).value ∨
      g.OnCycle u ∧ .includeCycle (g.pathOf u) ∈ (g.order entry).diagnostics := by
  have hmu := mem_order_iff.mpr hu
  have hmv := mem_order_iff.mpr (Relation.ReflTransGen.tail hu hv)
  by_cases hc : (g.visit [] entry {}).value.Cut u
  · right
    rcases accounted_visit g [] entry {} (fun _ ha => nomatch ha) u hc with ⟨_, hi⟩ | ⟨hcycle, he⟩
    · cases hi
    · refine ⟨hcycle, List.mem_filterMap.mpr ⟨.diagnostic (.includeCycle (g.pathOf u)), ?_, rfl⟩⟩
      rw [order, Traced.events_bind]
      exact List.mem_append_left _ he
  · left
    have hmet : (g.visit [] entry {}).value.Met u := (order_perm g entry).mem_iff.mp hmu
    have hlt := (ranked_visit g [] entry {}).sorted (fun a ha => nomatch ha) u hmet
      List.not_mem_nil hc v hv
    apply sublist_of_pairwise (pairwise_order g entry) hmv hmu
    · rintro rfl
      exact Nat.lt_irrefl _ hlt
    · exact Nat.not_le_of_lt hlt

/-! ## A file that includes itself -/

def selfIncludingFiles : Storage :=
  .memory { texts := ⟨[("e", "#include \"a\"\n"), ("a", "#include \"a\"\n#include \"c\"\n"), ("c", "\n")]⟩ }

def selfIncludingGraph : IncludeGraph :=
  (({ defaultVersion := "450" } : IncludeGraph).intern selfIncludingFiles "e").value.2

theorem order_includes_selfIncluding :
    (⟨1⟩ ∈ selfIncludingGraph.dependencies ⟨0⟩) ∧
      [⟨1⟩, ⟨0⟩].Sublist (selfIncludingGraph.order ⟨0⟩).value := by
  have hv : ⟨1⟩ ∈ selfIncludingGraph.dependencies ⟨0⟩ := by decide +kernel
  have hn : .includeCycle (selfIncludingGraph.pathOf ⟨0⟩) ∉
      (selfIncludingGraph.order ⟨0⟩).diagnostics := by
    decide +kernel
  exact ⟨hv, (order_includes selfIncludingGraph (.refl _ _) hv).resolve_right fun h => hn h.2⟩

/-- The walk down from `a` meets `a` again below itself, and raises it to the rank of `c`, which `a`
includes and which includes nothing. -/
theorem order_selfIncluding :
    ⟨2⟩ ∈ selfIncludingGraph.dependencies ⟨1⟩ ∧ ¬selfIncludingGraph.Reaches ⟨2⟩ ⟨1⟩ ∧
      (selfIncludingGraph.order ⟨1⟩).value = [⟨1⟩, ⟨2⟩] ∧
      ¬[⟨2⟩, ⟨1⟩].Sublist (selfIncludingGraph.order ⟨1⟩).value := by
  have hclosed : ⟨2⟩ ∈ selfIncludingGraph.dependencies ⟨1⟩ ∧
      selfIncludingGraph.dependencies ⟨2⟩ = [] ∧
      (selfIncludingGraph.visit [] ⟨1⟩ {}).value.ranks.entries = [(⟨1⟩, 1), (⟨2⟩, 1)] := by
    decide +kernel
  obtain ⟨ha, hc, hranks⟩ := hclosed
  have horder : (selfIncludingGraph.order ⟨1⟩).value = [⟨1⟩, ⟨2⟩] := by
    rw [order, Traced.value_bind, Traced.value_pure, Walk.order, hranks,
      List.mergeSort_of_pairwise (by decide)]
    rfl
  refine ⟨ha, fun h => ?_, horder, by rw [horder]; decide⟩
  have hstays : (⟨1⟩ : FileId) = ⟨2⟩ := by
    apply h.closed (s := (· = ⟨2⟩)) _ rfl
    rintro a b rfl hb
    rw [hc] at hb
    cases hb
  exact absurd hstays (by decide)

end ShaderDepot.IncludeGraph
