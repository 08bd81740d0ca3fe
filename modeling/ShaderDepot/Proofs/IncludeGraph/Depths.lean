import Mathlib.Order.Bounds.Defs
import ShaderDepot.Proofs.IncludeGraph.Cycles

/-!
# The order of files without cycles

Where nothing below an entry file is on a cycle, the walk ranks each file by the longest trail to it,
though it goes down from a file only on a trail longer than those before.  It meets the files in
depth-first order, and meets no new file where it goes down again.  So the order of the entry is the
depth-first order, sorted by the lengths of these trails (`order_acyclic`).
-/

namespace ShaderDepot.IncludeGraph

variable {g : IncludeGraph} {entry id a : FileId} {trail : List FileId} {w w' : Walk}

/-- Adds to the files that were met a file and those below it, each when it is first met: the file
first, and then what it includes, in the order of its includes. -/
def preorderFrom (g : IncludeGraph) (trail met : List FileId) (id : FileId) : List FileId :=
  if id ∈ met then met
  else if _ : id ∉ trail ∧ id.index < g.size then
    (g.dependencies id).foldl (fun met d => g.preorderFrom (id :: trail) met d) (met ++ [id])
  else met ++ [id]
termination_by g.unseen trail
decreasing_by
  next h => exact unseen_cons_lt h.2 h.1

/-- A file and all that it includes, in depth-first order. -/
def preorder (g : IncludeGraph) (entry : FileId) : List FileId := g.preorderFrom [] [] entry

/-- Walks down every trail of includes, also where the files have been ranked. -/
def walkAll (g : IncludeGraph) (trail : List FileId) (id : FileId) (w : Walk) : Walk :=
  if _ : id ∉ trail ∧ id.index < g.size then
    (g.dependencies id).foldl (fun w d => g.walkAll (id :: trail) d w) (w.raise id trail.length)
  else w.raise id trail.length
termination_by g.unseen trail
decreasing_by
  next h => exact unseen_cons_lt h.2 h.1

/-! ## Walks through the includes of a file -/

theorem foldl_eq_self {α β : Type} {f : α → β → α} {l : List β} {a : α} (h : ∀ b ∈ l, f a b = a) :
    l.foldl f a = a := by
  induction l with
  | nil => rfl
  | cons b l ih =>
    rw [List.foldl_cons, h b (List.mem_cons_self ..)]
    exact ih fun c hc => h c (List.mem_cons_of_mem _ hc)

namespace Walk

theorem foldlM_keeps {f : Walk → FileId → Traced Walk} {l : List FileId} {P : Walk → Prop}
    (hf : ∀ d ∈ l, ∀ w, P w → P (f w d).value) (hw : P w) : P (l.foldlM f w).value := by
  induction l generalizing w with
  | nil => exact hw
  | cons d l ih =>
    rw [List.foldlM_cons, Traced.value_bind]
    exact ih (fun d hd => hf d (List.mem_cons_of_mem _ hd)) (hf d (List.mem_cons_self ..) w hw)

/-- A view of the walks that each step changes by a rule is changed by all the steps in turn. -/
theorem view_foldlM {β : Type} (view : Walk → β) {rule : β → FileId → β}
    {f : Walk → FileId → Traced Walk} {l : List FileId} {P : Walk → Prop}
    (hf : ∀ d ∈ l, ∀ w, P w → P (f w d).value ∧ view (f w d).value = rule (view w) d) (hw : P w) :
    view (l.foldlM f w).value = l.foldl rule (view w) := by
  induction l generalizing w with
  | nil => rfl
  | cons d l ih =>
    obtain ⟨hkeeps, hview⟩ := hf d (List.mem_cons_self ..) w hw
    rw [List.foldlM_cons, Traced.value_bind, List.foldl_cons, ← hview]
    exact ih (fun d hd => hf d (List.mem_cons_of_mem _ hd)) hkeeps

/-! ## The order of discovery -/

/-- The files on the trail were met, and what any other file includes was met with it. -/
structure Rooted (w : Walk) (g : IncludeGraph) (trail : List FileId) : Prop where
  closed : w.Closed g trail
  met : ∀ a ∈ trail, w.Met a

theorem Rooted.raise (h : w.Rooted g trail) (id : FileId) (rank : Nat) :
    (w.raise id rank).Rooted g (id :: trail) where
  closed := h.closed.raise id rank
  met a ha := by
    rw [met_raise]
    exact (List.mem_cons.mp ha).symm.imp (h.met a) fun e => e

theorem Explored.rooted {from_ : List FileId} (h : Explored g trail from_ w w')
    (hw : w.Rooted g trail) : w'.Rooted g trail :=
  ⟨h.closed hw.closed, fun a ha => h.kept a (hw.met a ha)⟩

theorem keys_raise (w : Walk) (id : FileId) (rank : Nat) :
    (w.raise id rank).ranks.keys = if id ∈ w.ranks.keys then w.ranks.keys else w.ranks.keys ++ [id] :=
  Table.keys_insert ..

end Walk

open Walk

theorem preorderFrom_of_mem {met : List FileId} (h : id ∈ met) :
    g.preorderFrom trail met id = met := by
  rw [preorderFrom, if_pos h]

/-- The walk discovers the files in depth-first order, for where it goes down again from a file, it
has met all that is below. -/
theorem keys_visit (hw : w.Rooted g trail) :
    (g.visit trail id w).value.ranks.keys = g.preorderFrom trail w.ranks.keys id := by
  induction trail, id, w using visit.induct g with
  | case1 trail id w hm =>
    have hmet : id ∈ w.ranks.keys := hw.met id hm
    rw [visit, dif_pos hm, ranks_closeCycle, keys_raise, if_pos hmet, preorderFrom_of_mem hmet]
  | case2 trail id w hm hr =>
    have hmet : id ∈ w.ranks.keys := met_of_any hr
    rw [visit, dif_neg hm, if_pos hr, Traced.value_pure, keys_raise, if_pos hmet,
      preorderFrom_of_mem hmet]
  | case3 trail id w hm hr hs ih =>
    have hfold := view_foldlM (fun w => w.ranks.keys) (l := g.dependencies id)
      (fun d _ w hw => ⟨(explored_visit g (id :: trail) d w).rooted hw, ih w d hw⟩)
      (hw.raise id trail.length)
    rw [visit, dif_neg hm, if_neg hr, dif_pos hs, hfold, keys_raise]
    by_cases hmet : id ∈ w.ranks.keys
    · -- What the file includes was met when the walk first left the file.
      rw [if_pos hmet, preorderFrom_of_mem hmet]
      exact foldl_eq_self fun d hd => preorderFrom_of_mem (hw.closed id hmet hm d hd)
    · rw [if_neg hmet, preorderFrom, if_neg hmet, dif_pos ⟨hm, hs⟩]
  | case4 trail id w hm hr hs =>
    rw [visit, dif_neg hm, if_neg hr, dif_neg hs, Traced.value_pure, keys_raise, preorderFrom,
      dif_neg fun h => hs h.2]

/-! ## The walk along every trail -/

namespace Walk

theorem raise_eq_self {rank : Nat} (hmet : w.Met id) (hrank : rank ≤ w.rank id) :
    w.raise id rank = w := by
  obtain ⟨n, hn⟩ := Option.isSome_iff_exists.mp (Table.isSome_get?_iff.mpr hmet)
  have hmax : max ((w.ranks.get? id).getD 0) rank = n := by
    rw [Walk.rank, hn, Option.getD_some] at hrank
    rw [hn, Option.getD_some, Nat.max_eq_left hrank]
  rw [raise, hmax, Table.insert_of_get? hn]

/-- What walking along every trail below a file would give it, the walk has. -/
def Settled (w : Walk) (g : IncludeGraph) (id : FileId) : Prop :=
  ∀ a, g.Reaches id a → ∀ b ∈ g.dependencies a, w.Met b ∧ w.rank a < w.rank b

theorem walkAll_eq_self (hmet : w.Met id) (hrank : trail.length ≤ w.rank id) (h : w.Settled g id) :
    g.walkAll trail id w = w := by
  induction trail, id, w using walkAll.induct g with
  | case1 trail id w hm ih =>
    rw [walkAll, dif_pos hm, raise_eq_self hmet hrank]
    refine foldl_eq_self fun d hd => ?_
    obtain ⟨hmd, hlt⟩ := h id (.refl g id) d hd
    exact ih w d hmd (Nat.lt_of_le_of_lt hrank hlt) fun a ha => h a (.head hd ha)
  | case2 trail id w hm =>
    rw [walkAll, dif_neg hm, raise_eq_self hmet hrank]

/-- Nothing was cut, and what a file that was left includes was met and ranks above it. -/
structure Exact (w : Walk) (g : IncludeGraph) (trail : List FileId) : Prop where
  rooted : w.Rooted g trail
  sorted : w.Sorted g trail
  uncut : w.reported = []

theorem Exact.not_cut (h : w.Exact g trail) (a : FileId) : ¬w.Cut a := by
  rintro ⟨includer, hi⟩
  rw [h.uncut] at hi
  cases hi

theorem Exact.raise (h : w.Exact g trail) (id : FileId) (rank : Nat) :
    (w.raise id rank).Exact g (id :: trail) where
  rooted := h.rooted.raise id rank
  sorted := h.sorted.raise id rank
  uncut := h.uncut

theorem rooted_empty (g : IncludeGraph) : ({} : Walk).Rooted g [] :=
  ⟨fun _ ha => (nomatch ha), fun _ ha => (nomatch ha)⟩

theorem exact_empty (g : IncludeGraph) : ({} : Walk).Exact g [] :=
  ⟨rooted_empty g, fun _ ha => (nomatch ha), rfl⟩

/-- Where no trail comes back to its own files, nothing below a file that was met is on the trail. -/
theorem Exact.settled (h : w.Exact g trail) (ht : g.Trail entry trail id) (hmet : w.Met id)
    (hacyclic : ∀ a, g.Reaches entry a → ¬g.OnCycle a) : w.Settled g id := by
  have hoff : ∀ a, g.Reaches id a → a ∉ trail := by
    intro a ha hm
    obtain ⟨b, hb, hr⟩ := ht.reaches_of_mem hm
    exact hacyclic a (ht.reaches.trans ha) ⟨b, hb, hr.trans ha⟩
  intro a ha b hb
  have hma : w.Met a := by
    refine (ha.closed (s := fun a => g.Reaches id a ∧ w.Met a) ?_ ⟨.refl g id, hmet⟩).2
    rintro a b ⟨hr, hm⟩ hb
    exact ⟨Relation.ReflTransGen.tail hr hb, h.rooted.closed a hm (hoff a hr) b hb⟩
  exact ⟨h.rooted.closed a hma (hoff a ha) b hb, h.sorted a hma (hoff a ha) (h.not_cut a) b hb⟩

end Walk

theorem exact_visit (ht : g.Trail entry trail id)
    (hacyclic : ∀ a, g.Reaches entry a → ¬g.OnCycle a) (hw : w.Exact g trail) :
    (g.visit trail id w).value.Exact g trail := by
  obtain ⟨cuts, h⟩ := exists_reports_visit ht w
  refine ⟨(explored_visit g trail id w).rooted hw.rooted, (ranked_visit g trail id w).sorted hw.sorted,
    ?_⟩
  rw [h.reported, hw.uncut, eq_nil_of_closing h.closing hacyclic, List.map_nil, List.append_nil]

/-- What the walk leaves out changes nothing. -/
theorem visit_eq_walkAll (ht : g.Trail entry trail id)
    (hacyclic : ∀ a, g.Reaches entry a → ¬g.OnCycle a) (hw : w.Exact g trail) :
    (g.visit trail id w).value = g.walkAll trail id w := by
  induction trail, id, w using visit.induct g with
  | case1 trail id w hm => exact absurd (ht.reaches_of_mem hm) (hacyclic id ht.reaches)
  | case2 trail id w hm hr =>
    -- All below the file ranks above it already, so to walk on would raise nothing.
    have hmet := met_of_any hr
    have hrank := le_rank_of_any hr
    rw [visit, dif_neg hm, if_pos hr, Traced.value_pure, raise_eq_self hmet hrank,
      walkAll_eq_self hmet hrank (hw.settled ht hmet hacyclic)]
  | case3 trail id w hm hr hs ih =>
    rw [visit, dif_neg hm, if_neg hr, dif_pos hs, walkAll, dif_pos ⟨hm, hs⟩]
    refine view_foldlM (fun w => w) (P := fun w => w.Exact g (id :: trail))
      (fun d hd w hw => ?_) (hw.raise id trail.length)
    exact ⟨exact_visit (ht.step hd) hacyclic hw, ih w d (ht.step hd) hw⟩
  | case4 trail id w hm hr hs =>
    rw [visit, dif_neg hm, if_neg hr, dif_neg hs, walkAll, dif_neg fun h => hs h.2]
    rfl

/-! ## Depths -/

namespace Walk

/-- Each file is ranked by the length of a trail to it. -/
def Measured (w : Walk) (g : IncludeGraph) (entry : FileId) : Prop :=
  ∀ a, w.Met a → ∃ trail, g.Trail entry trail a ∧ trail.length = w.rank a

theorem met_of_rank_pos (h : 0 < w.rank a) : w.Met a := by
  refine Table.isSome_get?_iff.mp (Option.isSome_iff_ne_none.mpr fun hn => ?_)
  rw [Walk.rank, hn] at h
  exact Nat.lt_irrefl 0 h

theorem Measured.raise (h : w.Measured g entry) (ht : g.Trail entry trail id) :
    (w.raise id trail.length).Measured g entry := by
  intro a ha
  by_cases hid : a = id
  · rw [hid, rank_raise_self]
    rcases Nat.lt_or_ge trail.length (w.rank id) with hlt | hge
    · obtain ⟨trail', ht', hlength⟩ := h id (met_of_rank_pos (Nat.zero_lt_of_lt hlt))
      exact ⟨trail', ht', hlength.trans (Nat.max_eq_left (Nat.le_of_lt hlt)).symm⟩
    · exact ⟨trail, ht, (Nat.max_eq_right hge).symm⟩
  · rw [rank_raise_of_ne w _ hid]
    exact h a (((met_raise w id _ a).mp ha).resolve_right hid)

end Walk

theorem measured_visit (ht : g.Trail entry trail id) (hw : w.Measured g entry) :
    (g.visit trail id w).value.Measured g entry := by
  induction trail, id, w using visit.induct g with
  | case1 trail id w hm =>
    rw [visit, dif_pos hm]
    intro a ha
    rw [rank_closeCycle]
    exact hw.raise ht a ((met_closeCycle ..).mp ha)
  | case2 trail id w hm hr =>
    rw [visit, dif_neg hm, if_pos hr]
    exact hw.raise ht
  | case3 trail id w hm hr hs ih =>
    rw [visit, dif_neg hm, if_neg hr, dif_pos hs]
    exact foldlM_keeps (fun d hd w hw => ih w d (ht.step hd) hw) (hw.raise ht)
  | case4 trail id w hm hr hs =>
    rw [visit, dif_neg hm, if_neg hr, dif_neg hs]
    exact hw.raise ht

/-- A trail is no longer than the rank of the file at its end, where nothing is cut. -/
theorem length_le_rank (hw : w.Exact g []) (hm : ∀ a, g.Reaches entry a → w.Met a)
    (ht : g.Trail entry trail id) : trail.length ≤ w.rank id := by
  induction ht with
  | start => exact Nat.zero_le _
  | step h hb ih =>
    exact Nat.lt_of_le_of_lt ih
      (hw.sorted _ (hm _ h.reaches) List.not_mem_nil (hw.not_cut _) _ hb)

/-! ## The order -/

theorem order_eq_mergeSort (g : IncludeGraph) (entry : FileId) :
    (g.order entry).value = (g.preorder entry).mergeSort fun a b =>
      (g.visit [] entry {}).value.rank b ≤ (g.visit [] entry {}).value.rank a := by
  rw [preorder]
  have hkeys : (g.visit [] entry {}).value.ranks.keys = g.preorderFrom [] [] entry :=
    keys_visit (rooted_empty g)
  rw [← hkeys]
  exact Walk.order_eq ((explored_visit g [] entry {}).unique Table.unique_empty)

/-- The length of the longest trail from the entry to a file. -/
def IsDepth (g : IncludeGraph) (entry a : FileId) (n : Nat) : Prop :=
  IsGreatest {n | ∃ trail, g.Trail entry trail a ∧ trail.length = n} n

section Acyclic

variable (hacyclic : ∀ a, g.Reaches entry a → ¬g.OnCycle a)
include hacyclic

theorem exact_order : (g.visit [] entry {}).value.Exact g [] :=
  exact_visit .start hacyclic (exact_empty g)

theorem isDepth_rank (ha : g.Reaches entry a) :
    g.IsDepth entry a ((g.visit [] entry {}).value.rank a) := by
  have hmet : ∀ a, g.Reaches entry a → (g.visit [] entry {}).value.Met a :=
    fun a ha => (order_perm g entry).mem_iff.mp (mem_order_iff.mpr ha)
  constructor
  · exact measured_visit (w := {}) .start (fun _ ha => nomatch ha) a (hmet a ha)
  · rintro n ⟨trail, ht, rfl⟩
    exact length_le_rank (exact_order hacyclic) hmet ht

theorem sublist_order {u v : FileId} (hu : g.Reaches entry u) (hv : v ∈ g.dependencies u) :
    [v, u].Sublist (g.order entry).value := by
  have hexact := exact_order hacyclic
  have hmu := mem_order_iff.mpr hu
  have hmv := mem_order_iff.mpr (Relation.ReflTransGen.tail hu hv)
  have hlt := hexact.sorted u ((order_perm g entry).mem_iff.mp hmu) List.not_mem_nil
    (hexact.not_cut u) v hv
  apply sublist_of_pairwise (pairwise_order g entry) hmv hmu
  · rintro rfl
    exact Nat.lt_irrefl _ hlt
  · exact Nat.not_le_of_lt hlt

/-- Only the entry has no trail but the empty one. -/
theorem isDepth_zero_iff (n : Nat) (h : g.IsDepth entry a n) : n = 0 ↔ a = entry := by
  obtain ⟨⟨trail, ht, hlength⟩, -⟩ := h
  cases ht with
  | start => exact iff_of_true hlength.symm rfl
  | step ht hb =>
    refine iff_of_false (by rw [← hlength]; exact Nat.succ_ne_zero _) ?_
    rintro rfl
    exact hacyclic _ ht.reaches ⟨a, hb, ht.reaches⟩

theorem getLast?_order : (g.order entry).value.getLast? = some entry := by
  have hentry := mem_order_iff.mpr (.refl g entry)
  obtain ⟨before, last, hsplit⟩ :=
    (List.eq_nil_or_concat' _).resolve_left (List.ne_nil_of_mem hentry)
  have hreached : g.Reaches entry last := by
    rw [← mem_order_iff, hsplit]
    exact List.mem_append_right _ (List.mem_singleton_self last)
  -- Depths fall along the order, and only the entry has none.
  have hzero := (isDepth_zero_iff hacyclic _ (isDepth_rank hacyclic (.refl g entry))).mpr rfl
  have hpairwise := pairwise_order g entry
  rw [hsplit] at hpairwise hentry
  rw [hsplit, List.getLast?_concat]
  rcases List.mem_append.mp hentry with hentry | hentry
  · have hle := (List.pairwise_append.mp hpairwise).2.2 entry hentry last (List.mem_singleton_self _)
    rw [hzero] at hle
    have hlast := isDepth_rank hacyclic hreached
    rw [(isDepth_zero_iff hacyclic _ hlast).mp (Nat.le_zero.mp hle)]
  · rw [List.mem_singleton.mp hentry]

theorem events_order : (g.order entry).events = [] := by
  obtain ⟨cuts, hcuts, hevents⟩ := exists_cutsCycles g entry
  rw [hevents, hcuts.eq_nil_iff.mpr hacyclic, List.map_nil]

end Acyclic

/-- Where no file below the entry is on a cycle, nothing is reported, and the order is the depth-first
order, sorted by falling depth; to walk along every trail gives the same.  So each file comes once and
after all that it includes, and the entry comes last. -/
theorem order_acyclic (g : IncludeGraph) (entry : FileId)
    (hacyclic : ∀ a, g.Reaches entry a → ¬g.OnCycle a) :
    (g.order entry).events = [] ∧
      (∃ depth : FileId → Nat, (∀ a, g.Reaches entry a → g.IsDepth entry a (depth a)) ∧
        (g.order entry).value = (g.preorder entry).mergeSort fun a b => depth b ≤ depth a) ∧
      (g.order entry).value = (g.walkAll [] entry {}).order ∧
      (g.order entry).value.Nodup ∧
      (∀ a, a ∈ (g.order entry).value ↔ g.Reaches entry a) ∧
      (∀ u v, g.Reaches entry u → v ∈ g.dependencies u → [v, u].Sublist (g.order entry).value) ∧
      (g.order entry).value.getLast? = some entry := by
  have hall : (g.visit [] entry {}).value = g.walkAll [] entry {} :=
    visit_eq_walkAll .start hacyclic (exact_empty g)
  refine ⟨events_order hacyclic, ?_, ?_, nodup_order g entry, fun a => mem_order_iff, ?_,
    getLast?_order hacyclic⟩
  · exact ⟨_, fun a ha => isDepth_rank hacyclic ha, order_eq_mergeSort g entry⟩
  · rw [← hall]
    rfl
  · exact fun u v hu hv => sublist_order hacyclic hu hv

/-! ## A file included at two depths -/

def layeredFiles : Storage :=
  .memory { texts := ⟨[("e", "#include \"a\"\n#include \"c\"\n"), ("a", "#include \"b\"\n"),
    ("b", "#include \"c\"\n"), ("c", "\n")]⟩ }

def layeredGraph : IncludeGraph :=
  (({ defaultVersion := "450" } : IncludeGraph).intern layeredFiles "e").value.2

theorem not_onCycle_of_lt (h : ∀ a b, b ∈ g.dependencies a → a.index < b.index) (a : FileId) :
    ¬g.OnCycle a := by
  rintro ⟨b, hb, hr⟩
  have hle : ∀ c, g.Reaches b c → b.index ≤ c.index := by
    intro c hc
    induction hc with
    | refl => exact Nat.le_refl _
    | tail _ hd ih => exact Nat.le_trans ih (Nat.le_of_lt (h _ _ hd))
  exact Nat.lt_irrefl _ (Nat.lt_of_lt_of_le (h a b hb) (hle a hr))

/-- The entry includes `c` itself too, and `c` comes before all files between them. -/
theorem order_acyclic_layered :
    (∀ a, layeredGraph.Reaches ⟨0⟩ a → ¬layeredGraph.OnCycle a) ∧
      layeredGraph.ids.map layeredGraph.dependencies = [[⟨1⟩, ⟨3⟩], [⟨2⟩], [⟨3⟩], []] ∧
      (layeredGraph.order ⟨0⟩).events = [] ∧
      [⟨3⟩, ⟨2⟩].Sublist (layeredGraph.order ⟨0⟩).value ∧
      (layeredGraph.order ⟨0⟩).value.getLast? = some ⟨0⟩ := by
  have hclosed :
      (∀ a ∈ layeredGraph.ids, ∀ b ∈ layeredGraph.dependencies a, a.index < b.index) ∧
      layeredGraph.ids.map layeredGraph.dependencies = [[⟨1⟩, ⟨3⟩], [⟨2⟩], [⟨3⟩], []] := by
    decide +kernel
  obtain ⟨hascending, hdependencies⟩ := hclosed
  have hacyclic : ∀ a, layeredGraph.Reaches ⟨0⟩ a → ¬layeredGraph.OnCycle a := by
    refine fun a _ => not_onCycle_of_lt (fun a b hb => ?_) a
    exact hascending a (mem_ids.mpr (lt_size_of_mem_dependencies hb)) b hb
  obtain ⟨hevents, -, -, -, -, hincludes, hlast⟩ := order_acyclic layeredGraph ⟨0⟩ hacyclic
  refine ⟨hacyclic, hdependencies, hevents, ?_, hlast⟩
  have h₁ : ⟨1⟩ ∈ layeredGraph.dependencies ⟨0⟩ := by decide +kernel
  have h₂ : ⟨2⟩ ∈ layeredGraph.dependencies ⟨1⟩ := by decide +kernel
  exact hincludes ⟨2⟩ ⟨3⟩ (.head h₁ (.head h₂ (.refl _ _))) (by decide +kernel)

end ShaderDepot.IncludeGraph
