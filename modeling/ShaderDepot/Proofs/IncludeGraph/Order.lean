import ShaderDepot.IncludeGraph.Order
import ShaderDepot.Proofs.IncludeGraph.Reach
import ShaderDepot.Proofs.Table

/-!
# What the order of a file holds

The walk down from an entry file meets the files that this one reaches, and no other.  So the order of a
compile holds each of them (`mem_order_iff`), and each once (`nodup_order`).
-/

namespace ShaderDepot.IncludeGraph

variable {g : IncludeGraph} {trail : List FileId} {id : FileId} {w w' w'' : Walk}

namespace Walk

def Met (w : Walk) (id : FileId) : Prop := id ∈ w.ranks.keys

/-- What a file includes was met with it, unless the file is on the trail still. -/
def Closed (w : Walk) (g : IncludeGraph) (trail : List FileId) : Prop :=
  ∀ a, w.Met a → a ∉ trail → ∀ b ∈ g.dependencies a, w.Met b

theorem met_raise (w : Walk) (id : FileId) (rank : Nat) (a : FileId) :
    (w.raise id rank).Met a ↔ w.Met a ∨ a = id := by
  rw [Met, raise, Table.keys_insert]
  split
  · next h => exact ⟨.inl, fun ha => ha.elim (fun ha => ha) fun e => e ▸ h⟩
  · rw [List.mem_append, List.mem_singleton]
    rfl

theorem met_of_any {rank : Nat} (h : (w.ranks.get? id).any (rank ≤ ·) = true) : w.Met id := by
  obtain ⟨n, hn, -⟩ := (Option.any_eq_true _ _).mp h
  apply Table.isSome_get?_iff.mp
  rw [hn]
  rfl

theorem Closed.raise (h : w.Closed g trail) (id : FileId) (rank : Nat) :
    (w.raise id rank).Closed g (id :: trail) := by
  intro a ha hn b hb
  rw [List.mem_cons, not_or] at hn
  have hmet := ((met_raise w id rank a).mp ha).resolve_right hn.1
  exact (met_raise w id rank b).mpr (.inl (h a hmet hn.2 b hb))

/-- What walking down from some files adds to a walk. -/
structure Explored (g : IncludeGraph) (trail from_ : List FileId) (w w' : Walk) : Prop where
  kept : ∀ a, w.Met a → w'.Met a
  met : ∀ a ∈ from_, w'.Met a
  reached : ∀ a, w'.Met a → w.Met a ∨ ∃ b ∈ from_, g.Reaches b a
  closed : w.Closed g trail → w'.Closed g trail
  unique : w.ranks.Unique → w'.ranks.Unique

/-- A file is ranked, and what it includes was met before or will not be asked for. -/
theorem explored_raise (rank : Nat) (h : w.Met id ∨ id ∈ trail ∨ g.dependencies id = []) :
    Explored g trail [id] w (w.raise id rank) where
  kept a ha := (met_raise w id rank a).mpr (.inl ha)
  met a ha := (met_raise w id rank a).mpr (.inr (List.mem_singleton.mp ha))
  reached a ha := by
    rcases (met_raise w id rank a).mp ha with ha | rfl
    · exact .inl ha
    · exact .inr ⟨a, List.mem_singleton_self a, .refl g a⟩
  closed hc a ha hn b hb := by
    refine (met_raise w id rank b).mpr (.inl ?_)
    rcases (met_raise w id rank a).mp ha with ha | rfl
    · exact hc a ha hn b hb
    · rcases h with h | h | h
      · exact hc a h hn b hb
      · exact absurd h hn
      · rw [h] at hb
        cases hb
  unique hu := hu.insert id _

theorem Explored.closeCycle (h : Explored g trail [id] w w') (includer : Option FileId) :
    Explored g trail [id] w (w'.closeCycle g includer id).value := by
  unfold Walk.closeCycle
  split <;> exact ⟨h.kept, h.met, h.reached, h.closed, h.unique⟩

theorem explored_foldlM {f : Walk → FileId → Traced Walk} {l : List FileId}
    (hf : ∀ d w, Explored g trail [d] w (f w d).value) (w : Walk) :
    Explored g trail l w (l.foldlM f w).value := by
  induction l generalizing w with
  | nil =>
    exact ⟨fun _ ha => ha, fun _ ha => (nomatch ha), fun _ ha => .inl ha, fun hc => hc, fun hu => hu⟩
  | cons d l ih =>
    rw [List.foldlM_cons, Traced.value_bind]
    have hfirst := hf d w
    have hrest := ih (f w d).value
    constructor
    · exact fun a ha => hrest.kept a (hfirst.kept a ha)
    · intro a ha
      rcases List.mem_cons.mp ha with rfl | ha
      · exact hrest.kept a (hfirst.met a (List.mem_singleton_self a))
      · exact hrest.met a ha
    · intro a ha
      rcases hrest.reached a ha with ha | ⟨b, hb, hr⟩
      · refine (hfirst.reached a ha).imp_right ?_
        rintro ⟨b, hb, hr⟩
        exact ⟨b, List.mem_cons.mpr (.inl (List.mem_singleton.mp hb)), hr⟩
      · exact .inr ⟨b, List.mem_cons_of_mem _ hb, hr⟩
    · exact fun hc => hrest.closed (hfirst.closed hc)
    · exact fun hu => hrest.unique (hfirst.unique hu)

/-- Once the walk has gone down to all that a file includes, the file need not be excused. -/
theorem Explored.leave (h : Explored g (id :: trail) (g.dependencies id) (w.raise id trail.length) w') :
    Explored g trail [id] w w' := by
  have hraise := met_raise w id trail.length
  constructor
  · exact fun a ha => h.kept a ((hraise a).mpr (.inl ha))
  · exact fun a ha => h.kept a ((hraise a).mpr (.inr (List.mem_singleton.mp ha)))
  · intro a ha
    rcases h.reached a ha with ha | ⟨b, hb, hr⟩
    · refine ((hraise a).mp ha).imp_right ?_
      rintro rfl
      exact ⟨a, List.mem_singleton_self a, .refl g a⟩
    · exact .inr ⟨id, List.mem_singleton_self id, .head hb hr⟩
  · intro hc a ha hn b hb
    by_cases hid : a = id
    · rw [hid] at hb
      exact h.met b hb
    · exact h.closed (hc.raise id trail.length) a ha
        (fun hm => (List.mem_cons.mp hm).elim hid hn) b hb
  · exact fun hu => h.unique (hu.insert id _)

end Walk

open Walk

theorem explored_visit (g : IncludeGraph) (trail : List FileId) (id : FileId) (w : Walk) :
    Explored g trail [id] w (g.visit trail id w).value := by
  induction trail, id, w using visit.induct g with
  | case1 trail id w hm =>
    rw [visit, dif_pos hm]
    exact (explored_raise trail.length (.inr (.inl hm))).closeCycle trail.head?
  | case2 trail id w hm hr =>
    rw [visit, dif_neg hm, if_pos hr]
    exact explored_raise trail.length (.inl (met_of_any hr))
  | case3 trail id w hm hr hs ih =>
    rw [visit, dif_neg hm, if_neg hr, dif_pos hs]
    exact (explored_foldlM (fun d w => ih w d) _).leave
  | case4 trail id w hm hr hs =>
    rw [visit, dif_neg hm, if_neg hr, dif_neg hs]
    exact explored_raise trail.length
      (.inr (.inr (dependencies_of_size_le (Nat.le_of_not_lt hs))))

theorem order_perm (g : IncludeGraph) (entry : FileId) :
    (g.order entry).value.Perm (g.visit [] entry {}).value.ranks.keys :=
  (List.mergeSort_perm ..).map _

/-- The order of a file holds what the file reaches. -/
theorem mem_order_iff {entry a : FileId} : a ∈ (g.order entry).value ↔ g.Reaches entry a := by
  have hw := explored_visit g [] entry {}
  rw [(order_perm g entry).mem_iff]
  constructor
  · intro ha
    rcases hw.reached a ha with ha | ⟨b, hb, hr⟩
    · cases ha
    · rwa [List.mem_singleton.mp hb] at hr
  · intro hr
    have hclosed := hw.closed fun a ha => nomatch ha
    exact hr.closed (fun a b ha hb => hclosed a ha List.not_mem_nil b hb)
      (hw.met entry (List.mem_singleton_self entry))

theorem nodup_order (g : IncludeGraph) (entry : FileId) : (g.order entry).value.Nodup :=
  (order_perm g entry).nodup_iff.mpr ((explored_visit g [] entry {}).unique Table.unique_empty)

end ShaderDepot.IncludeGraph
