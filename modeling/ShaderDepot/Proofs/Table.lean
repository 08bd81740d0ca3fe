import Mathlib.Data.List.Nodup
import ShaderDepot.Table

/-!
# Keys of tables

A table that came about by insertions has one entry for each of its keys (`Unique`), so its entries are
what a look-up finds, in whatever order they are taken.
-/

namespace ShaderDepot.Table

variable {κ α : Type}

def Unique (t : Table κ α) : Prop := t.keys.Nodup

theorem unique_empty : (∅ : Table κ α).Unique := List.nodup_nil

variable [DecidableEq κ] {t : Table κ α} {k : κ} {v : α}

theorem lookup_isSome_iff {l : List (κ × α)} : (l.lookup k).isSome ↔ k ∈ l.map (·.1) := by
  induction l with
  | nil => exact iff_of_false Bool.false_ne_true List.not_mem_nil
  | cons p l ih =>
    rw [List.lookup_cons, List.map_cons, List.mem_cons]
    by_cases h : k = p.1
    · rw [h, beq_self_eq_true]
      exact iff_of_true rfl (.inl rfl)
    · rw [beq_false_of_ne h, or_iff_right h]
      exact ih

theorem lookup_eq_none {l : List (κ × α)} (h : k ∉ l.map (·.1)) : l.lookup k = none := by
  rwa [← Option.not_isSome_iff_eq_none, lookup_isSome_iff]

theorem isSome_get?_iff : (t.get? k).isSome ↔ k ∈ t.keys := lookup_isSome_iff

theorem lookup_eq_some_of_mem {l : List (κ × α)} (h : (l.map (·.1)).Nodup) (hm : (k, v) ∈ l) :
    l.lookup k = some v := by
  induction l with
  | nil => cases hm
  | cons p l ih =>
    obtain ⟨hp, hl⟩ := List.nodup_cons.mp h
    rw [List.lookup_cons]
    rcases List.mem_cons.mp hm with rfl | hm
    · rw [beq_self_eq_true]
    · -- The key is not the first one, for the first one does not come again.
      have hne : k ≠ p.1 := by
        rintro rfl
        exact hp (List.mem_map.mpr ⟨_, hm, rfl⟩)
      rw [beq_false_of_ne hne]
      exact ih hl hm

/-- A table in which nothing is found has no entries. -/
theorem eq_empty_of_get? (h : ∀ k, t.get? k = none) : t = ∅ := by
  obtain ⟨entries⟩ := t
  cases entries with
  | nil => rfl
  | cons p l =>
    have hp : List.lookup p.1 (p :: l) = none := h p.1
    rw [List.lookup_cons, beq_self_eq_true] at hp
    cases hp

theorem map_fst_insertEntry (k : κ) (v : α) (l : List (κ × α)) :
    (insertEntry k v l).map (·.1) =
      if k ∈ l.map (·.1) then l.map (·.1) else l.map (·.1) ++ [k] := by
  induction l with
  | nil => rfl
  | cons p l ih =>
    obtain ⟨a, b⟩ := p
    have hmem : k ∈ ((a, b) :: l).map (·.1) ↔ k = a ∨ k ∈ l.map (·.1) := List.mem_cons
    rw [insertEntry]
    by_cases h : a = k
    · rw [if_pos h, if_pos (hmem.mpr (.inl h.symm)), h]
      rfl
    · rw [if_neg h, List.map_cons, ih]
      by_cases hk : k ∈ l.map (·.1)
      · rw [if_pos hk, if_pos (hmem.mpr (.inr hk))]
        rfl
      · rw [if_neg hk, if_neg fun hm => (hmem.mp hm).elim (fun e => h e.symm) hk]
        rfl

theorem keys_insert (t : Table κ α) (k : κ) (v : α) :
    (t.insert k v).keys = if k ∈ t.keys then t.keys else t.keys ++ [k] :=
  map_fst_insertEntry k v t.entries

theorem insertEntry_of_lookup {l : List (κ × α)} (h : l.lookup k = some v) :
    insertEntry k v l = l := by
  induction l with
  | nil => cases h
  | cons p l ih =>
    obtain ⟨a, b⟩ := p
    rw [List.lookup_cons] at h
    rw [insertEntry]
    by_cases hk : a = k
    · rw [hk, beq_self_eq_true] at h
      rw [if_pos hk, hk, Option.some.inj h]
    · rw [beq_false_of_ne (Ne.symm hk)] at h
      rw [if_neg hk, ih h]

/-- To give a key what it has changes nothing. -/
theorem insert_of_get? (h : t.get? k = some v) : t.insert k v = t := by
  rw [insert, insertEntry_of_lookup h]

theorem Unique.insert (h : t.Unique) (k : κ) (v : α) : (t.insert k v).Unique := by
  rw [Unique, keys_insert]
  split
  · exact h
  · next hk => exact List.Nodup.append h (List.nodup_singleton k) (List.disjoint_singleton.mpr hk)

end ShaderDepot.Table
