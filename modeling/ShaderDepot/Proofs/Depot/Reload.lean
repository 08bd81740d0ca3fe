import ShaderDepot.Depot
import ShaderDepot.Proofs.IncludeGraph.Loading
import ShaderDepot.Proofs.IncludeGraph.Silent

/-!
# Reading changed files again

An update reads every changed file that has a place again, one after the other.  In the end the graph
is settled, the files read and the files that got a place say what the storage gives, and no other file
was touched (`reloaded_reloadFiles`).
-/

namespace ShaderDepot

namespace IncludeGraph

/-- `g` comes from the graph `start` by reading the files `seeds` again, which the storage `s` gives. -/
structure Reloaded (s : Storage) (start g : IncludeGraph) (seeds : List FileId) : Prop where
  settled : g.Settled
  grows : Grows (fun a => a ∈ seeds ∨ start.size ≤ a.index) start g
  fresh : Fresh s (fun a => a ∈ seeds ∨ start.size ≤ a.index) g
  inRange : ∀ a ∈ seeds, a.index < g.size

variable {s : Storage} {start g : IncludeGraph} {seeds : List FileId}

theorem reloaded_nil (s : Storage) (hg : g.Settled) : Reloaded s g g [] where
  settled := hg
  grows := .refl _ g
  fresh a f hf ha := by
    rcases ha with ha | ha
    · cases ha
    · exact absurd (lt_size_of_body? hf) (Nat.not_lt.mpr ha)
  inRange a ha := nomatch ha

theorem Reloaded.reload (h : Reloaded s start g seeds) {id : FileId} (hid : id.index < g.size) :
    Reloaded s start (g.reload s id).value (seeds ++ [id]) := by
  obtain ⟨hs, hg, hf⟩ := settled_reload s h.settled hid
  have hmem : ∀ a, a ∈ seeds ++ [id] ↔ a ∈ seeds ∨ a = id := by
    intro a
    rw [List.mem_append, List.mem_singleton]
  refine ⟨hs, ?_, ?_, ?_⟩
  · -- A place that is new in this step was not there at first either.
    refine (h.grows.mono ?_).trans (hg.mono ?_)
    · rintro a (ha | ha)
      · exact .inl ((hmem a).mpr (.inl ha))
      · exact .inr ha
    · rintro a (ha | ha)
      · exact .inl ((hmem a).mpr (.inr ha))
      · exact .inr (Nat.le_trans h.grows.size ha)
  · intro a f ha hr
    by_cases hnow : a = id ∨ g.size ≤ a.index
    · exact hf a f ha hnow
    · -- The file was read earlier and not since.
      have ha' : g.body? a = some f := by
        rw [← hg.body a (Nat.lt_of_not_le fun h => hnow (.inr h)) hnow, ha]
      apply h.fresh a f ha'
      rcases hr with hr | hr
      · rcases (hmem a).mp hr with hr | hr
        · exact .inl hr
        · exact absurd (.inl hr) hnow
      · exact .inr hr
  · intro a ha
    apply Nat.lt_of_lt_of_le _ hg.size
    rcases (hmem a).mp ha with ha | rfl
    · exact h.inRange a ha
    · exact hid

end IncludeGraph

namespace Depot

open IncludeGraph

variable {s : Storage} {start g : IncludeGraph} {seeds : List FileId}

/-- What is done for one changed path. -/
def reloadPath (s : Storage) (now : IncludeGraph × List FileId) (path : String) :
    Traced (IncludeGraph × List FileId) :=
  match now.1.find? path with
  | some id => do return (← now.1.reload s id, now.2 ++ [id])
  | none => do
    Traced.note (record .trace s!"Ignoring change to unused shader file {path}")
    return now

theorem value_reloadPath_of_none {now : IncludeGraph × List FileId} {path : String}
    (h : now.1.find? path = none) : (reloadPath s now path).value = now := by
  simp only [reloadPath, h]
  rfl

theorem value_reloadPath {now : IncludeGraph × List FileId} {path : String} {id : FileId}
    (h : now.1.find? path = some id) :
    (reloadPath s now path).value = ((now.1.reload s id).value, now.2 ++ [id]) := by
  simp only [reloadPath, h]
  rfl

theorem reloadFiles_eq (s : Storage) (g : IncludeGraph) (paths : List String) :
    reloadFiles s g paths = paths.foldlM (reloadPath s) (g, []) := rfl

theorem calls_reloadPath (s : Storage) (now : IncludeGraph × List FileId) (path : String) :
    (reloadPath s now path).calls = [] := by
  unfold reloadPath
  split
  · rw [Traced.calls_bind, calls_reload]
    rfl
  · rfl

theorem calls_reloadFiles (s : Storage) (g : IncludeGraph) (paths : List String) :
    (reloadFiles s g paths).calls = [] := by
  rw [reloadFiles_eq]
  exact Traced.calls_foldlM _ _ _ (calls_reloadPath s)

theorem reloaded_foldlM_reloadPath (paths : List String) (h : Reloaded s start g seeds) :
    Reloaded s start (paths.foldlM (reloadPath s) (g, seeds)).value.1
        (paths.foldlM (reloadPath s) (g, seeds)).value.2 ∧
      (∀ a ∈ seeds, a ∈ (paths.foldlM (reloadPath s) (g, seeds)).value.2) ∧
      ∀ path ∈ paths, ∀ id, start.find? path = some id →
        id ∈ (paths.foldlM (reloadPath s) (g, seeds)).value.2 := by
  induction paths generalizing g seeds with
  | nil => exact ⟨h, fun _ ha => ha, fun _ hp => nomatch hp⟩
  | cons path paths ih =>
    rw [List.foldlM_cons, Traced.value_bind]
    cases hid : g.find? path with
    | none =>
      rw [value_reloadPath_of_none hid]
      obtain ⟨hr, hseeds, hpaths⟩ := ih h
      refine ⟨hr, hseeds, fun path' hp id hk => ?_⟩
      rcases List.mem_cons.mp hp with rfl | hp
      · -- A path that had a file at first still has it.
        have := h.grows.lookup _ _ hk
        rw [show g.lookup? _ = none from hid] at this
        cases this
      · exact hpaths path' hp id hk
    | some a =>
      rw [value_reloadPath hid]
      obtain ⟨hr, hseeds, hpaths⟩ := ih (h.reload (h.settled.lt_size_of_lookup? hid))
      refine ⟨hr, fun b hb => hseeds b (List.mem_append_left _ hb), fun path' hp id hk => ?_⟩
      rcases List.mem_cons.mp hp with rfl | hp
      · have := h.grows.lookup _ _ hk
        rw [show g.lookup? _ = some a from hid] at this
        rw [← Option.some.inj this]
        exact hseeds a (List.mem_append_right _ (List.mem_singleton_self a))
      · exact hpaths path' hp id hk

/-- Every changed file that has a place is read again. -/
theorem reloaded_reloadFiles (s : Storage) (hg : g.Settled) (paths : List String) :
    Reloaded s g (reloadFiles s g paths).value.1 (reloadFiles s g paths).value.2 ∧
      ∀ path ∈ paths, ∀ id, g.find? path = some id → id ∈ (reloadFiles s g paths).value.2 := by
  obtain ⟨h, -, hpaths⟩ := reloaded_foldlM_reloadPath paths (reloaded_nil s hg)
  exact ⟨h, hpaths⟩

/-- An old file that is read again was named by a path. -/
theorem exists_path_of_mem_foldlM_reloadPath (hstart : start.WellFormed) (paths : List String)
    (h : Reloaded s start g seeds) {a : FileId} (ha : a.index < start.size)
    (hm : a ∈ (paths.foldlM (reloadPath s) (g, seeds)).value.2) :
    a ∈ seeds ∨ ∃ path ∈ paths, start.find? path = some a := by
  induction paths generalizing g seeds with
  | nil => exact .inl hm
  | cons path paths ih =>
    rw [List.foldlM_cons, Traced.value_bind] at hm
    have hrest : ∀ {P : Prop}, (P ∨ ∃ path ∈ paths, start.find? path = some a) →
        P ∨ ∃ path' ∈ path :: paths, start.find? path' = some a :=
      Or.imp_right fun ⟨path', hp, hfind⟩ => ⟨path', List.mem_cons_of_mem _ hp, hfind⟩
    cases hid : g.find? path with
    | none =>
      rw [value_reloadPath_of_none hid] at hm
      exact hrest (ih h hm)
    | some b =>
      rw [value_reloadPath hid] at hm
      rcases hrest (ih (h.reload (h.settled.lt_size_of_lookup? hid)) hm) with hm | hpath
      · rcases List.mem_append.mp hm with hm | hm
        · exact .inl hm
        · -- The file was found in the graph of then, and so it was in the graph of before.
          obtain rfl := List.mem_singleton.mp hm
          exact .inr ⟨path, List.mem_cons_self ..,
            h.grows.lookup?_of_lt hstart h.settled.toWellFormed ha hid⟩
      · exact .inr hpath

theorem mem_reloadFiles_iff (hg : g.Settled) (s : Storage) (paths : List String) {a : FileId}
    (ha : a.index < g.size) :
    a ∈ (reloadFiles s g paths).value.2 ↔ ∃ path ∈ paths, g.find? path = some a := by
  constructor
  · intro hm
    exact (exists_path_of_mem_foldlM_reloadPath hg.toWellFormed paths (reloaded_nil s hg) ha
      hm).resolve_left List.not_mem_nil
  · rintro ⟨path, hp, hfind⟩
    exact (reloaded_reloadFiles s hg paths).2 path hp a hfind

end Depot

end ShaderDepot
