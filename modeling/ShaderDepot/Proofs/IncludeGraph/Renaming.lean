import ShaderDepot.CompileUnit
import ShaderDepot.Proofs.IncludeGraph.Reach
import ShaderDepot.Proofs.IncludeGraph.UpToDate

/-!
# The order of files does not depend on their places

Two graphs may hold the same files at other places.  When the places of some files, closed under their
includes, are renamed (`Renaming`), the walk that orders files goes the same way, and so the compile
unit of an entry file is the same (`resolve_rename`).  So a unit does not change while nothing that its
entry file reaches is read anew (`Grows.resolve_eq`), and graphs that say what one storage gives have the
same units (`Agree.toRenaming`).
-/

namespace ShaderDepot

/-! ## Tables with renamed keys -/

namespace Table

variable {α : Type} {φ : FileId → FileId} {s : FileId → Prop}

theorem lookup_rename (hφ : ∀ a b, s a → s b → φ a = φ b → a = b) {l : List (FileId × α)}
    (hl : ∀ p ∈ l, s p.1) {k : FileId} (hk : s k) :
    (l.map fun p => (φ p.1, p.2)).lookup (φ k) = l.lookup k := by
  induction l with
  | nil => rfl
  | cons p l ih =>
    have hp : s p.1 := hl p (List.mem_cons_self ..)
    have hl' : ∀ q ∈ l, s q.1 := fun q hq => hl q (List.mem_cons_of_mem _ hq)
    rw [List.map_cons, List.lookup_cons, List.lookup_cons, ih hl']
    have he : (φ k == φ p.1) = (k == p.1) := by
      by_cases h : k = p.1
      · rw [h, beq_self_eq_true, beq_self_eq_true]
      · rw [beq_false_of_ne h, beq_false_of_ne fun e => h (hφ k p.1 hk hp e)]
    rw [he]

theorem insertEntry_rename (hφ : ∀ a b, s a → s b → φ a = φ b → a = b) {l : List (FileId × α)}
    (hl : ∀ p ∈ l, s p.1) {k : FileId} (hk : s k) (v : α) :
    insertEntry (φ k) v (l.map fun p => (φ p.1, p.2)) =
      (insertEntry k v l).map fun p => (φ p.1, p.2) := by
  induction l with
  | nil => rfl
  | cons p l ih =>
    obtain ⟨a, b⟩ := p
    have ha : s a := hl (a, b) (List.mem_cons_self ..)
    rw [List.map_cons, insertEntry, insertEntry]
    by_cases h : a = k
    · rw [if_pos h, if_pos (congrArg φ h)]
      rfl
    · rw [if_neg h, if_neg fun e => h (hφ a k ha hk e),
        ih fun q hq => hl q (List.mem_cons_of_mem _ hq)]
      rfl

theorem fst_of_mem_insertEntry {k : FileId} {v : α} {l : List (FileId × α)} {p : FileId × α}
    (h : p ∈ insertEntry k v l) : p.1 = k ∨ p ∈ l := by
  induction l with
  | nil =>
    rw [insertEntry, List.mem_singleton] at h
    exact .inl (congrArg Prod.fst h)
  | cons q l ih =>
    obtain ⟨a, b⟩ := q
    rw [insertEntry] at h
    split at h
    · rcases List.mem_cons.mp h with h | h
      · exact .inl (congrArg Prod.fst h)
      · exact .inr (List.mem_cons_of_mem _ h)
    · rcases List.mem_cons.mp h with h | h
      · exact .inr (h ▸ List.mem_cons_self ..)
      · exact (ih h).imp_right (List.mem_cons_of_mem _)

end Table

namespace IncludeGraph

def said? (g : IncludeGraph) (id : FileId) : Option (String × String × String) :=
  (g.body? id).map fun f => (f.path, f.text, f.version)

theorem pathOf_eq_said (g : IncludeGraph) (id : FileId) :
    g.pathOf id = ((g.said? id).map (·.1)).getD "" := by
  rw [pathOf_eq, said?, Option.map_map]
  rfl

theorem textOf_eq_said (g : IncludeGraph) (id : FileId) :
    g.textOf id = ((g.said? id).map (·.2.1)).getD "" := by
  rw [textOf_eq, said?, Option.map_map]
  rfl

theorem versionOf_eq_said (g : IncludeGraph) (id : FileId) :
    g.versionOf id = ((g.said? id).map (·.2.2)).getD g.defaultVersion := by
  rw [versionOf_eq, said?, Option.map_map]
  rfl

theorem isSome_said? {g : IncludeGraph} {id : FileId} : (g.said? id).isSome ↔ id.index < g.size := by
  rw [said?, Option.isSome_map]
  exact isSome_body?

/-- The files of `s` are the same in two graphs, but for their places, which `φ` renames. -/
structure Renaming (g g' : IncludeGraph) (φ : FileId → FileId) (s : FileId → Prop) : Prop where
  closed : ∀ a b, s a → b ∈ g.dependencies a → s b
  inRange : ∀ a, s a → a.index < g.size
  said : ∀ a, s a → g'.said? (φ a) = g.said? a
  dependencies : ∀ a, s a → g'.dependencies (φ a) = (g.dependencies a).map φ

variable {g g' : IncludeGraph} {φ : FileId → FileId} {s : FileId → Prop}

namespace Renaming

/-- Two files have two places, for they have two keys. -/
theorem injective (h : Renaming g g' φ s) (hg : g.WellFormed) (a b : FileId) (ha : s a) (hb : s b)
    (he : φ a = φ b) : a = b := by
  obtain ⟨f, hf⟩ := exists_body? (h.inRange a ha)
  obtain ⟨f', hf'⟩ := exists_body? (h.inRange b hb)
  -- What is said of a file includes its path.
  have hsaid : g.said? a = g.said? b := by rw [← h.said a ha, he, h.said b hb]
  rw [said?, said?, hf, hf'] at hsaid
  exact hg.eq_of_path hf hf' (congrArg Prod.fst (Option.some.inj hsaid))

theorem inRange' (h : Renaming g g' φ s) {a : FileId} (ha : s a) : (φ a).index < g'.size := by
  rw [← isSome_said?, h.said a ha, isSome_said?]
  exact h.inRange a ha

theorem mem_map_iff (h : Renaming g g' φ s) (hg : g.WellFormed) {l : List FileId}
    (hl : ∀ x ∈ l, s x) {a : FileId} (ha : s a) : φ a ∈ l.map φ ↔ a ∈ l := by
  rw [List.mem_map]
  constructor
  · rintro ⟨x, hx, he⟩
    rwa [← h.injective hg x a (hl x hx) ha he]
  · intro hm
    exact ⟨a, hm, rfl⟩

end Renaming

/-! ## The walk -/

/-- Two walks found the same files, at renamed places. -/
structure Walk.Renamed (φ : FileId → FileId) (s : FileId → Prop) (w w' : Walk) : Prop where
  met : ∀ p ∈ w.ranks.entries, s p.1
  ranks : w'.ranks.entries = w.ranks.entries.map fun p => (φ p.1, p.2)

theorem Walk.Renamed.get? {w w' : Walk} (hw : Walk.Renamed φ s w w')
    (hφ : ∀ a b, s a → s b → φ a = φ b → a = b) {id : FileId} (hid : s id) :
    w'.ranks.get? (φ id) = w.ranks.get? id := by
  rw [Table.get?, Table.get?, hw.ranks]
  exact Table.lookup_rename hφ hw.met hid

theorem Walk.Renamed.raise {w w' : Walk} (hw : Walk.Renamed φ s w w')
    (hφ : ∀ a b, s a → s b → φ a = φ b → a = b) {id : FileId} (hid : s id) (rank : Nat) :
    Walk.Renamed φ s (w.raise id rank) (w'.raise (φ id) rank) where
  met p hp := by
    rcases Table.fst_of_mem_insertEntry hp with h | h
    · rwa [h]
    · exact hw.met p h
  ranks := by
    show Table.insertEntry (φ id) (max ((w'.ranks.get? (φ id)).getD 0) rank) w'.ranks.entries = _
    rw [hw.get? hφ hid, hw.ranks]
    exact Table.insertEntry_rename hφ hw.met hid _

theorem ranks_closeCycle (g : IncludeGraph) (includer : Option FileId) (id : FileId) (w : Walk) :
    (w.closeCycle g includer id).value.ranks = w.ranks := by
  unfold Walk.closeCycle
  split <;> rfl

theorem renamed_foldlM (f f' : Walk → FileId → Traced Walk) {l : List FileId} (hl : ∀ d ∈ l, s d)
    (hf : ∀ d w w', s d → Walk.Renamed φ s w w' → Walk.Renamed φ s (f w d).value (f' w' (φ d)).value)
    {w w' : Walk} (hw : Walk.Renamed φ s w w') :
    Walk.Renamed φ s (l.foldlM f w).value ((l.map φ).foldlM f' w').value := by
  induction l generalizing w w' with
  | nil => exact hw
  | cons d l ih =>
    rw [List.map_cons, List.foldlM_cons, List.foldlM_cons]
    exact ih (fun x hx => hl x (List.mem_cons_of_mem _ hx)) (hf d w w' (hl d (List.mem_cons_self ..)) hw)

/-- The walk goes the same way at the renamed places. -/
theorem renamed_visit (h : Renaming g g' φ s) (hg : g.WellFormed) (trail : List FileId) (id : FileId)
    (w w' : Walk) (htrail : ∀ x ∈ trail, s x) (hid : s id) (hw : Walk.Renamed φ s w w') :
    Walk.Renamed φ s (g.visit trail id w).value (g'.visit (trail.map φ) (φ id) w').value := by
  have hφ := h.injective hg
  have hlen : (trail.map φ).length = trail.length := List.length_map ..
  have hraise := hw.raise hφ hid trail.length
  -- The induction follows the walk in the first graph.  What decides its way (the trail, the ranks so far,
  -- whether a file is there) is the same at the renamed places, so the other walk takes the same branch.
  induction trail, id, w using visit.induct g generalizing w' with
  | case1 trail id w hm =>
    rw [visit, dif_pos hm, visit, dif_pos ((h.mem_map_iff hg htrail hid).mpr hm), hlen]
    constructor
    · rw [ranks_closeCycle]
      exact hraise.met
    · rw [ranks_closeCycle, ranks_closeCycle]
      exact hraise.ranks
  | case2 trail id w hm hr =>
    rw [visit, dif_neg hm, if_pos hr, visit, dif_neg (mt (h.mem_map_iff hg htrail hid).mp hm),
      hw.get? hφ hid, hlen, if_pos hr]
    exact hraise
  | case3 trail id w hm hr hs ih =>
    rw [visit, dif_neg hm, if_neg hr, dif_pos hs, visit,
      dif_neg (mt (h.mem_map_iff hg htrail hid).mp hm), hw.get? hφ hid, hlen, if_neg hr,
      dif_pos (h.inRange' hid), h.dependencies id hid]
    apply renamed_foldlM _ _ (fun d hd => h.closed id d hid hd) _ hraise
    intro d w w' hd hw
    have htrail' : ∀ x ∈ id :: trail, s x := by
      intro x hx
      rcases List.mem_cons.mp hx with rfl | hx
      · exact hid
      · exact htrail x hx
    exact ih w d w' htrail' hd hw (List.length_map ..) (hw.raise hφ hd _)
  | case4 trail id w hm hr hs => exact absurd (h.inRange id hid) hs

theorem order_rename (h : Renaming g g' φ s) (hg : g.WellFormed) {entry : FileId} (he : s entry) :
    (g'.order (φ entry)).value = (g.order entry).value.map φ ∧
      ∀ a ∈ (g.order entry).value, s a := by
  have hw : Walk.Renamed φ s (g.visit [] entry {}).value (g'.visit [] (φ entry) {}).value := by
    apply renamed_visit h hg [] entry {} {} _ he ⟨_, rfl⟩
    · intro x hx
      cases hx
    · intro p hp
      cases hp
  constructor
  · -- Files are sorted by rank only, and equal ranks stay as they were found.
    show Walk.order _ = (Walk.order _).map φ
    rw [Walk.order, Walk.order, hw.ranks, List.map_map]
    have hsort := List.map_mergeSort (r := fun a b : FileId × Nat => decide (b.2 ≤ a.2))
      (s := fun a b : FileId × Nat => decide (b.2 ≤ a.2)) (f := fun p : FileId × Nat => (φ p.1, p.2))
      (l := (g.visit [] entry {}).value.ranks.entries) fun _ _ _ _ => rfl
    rw [← hsort, List.map_map]
    rfl
  · intro a ha
    obtain ⟨p, hp, rfl⟩ := List.mem_map.mp ha
    exact hw.met p (List.mem_mergeSort.mp hp)

theorem resolve_rename (h : Renaming g g' φ s) (hg : g.WellFormed) {entry : FileId} (he : s entry)
    (header : String) (defines : List Define) :
    (g'.resolve (φ entry) header defines).value = (g.resolve entry header defines).value := by
  obtain ⟨ho, hs⟩ := order_rename h hg he
  obtain ⟨f, hf⟩ := exists_body? (h.inRange entry he)
  have hversion : g'.versionOf (φ entry) = g.versionOf entry := by
    rw [versionOf_eq_said, versionOf_eq_said, h.said entry he, said?, hf]
    rfl
  show CompileUnit.assemble _ header defines _ = CompileUnit.assemble _ header defines _
  rw [hversion, ho, List.map_map]
  congr 1
  apply List.map_congr_left
  intro a ha
  show (g'.pathOf (φ a), g'.textOf (φ a)) = _
  rw [pathOf_eq_said, pathOf_eq_said, textOf_eq_said, textOf_eq_said, h.said a (hs a ha)]

/-! ## Graphs that agree -/

/-- A unit says nothing of files that its entry file does not reach. -/
theorem Grows.resolve_eq {reread : FileId → Prop} (h : Grows reread g g') (hg : g.WellFormed)
    {entry : FileId} (he : entry.index < g.size)
    (hn : ∀ b, b.index < g.size → g'.Reaches entry b → ¬reread b) (header : String)
    (defines : List Define) :
    (g'.resolve entry header defines).value = (g.resolve entry header defines).value := by
  have hr : Renaming g g' id (g.Reaches entry) :=
    { closed := fun a b ha hb => ha.tail hb
      inRange := fun a ha => hg.lt_size_of_reaches ha he
      said := fun a ha => congrArg (Option.map _) (h.unreached hg he hn ha).2.1
      dependencies := fun a ha => by
        rw [List.map_id]
        exact (h.unreached hg he hn ha).2.2 }
  exact resolve_rename hr hg (.refl g entry) header defines

/-- Members that a function tells apart are each kept once, before it or after it. -/
theorem eraseDups_map {α β : Type} [BEq α] [LawfulBEq α] [BEq β] [LawfulBEq β] (f : α → β)
    (l : List α) (hf : ∀ a ∈ l, ∀ b ∈ l, f a = f b → a = b) :
    (l.map f).eraseDups = l.eraseDups.map f := by
  match l with
  | [] => rfl
  | a :: l =>
    have hfilter : (l.map f).filter (fun b => !b == f a) = (l.filter fun b => !b == a).map f := by
      rw [List.filter_map]
      congr 1
      apply List.filter_congr
      intro b hb
      show (!f b == f a) = !b == a
      by_cases h : b = a
      · rw [h, beq_self_eq_true, beq_self_eq_true]
      · have hne : f b ≠ f a := fun e =>
          h (hf b (List.mem_cons_of_mem _ hb) a (List.mem_cons_self ..) e)
        rw [beq_false_of_ne h, beq_false_of_ne hne]
    rw [List.map_cons, List.eraseDups_cons, List.eraseDups_cons, List.map_cons, hfilter,
      eraseDups_map f (l.filter fun b => !b == a)]
    intro x hx y hy
    exact hf x (List.mem_cons_of_mem _ (List.mem_filter.mp hx).1) y
      (List.mem_cons_of_mem _ (List.mem_filter.mp hy).1)
termination_by l.length
decreasing_by
  have := List.length_filter_le (fun b => !b == a) l
  simp only [List.length_cons]
  omega

/-! ## Graphs of one storage -/

/-- Two graphs whose files say what one storage gives. -/
structure Agree (s : Storage) (g g' : IncludeGraph) : Prop where
  settled : g.Settled
  settled' : g'.Settled
  version : g'.defaultVersion = g.defaultVersion
  upToDate : g.UpToDate s
  upToDate' : g'.UpToDate s

/-- A file of one graph and a file of another have one key. -/
def Twins (g g' : IncludeGraph) (a a' : FileId) : Prop :=
  ∃ f, g.body? a = some f ∧ g'.lookup? f.path = some a'

def counterpart (g g' : IncludeGraph) (a : FileId) : FileId := (g'.lookup? (g.pathOf a)).getD a

theorem Twins.counterpart_eq {a a' : FileId} (h : Twins g g' a a') : g.counterpart g' a = a' := by
  obtain ⟨f, hf, ha'⟩ := h
  have hp : g.pathOf a = f.path := by
    rw [pathOf_eq, hf]
    rfl
  rw [counterpart, hp, ha']
  rfl

theorem twins_of_lookup? (hg : g.WellFormed) {key : String} {a a' : FileId}
    (ha : g.lookup? key = some a) (ha' : g'.lookup? key = some a') : Twins g g' a a' := by
  obtain ⟨f, hf, hp⟩ := (hg.index key a).mp ha
  exact ⟨f, hf, by rw [hp, ha']⟩

theorem Twins.left_unique (hg : g.WellFormed) (hg' : g'.WellFormed) {a b c : FileId}
    (ha : Twins g g' a c) (hb : Twins g g' b c) : a = b := by
  obtain ⟨f, hf, hfc⟩ := ha
  obtain ⟨f', hf', hfc'⟩ := hb
  obtain ⟨x, hx, hp⟩ := (hg'.index _ _).mp hfc
  obtain ⟨x', hx', hp'⟩ := (hg'.index _ _).mp hfc'
  rw [hx] at hx'
  obtain rfl := Option.some.inj hx'
  exact hg.eq_of_path hf hf' (hp.symm.trans hp')

namespace Agree

variable {st : Storage}

/-- The readings of twins gave one text, or none. -/
theorem exists_given (h : Agree st g g') {a a' : FileId} (ht : Twins g g' a a') :
    ∃ path given given', given'.toOption = given.toOption ∧
      g.body? a = some (.ofRead path g.defaultVersion given) ∧
      g'.body? a' = some (.ofRead path g.defaultVersion given') := by
  obtain ⟨f, hf, ha'⟩ := ht
  obtain ⟨f', hf', hp⟩ := (h.settled'.index _ _).mp ha'
  obtain ⟨given, hread, hgiven⟩ := h.settled.scanned a f hf
  obtain ⟨given', hread', hgiven'⟩ := h.settled'.scanned a' f' hf'
  have hst := h.upToDate a f hf
  have hst' := h.upToDate' a' f' hf'
  -- Both read under one path what the storage gives there.
  rw [hread, Option.map_some, Option.some_inj] at hst
  rw [hread', hp, Option.map_some, Option.some_inj, ← hst] at hst'
  refine ⟨f.path, given, given', hst', by rw [hf, ← hgiven], ?_⟩
  rw [hf', hgiven', hp, h.version]

theorem said (h : Agree st g g') {a a' : FileId} (ht : Twins g g' a a') : g'.said? a' = g.said? a := by
  obtain ⟨path, given, given', hsame, ha, ha'⟩ := h.exists_given ht
  rw [said?, said?, ha, ha']
  cases given <;> cases given' <;> cases hsame <;> rfl

theorem edges (h : Agree st g g') {a a' : FileId} (ht : Twins g g' a a') :
    ∃ keys : List String, (g.dependencies a).map some = (keys.map g.lookup?).eraseDups ∧
      (g'.dependencies a').map some = (keys.map g'.lookup?).eraseDups := by
  obtain ⟨path, given, given', hsame, ha, ha'⟩ := h.exists_given ht
  have hd := h.settled.edges a _ ha
  have hd' := h.settled'.edges a' _ ha'
  rw [SourceFile.includeKeys, SourceFile.lastRead_ofRead] at hd hd'
  refine ⟨SourceFile.keysOfRead given, hd, ?_⟩
  rw [← SourceFile.keysOfRead_congr hsame]
  exact hd'

theorem exists_twins (h : Agree st g g') {a a' b : FileId} (ht : Twins g g' a a')
    (hb : b ∈ g.dependencies a) : ∃ b', Twins g g' b b' := by
  obtain ⟨keys, hd, hd'⟩ := h.edges ht
  have hm : some b ∈ (keys.map g.lookup?).eraseDups := by
    rw [← hd]
    exact List.mem_map_of_mem hb
  obtain ⟨k, hk, hkb⟩ := List.mem_map.mp (List.mem_eraseDups.mp hm)
  -- The key that led to the file leads to its twin in the other graph.
  obtain ⟨b', -, hkb'⟩ := exists_listed hd' hk
  exact ⟨b', twins_of_lookup? h.settled.toWellFormed hkb hkb'⟩

theorem dependencies (h : Agree st g g') {a a' : FileId} (ht : Twins g g' a a') :
    g'.dependencies a' = (g.dependencies a).map (g.counterpart g') := by
  obtain ⟨keys, hd, hd'⟩ := h.edges ht
  -- Each key of an include names a file in one graph and its twin in the other.
  have hkeys : ∀ k ∈ keys, ∃ b b', g.lookup? k = some b ∧ g'.lookup? k = some b' ∧
      Twins g g' b b' := by
    intro k hk
    obtain ⟨b, -, hb⟩ := exists_listed hd hk
    obtain ⟨b', -, hb'⟩ := exists_listed hd' hk
    exact ⟨b, b', hb, hb', twins_of_lookup? h.settled.toWellFormed hb hb'⟩
  have hmap : keys.map g'.lookup? =
      (keys.map g.lookup?).map (Option.map (g.counterpart g')) := by
    rw [List.map_map]
    apply List.map_congr_left
    intro k hk
    obtain ⟨b, b', hb, hb', htw⟩ := hkeys k hk
    rw [Function.comp_apply, hb, hb', Option.map_some, htw.counterpart_eq]
  apply (List.map_inj_right fun _ _ => Option.some.inj).mp
  rw [hd', hmap, eraseDups_map, ← hd, List.map_map, List.map_map]
  · rfl
  · -- Two files of one graph do not have one twin, so the renaming keeps the listed files apart.
    intro x hx y hy hxy
    obtain ⟨k, hk, rfl⟩ := List.mem_map.mp hx
    obtain ⟨l, hl, rfl⟩ := List.mem_map.mp hy
    obtain ⟨b, b', hb, -, htb⟩ := hkeys k hk
    obtain ⟨c, c', hc, -, htc⟩ := hkeys l hl
    rw [hb, hc, Option.map_some, Option.map_some, htb.counterpart_eq, htc.counterpart_eq] at hxy
    obtain rfl := Option.some.inj hxy
    rw [hb, hc, htb.left_unique h.settled.toWellFormed h.settled'.toWellFormed htc]

/-- Below one key the graphs hold the same files. -/
theorem toRenaming (h : Agree st g g') {entry entry' : FileId} (ht : Twins g g' entry entry') :
    Renaming g g' (g.counterpart g') (g.Reaches entry) := by
  have hentry : entry.index < g.size := by
    obtain ⟨f, hf, -⟩ := ht
    exact lt_size_of_body? hf
  have htwins : ∀ a, g.Reaches entry a → ∃ a', Twins g g' a a' := by
    intro a ha
    induction ha with
    | refl => exact ⟨entry', ht⟩
    | tail _ hd ih =>
      obtain ⟨b', hb'⟩ := ih
      exact h.exists_twins hb' hd
  refine ⟨fun a b ha hb => ha.tail hb, fun a ha => ?_, fun a ha => ?_, fun a ha => ?_⟩
  · exact h.settled.lt_size_of_reaches ha hentry
  · obtain ⟨a', hta⟩ := htwins a ha
    rw [hta.counterpart_eq, h.said hta]
  · obtain ⟨a', hta⟩ := htwins a ha
    rw [hta.counterpart_eq, h.dependencies hta]

end Agree

end IncludeGraph

end ShaderDepot
