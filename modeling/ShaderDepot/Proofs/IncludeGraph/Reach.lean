import Mathlib.Logic.Relation
import ShaderDepot.IncludeGraph.Includers
import ShaderDepot.Proofs.IncludeGraph.Settled

/-!
# Which files a change may concern

One file reaches another when it includes it, directly or through others.  The search for the includers
of some files finds every file that reaches one of them, and no other (`mem_includersClosure`).
-/

namespace ShaderDepot.IncludeGraph

variable {g : IncludeGraph}

/-- The first file includes the second, directly or through others, or is the second. -/
def Reaches (g : IncludeGraph) : FileId → FileId → Prop :=
  Relation.ReflTransGen fun a b => b ∈ g.dependencies a

theorem Reaches.refl (g : IncludeGraph) (a : FileId) : g.Reaches a a := Relation.ReflTransGen.refl

theorem Reaches.head {a b c : FileId} (h : b ∈ g.dependencies a) (hr : g.Reaches b c) :
    g.Reaches a c := Relation.ReflTransGen.head h hr

theorem Reaches.closed {s : FileId → Prop} (hs : ∀ a b, s a → b ∈ g.dependencies a → s b)
    {a b : FileId} (h : g.Reaches a b) (ha : s a) : s b := by
  induction h with
  | refl => exact ha
  | tail _ hd ih => exact hs _ _ ih hd

theorem WellFormed.lt_size_of_reaches (hg : g.WellFormed) {a b : FileId} (h : g.Reaches a b)
    (ha : a.index < g.size) : b.index < g.size :=
  h.closed (s := (·.index < g.size)) (fun c d _ hd => hg.closed c d hd) ha

/-- As long as a file reaches nothing that is read anew, it reaches what it did, and finds that
unchanged. -/
theorem Grows.unreached {reread : FileId → Prop} {g' : IncludeGraph} (h : Grows reread g g')
    (hg : g.WellFormed) {a c : FileId} (ha : a.index < g.size)
    (hn : ∀ b, b.index < g.size → g'.Reaches a b → ¬reread b) (hr : g.Reaches a c) :
    g'.Reaches a c ∧ g'.body? c = g.body? c ∧ g'.dependencies c = g.dependencies c := by
  have hc : c.index < g.size := hg.lt_size_of_reaches hr ha
  -- Along the old path each file is unchanged, so the next step is still there.
  have hr' : g'.Reaches a c := by
    induction hr with
    | refl => exact .refl g' a
    | tail hb hd ih =>
      have hs := hg.lt_size_of_reaches hb ha
      have hb' := ih hs
      apply Relation.ReflTransGen.tail hb'
      show _ ∈ g'.dependencies _
      rw [h.dependencies _ hs (hn _ hs hb')]
      exact hd
  have hread := hn c hc hr'
  exact ⟨hr', h.body c hc hread, h.dependencies c hc hread⟩

/-! ## The search -/

/-- What is seen has been waiting or seen before, or includes what has. -/
theorem reaches_of_mem_seeIncluders (hg : g.WellFormed) (seeds : List FileId)
    (seen queue : List FileId) {a : FileId} (ha : a ∈ g.seeIncluders seen queue)
    (hseen : ∀ x ∈ seen, ∃ b ∈ seeds, g.Reaches x b)
    (hqueue : ∀ x ∈ queue, ∃ b ∈ seeds, g.Reaches x b) : ∃ b ∈ seeds, g.Reaches a b := by
  induction seen, queue using seeIncluders.induct g with
  | case1 seen =>
    rw [seeIncluders] at ha
    exact hseen a ha
  | case2 seen id queue h ih =>
    rw [seeIncluders, dif_pos h] at ha
    have hid := hqueue id (List.mem_cons_self ..)
    apply ih ha
    · intro x hx
      rcases List.mem_cons.mp hx with rfl | hx
      · exact hid
      · exact hseen x hx
    · intro x hx
      rcases List.mem_append.mp hx with hx | hx
      · exact hqueue x (List.mem_cons_of_mem _ hx)
      · obtain ⟨b, hb, hr⟩ := hid
        exact ⟨b, hb, .head ((hg.symmetric x id).mpr hx) hr⟩
  | case3 seen id queue h ih =>
    rw [seeIncluders, dif_neg h] at ha
    exact ih ha hseen fun x hx => hqueue x (List.mem_cons_of_mem _ hx)

/-- What waits and has a place is seen in the end, and so are the includers of all that is seen. -/
theorem mem_seeIncluders (seen queue : List FileId)
    (hseen : ∀ x ∈ seen, ∀ y ∈ g.includers x, y.index < g.size → y ∈ seen ∨ y ∈ queue) :
    (∀ x, x ∈ seen ∨ x ∈ queue ∧ x.index < g.size → x ∈ g.seeIncluders seen queue) ∧
      ∀ x ∈ g.seeIncluders seen queue, ∀ y ∈ g.includers x, y.index < g.size →
        y ∈ g.seeIncluders seen queue := by
  induction seen, queue using seeIncluders.induct g with
  | case1 seen =>
    rw [seeIncluders]
    constructor
    · rintro x (hx | ⟨hx, -⟩)
      · exact hx
      · cases hx
    · intro x hx y hy hs
      exact (hseen x hx y hy hs).resolve_right List.not_mem_nil
  | case2 seen id queue h ih =>
    rw [seeIncluders, dif_pos h]
    -- The includers of the file that is seen now have been put on the queue.
    obtain ⟨hin, hclosed⟩ := ih (by
      intro x hx y hy hs
      rcases List.mem_cons.mp hx with rfl | hx
      · exact .inr (List.mem_append_right _ hy)
      · rcases hseen x hx y hy hs with hy | hy
        · exact .inl (List.mem_cons_of_mem _ hy)
        · rcases List.mem_cons.mp hy with rfl | hy
          · exact .inl (List.mem_cons_self ..)
          · exact .inr (List.mem_append_left _ hy))
    refine ⟨?_, hclosed⟩
    rintro x (hx | ⟨hx, hs⟩)
    · exact hin x (.inl (List.mem_cons_of_mem _ hx))
    · rcases List.mem_cons.mp hx with rfl | hx
      · exact hin x (.inl (List.mem_cons_self ..))
      · exact hin x (.inr ⟨List.mem_append_left _ hx, hs⟩)
  | case3 seen id queue h ih =>
    rw [seeIncluders, dif_neg h]
    -- The file has no place or was seen before, so it need not wait.
    have hid : ∀ y, y ∈ seen ∨ y ∈ id :: queue → y.index < g.size → y ∈ seen ∨ y ∈ queue := by
      rintro y (hy | hy) hs
      · exact .inl hy
      · rcases List.mem_cons.mp hy with rfl | hy
        · by_contra hn
          exact h ⟨hs, fun hm => hn (.inl hm)⟩
        · exact .inr hy
    obtain ⟨hin, hclosed⟩ := ih fun x hx y hy hs => hid y (hseen x hx y hy hs) hs
    refine ⟨?_, hclosed⟩
    rintro x (hx | ⟨hx, hs⟩)
    · exact hin x (.inl hx)
    · rcases hid x (.inr hx) hs with hx | hx
      · exact hin x (.inl hx)
      · exact hin x (.inr ⟨hx, hs⟩)

theorem includersClosure_nil (g : IncludeGraph) : g.includersClosure [] = [] := by
  rw [includersClosure, seeIncluders]
  exact List.filter_eq_nil_iff.mpr fun a _ => by simp

/-- The includers of some files are the files that reach one of them. -/
theorem mem_includersClosure (hg : g.WellFormed) {seeds : List FileId} {a : FileId}
    (ha : a.index < g.size) :
    a ∈ g.includersClosure seeds ↔ ∃ b ∈ seeds, g.Reaches a b := by
  have hm : a ∈ g.includersClosure seeds ↔ a ∈ g.seeIncluders [] seeds := by
    rw [includersClosure, List.mem_filter, mem_ids, decide_eq_true_iff]
    exact and_iff_right ha
  rw [hm]
  clear hm
  constructor
  · intro h
    apply reaches_of_mem_seeIncluders hg seeds [] seeds h
    · intro x hx
      cases hx
    · intro x hx
      exact ⟨x, hx, .refl g x⟩
  · rintro ⟨b, hb, hr⟩
    obtain ⟨hin, hclosed⟩ := mem_seeIncluders (g := g) [] seeds fun x hx => nomatch hx
    have hbs : b.index < g.size := hg.lt_size_of_reaches hr ha
    -- From the seed back to the file: each step is a listed includer of one that is seen.
    induction hr using Relation.ReflTransGen.head_induction_on with
    | refl => exact hin _ (.inr ⟨hb, hbs⟩)
    | head hd _ ih =>
      exact hclosed _ (ih (hg.closed _ _ hd)) _ ((hg.symmetric _ _).mp hd) ha

end ShaderDepot.IncludeGraph
