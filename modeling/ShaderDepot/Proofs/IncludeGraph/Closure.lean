import Mathlib.Logic.Function.Iterate
import ShaderDepot.Proofs.IncludeGraph.Built
import ShaderDepot.Proofs.IncludeGraph.Reach

/-!
# The least set of includers

The search for the includers of some files takes one file from its queue at each turn, and its turns are
bounded (`exists_turns`).  What it finds is the least set of files that has the given ones and, with each
file, its includers: it depends on which files are given, not on their order or number
(`includersClosure_least`).
-/

namespace ShaderDepot.IncludeGraph

variable {g : IncludeGraph} {defaultVersion : String}

/-! ## The turns of the search -/

/-- One turn of the search: the first file of the queue is seen, and its includers wait behind the
others; or it has been seen, and nothing else happens. -/
def turn (g : IncludeGraph) : List FileId × List FileId → List FileId × List FileId
  | (seen, []) => (seen, [])
  | (seen, id :: queue) =>
    if id.index < g.size ∧ id ∉ seen then (id :: seen, queue ++ g.includers id) else (seen, queue)

/-- The queue runs empty, and what is seen then is the result. -/
theorem exists_turns (g : IncludeGraph) (seen queue : List FileId) :
    ∃ n ≤ g.backlog seen queue, g.turn^[n] (seen, queue) = (g.seeIncluders seen queue, []) := by
  induction seen, queue using seeIncluders.induct g with
  | case1 seen =>
    refine ⟨0, Nat.zero_le _, ?_⟩
    rw [seeIncluders]
    rfl
  | case2 seen id queue h ih =>
    obtain ⟨n, hn, hturns⟩ := ih
    refine ⟨n + 1, Nat.lt_of_le_of_lt hn (backlog_cons_lt h.1 h.2), ?_⟩
    rw [seeIncluders, dif_pos h, Function.iterate_succ_apply, turn, if_pos h]
    exact hturns
  | case3 seen id queue h ih =>
    obtain ⟨n, hn, hturns⟩ := ih
    refine ⟨n + 1, Nat.lt_of_le_of_lt hn (Nat.lt_succ_self _), ?_⟩
    rw [seeIncluders, dif_neg h, Function.iterate_succ_apply, turn, if_neg h]
    exact hturns

/-- At the start no more can come into the queue than each file's includers, once. -/
theorem backlog_nil_le (g : IncludeGraph) (seeds : List FileId) :
    g.backlog [] seeds ≤ g.size * (g.edgeCount + 1) + seeds.length := by
  have hunseen : g.unseen [] ≤ g.size := by
    have hlen := List.countP_le_length (p := fun id => decide (id ∉ ([] : List FileId)))
      (l := g.ids)
    rw [ids, List.length_map, List.length_range] at hlen
    exact hlen
  have hmul := Nat.mul_le_mul_right (g.edgeCount + 1) hunseen
  simp only [backlog]
  omega

/-! ## The closure -/

/-- A list of the files from which some given file is reached, which is the least set with the given
files and the includers of its members. -/
structure IsClosure (g : IncludeGraph) (seeds closure : List FileId) : Prop where
  mem : ∀ a, a ∈ closure ↔ ∃ b ∈ seeds, g.Reaches a b
  given : ∀ b ∈ seeds, b ∈ closure
  closed : ∀ a ∈ closure, ∀ b ∈ g.includers a, b ∈ closure
  least : ∀ S : FileId → Prop, (∀ b ∈ seeds, S b) → (∀ a, S a → ∀ b ∈ g.includers a, S b) →
    ∀ a ∈ closure, S a
  ascending : closure.Pairwise (·.index < ·.index)

/-- What reaches a file of the graph is a file of the graph. -/
theorem Reaches.lt_size_of_target {a b : FileId} (h : g.Reaches a b) (hb : b.index < g.size) :
    a.index < g.size := by
  cases h using Relation.ReflTransGen.head_induction_on with
  | refl => exact hb
  | head hd _ => exact lt_size_of_mem_dependencies hd

theorem pairwise_ids (g : IncludeGraph) : g.ids.Pairwise (·.index < ·.index) :=
  List.pairwise_map.mpr List.pairwise_lt_range

theorem isClosure_includersClosure (hg : g.WellFormed) {seeds : List FileId}
    (hseeds : ∀ b ∈ seeds, b.index < g.size) : g.IsClosure seeds (g.includersClosure seeds) := by
  have hmem : ∀ a, a ∈ g.includersClosure seeds ↔ ∃ b ∈ seeds, g.Reaches a b := by
    intro a
    constructor
    · intro ha
      exact (mem_includersClosure hg (mem_ids.mp (List.mem_filter.mp ha).1)).mp ha
    · rintro ⟨b, hb, hr⟩
      exact (mem_includersClosure hg (hr.lt_size_of_target (hseeds b hb))).mpr ⟨b, hb, hr⟩
  refine ⟨hmem, fun b hb => (hmem b).mpr ⟨b, hb, .refl g b⟩, ?_, ?_,
    (pairwise_ids g).filter _⟩
  · intro a ha b hba
    obtain ⟨c, hc, hr⟩ := (hmem a).mp ha
    exact (hmem b).mpr ⟨c, hc, .head ((hg.symmetric b a).mpr hba) hr⟩
  · -- Back along the path from the given file: each step leads to an includer of a member.
    intro S hS hclosed a ha
    obtain ⟨b, hb, hr⟩ := (hmem a).mp ha
    induction hr using Relation.ReflTransGen.head_induction_on with
    | refl => exact hS _ hb
    | head hd hr ih =>
      exact hclosed _ (ih ((hmem _).mpr ⟨b, hb, hr⟩)) _ ((hg.symmetric _ _).mp hd)

theorem includersClosure_congr (g : IncludeGraph) {seeds seeds' : List FileId} (hg : g.WellFormed)
    (h : ∀ b, b ∈ seeds' ↔ b ∈ seeds) : g.includersClosure seeds' = g.includersClosure seeds := by
  have hids : ∀ seeds, g.includersClosure seeds = g.ids.filter (· ∈ g.includersClosure seeds) := by
    intro seeds
    rw [includersClosure]
    exact List.filter_congr fun a ha => by simp [ha]
  rw [hids seeds', hids seeds]
  apply List.filter_congr
  intro a ha
  have ha := mem_ids.mp ha
  simp only [decide_eq_decide, mem_includersClosure hg ha, h]

/-- The search for the includers of some files ends, and finds exactly the files from which one of them
is reached; this is the least set with the given files that is closed under including, whatever the order
and the repetitions in which they were given. -/
theorem includersClosure_least (hg : Built defaultVersion g) (seeds : List FileId)
    (hseeds : ∀ b ∈ seeds, b.index < g.size) :
    (∃ n ≤ g.size * (g.edgeCount + 1) + seeds.length, ∃ seen,
        g.turn^[n] ([], seeds) = (seen, []) ∧ g.includersClosure seeds = g.ids.filter (· ∈ seen)) ∧
      g.IsClosure seeds (g.includersClosure seeds) ∧
      ∀ seeds' : List FileId, (∀ b, b ∈ seeds' ↔ b ∈ seeds) →
        g.includersClosure seeds' = g.includersClosure seeds := by
  have hwell := hg.settled.1.toWellFormed
  refine ⟨?_, isClosure_includersClosure hwell hseeds,
    fun seeds' h => includersClosure_congr g hwell h⟩
  obtain ⟨n, hn, hturns⟩ := exists_turns g [] seeds
  exact ⟨n, Nat.le_trans hn (backlog_nil_le g seeds), _, hturns, rfl⟩

/-- Two files that include each other, one that includes both and itself, and one apart. -/
def knot : IncludeGraph :=
  let s : Storage := .memory
    { texts := ⟨[("a", "#include \"b\"\n"), ("b", "#include \"a\"\n"),
        ("c", "#include \"a\"\n#include \"b\"\n#include \"c\"\n"), ("d", "")]⟩ }
  let g := (({ defaultVersion := "450" } : IncludeGraph).intern s "c").value.2
  (g.intern s "d").value.2

theorem includersClosure_least_knot :
    Built "450" knot ∧ knot.includersClosure [⟨2⟩] = [⟨0⟩, ⟨1⟩, ⟨2⟩] ∧
      knot.IsClosure [⟨2⟩] [⟨0⟩, ⟨1⟩, ⟨2⟩] ∧
      knot.includersClosure [⟨2⟩, ⟨2⟩] = [⟨0⟩, ⟨1⟩, ⟨2⟩] := by
  have hbuilt : Built "450" knot := (Built.empty.load (.intern _ "c")).load (.intern _ "d")
  have hclosure : knot.includersClosure [⟨2⟩] = [⟨0⟩, ⟨1⟩, ⟨2⟩] := by decide +kernel
  have hseeds : ∀ b ∈ ([⟨2⟩] : List FileId), b.index < knot.size := by decide +kernel
  obtain ⟨-, hleast, hany⟩ := includersClosure_least hbuilt [⟨2⟩] hseeds
  rw [hclosure] at hleast
  refine ⟨hbuilt, hclosure, hleast, ?_⟩
  rw [hany [⟨2⟩, ⟨2⟩] (by simp), hclosure]

end ShaderDepot.IncludeGraph
