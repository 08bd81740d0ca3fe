import Mathlib.Data.List.Nodup
import Mathlib.Logic.Relation
import ShaderDepot.Proofs.IncludeGraph.Settled

/-!
# What is discovered from a key

Going down from a file through the includes that a storage gives, each file below is come to before the
next include of the same file, and no file is gone through twice, or gone through when it was known
before.  The keys that are met so (`Discovers`) are determined, each is met once, and they are those to
which a path of includes leads through keys that were not known (`Discovers.mem_iff`).
-/

namespace ShaderDepot

namespace Storage

/-- The keys that a file includes, in the order of its include lines; none, if it cannot be read. -/
def keysOf (s : Storage) (key : String) : List String := SourceFile.keysOfRead (s.read key)

/-- Includes lead from one key to another, each to a key that is not among the known ones. -/
def LeadsTo (s : Storage) (known : List String) (a b : String) : Prop :=
  a ∉ known ∧ Relation.ReflTransGen (fun a b => b ∈ s.keysOf a ∧ b ∉ known) a b

/-- Going through some keys in turn, where some are known, meets the keys `found`: a key that is new is
met, then what its includes lead to, and then what the next key leads to. -/
inductive Discovers (s : Storage) : List String → List String → List String → Prop
  | done {known : List String} : Discovers s known [] []
  | known {known found rest : List String} {key : String} (h : key ∈ known)
      (hrest : Discovers s known rest found) : Discovers s known (key :: rest) found
  | new {known below found rest : List String} {key : String} (h : key ∉ known)
      (hbelow : Discovers s (known ++ [key]) (s.keysOf key) below)
      (hrest : Discovers s (known ++ key :: below) rest found) :
      Discovers s known (key :: rest) (key :: below ++ found)

namespace Discovers

variable {s : Storage} {known keys rest found found' : List String}

/-- What is met is determined by the keys and by what is known. -/
theorem unique (h : Discovers s known keys found) (h' : Discovers s known keys found') :
    found = found' := by
  induction h generalizing found' with
  | done =>
    cases h'
    rfl
  | known hk _ ih =>
    cases h' with
    | known _ hrest => exact ih hrest
    | new hn => exact absurd hk hn
  | new hn _ _ ihbelow ihrest =>
    cases h' with
    | known hk => exact absurd hk hn
    | new _ hbelow hrest =>
      obtain rfl := ihbelow hbelow
      rw [ihrest hrest]

/-- Going through some keys and then through others. -/
theorem split (h : Discovers s known (keys ++ rest) found) :
    ∃ first second, found = first ++ second ∧ Discovers s known keys first ∧
      Discovers s (known ++ first) rest second := by
  induction keys generalizing known found with
  | nil => exact ⟨[], found, rfl, .done, by rwa [List.append_nil]⟩
  | cons key keys ih =>
    cases h with
    | known hk hrest =>
      obtain ⟨first, second, rfl, hfirst, hsecond⟩ := ih hrest
      exact ⟨first, second, rfl, .known hk hfirst, hsecond⟩
    | @new _ below _ _ _ hn hbelow hrest =>
      obtain ⟨first, second, rfl, hfirst, hsecond⟩ := ih hrest
      refine ⟨key :: below ++ first, second, (List.append_assoc ..).symm, .new hn hbelow hfirst, ?_⟩
      rwa [← List.append_assoc]

/-- The keys that a new key includes may stand in front of the other keys. -/
theorem visit {key : String} (hn : key ∉ known)
    (h : Discovers s (known ++ [key]) (s.keysOf key ++ rest) found) :
    Discovers s known (key :: rest) (key :: found) := by
  obtain ⟨below, second, rfl, hbelow, hsecond⟩ := h.split
  rw [List.append_assoc] at hsecond
  exact .new hn hbelow hsecond

theorem disjoint (h : Discovers s known keys found) : ∀ k ∈ found, k ∉ known := by
  induction h with
  | done => exact fun k hk => nomatch hk
  | known _ _ ih => exact ih
  | new hn _ _ ihbelow ihrest =>
    intro k hk hknown
    rcases List.mem_append.mp hk with hk | hk
    · rcases List.mem_cons.mp hk with rfl | hk
      · exact hn hknown
      · exact ihbelow k hk (List.mem_append_left _ hknown)
    · exact ihrest k hk (List.mem_append_left _ hknown)

theorem nodup (h : Discovers s known keys found) : found.Nodup := by
  induction h with
  | done => exact List.nodup_nil
  | known _ _ ih => exact ih
  | new hn hbelow hrest ihbelow ihrest =>
    refine List.nodup_append.mpr ⟨List.nodup_cons.mpr ⟨fun hk => ?_, ihbelow⟩, ihrest, ?_⟩
    · exact hbelow.disjoint _ hk (List.mem_append_right _ (List.mem_cons_self ..))
    · rintro k hk _ hk' rfl
      exact hrest.disjoint k hk' (List.mem_append_right _ hk)

/-- All keys that are gone through are known in the end, and so are those that new keys include. -/
theorem closed (h : Discovers s known keys found) :
    (∀ k ∈ keys, k ∈ known ++ found) ∧ ∀ a ∈ found, ∀ k ∈ s.keysOf a, k ∈ known ++ found := by
  induction h with
  | done => exact ⟨fun _ h => (List.not_mem_nil h).elim, fun _ h => (List.not_mem_nil h).elim⟩
  | known hk _ ih =>
    refine ⟨fun k hk' => ?_, ih.2⟩
    rcases List.mem_cons.mp hk' with rfl | hk'
    · exact List.mem_append_left _ hk
    · exact ih.1 k hk'
  | @new known below found rest key _ _ _ ihbelow ihrest =>
    -- What is known after the keys below is known in the end.
    have hmono : ∀ k, k ∈ known ++ [key] ++ below → k ∈ known ++ (key :: below ++ found) := by
      intro k hk
      simp only [List.mem_append, List.mem_cons, List.not_mem_nil, or_false] at hk ⊢
      tauto
    have hassoc : known ++ key :: below ++ found = known ++ (key :: below ++ found) :=
      List.append_assoc ..
    rw [hassoc] at ihrest
    refine ⟨fun k hk => ?_, fun a ha k hk => ?_⟩
    · rcases List.mem_cons.mp hk with rfl | hk
      · exact List.mem_append_right _ (List.mem_cons_self ..)
      · exact ihrest.1 k hk
    · rcases List.mem_append.mp ha with ha | ha
      · rcases List.mem_cons.mp ha with rfl | ha
        · exact hmono k (ihbelow.1 k hk)
        · exact hmono k (ihbelow.2 a ha k hk)
      · exact ihrest.2 a ha k hk

end Discovers

theorem LeadsTo.mono {s : Storage} {known known' : List String} {a b : String}
    (h : s.LeadsTo known' a b) (hsub : ∀ k ∈ known, k ∈ known') : s.LeadsTo known a b :=
  ⟨fun ha => h.1 (hsub a ha),
    Relation.ReflTransGen.mono (fun _ _ hab => ⟨hab.1, fun hb => hab.2 (hsub _ hb)⟩) _ _ h.2⟩

theorem LeadsTo.head {s : Storage} {known : List String} {a b c : String} (ha : a ∉ known)
    (hab : b ∈ s.keysOf a) (h : s.LeadsTo known b c) : s.LeadsTo known a c :=
  ⟨ha, .head ⟨hab, h.1⟩ h.2⟩

namespace Discovers

variable {s : Storage} {known keys found : List String}

/-- Some key leads to each key that is met. -/
theorem leadsTo (h : Discovers s known keys found) :
    ∀ k ∈ found, ∃ a ∈ keys, s.LeadsTo known a k := by
  induction h with
  | done => exact fun k hk => nomatch hk
  | known _ _ ih =>
    intro k hk
    obtain ⟨a, ha, hlead⟩ := ih k hk
    exact ⟨a, List.mem_cons_of_mem _ ha, hlead⟩
  | @new known below found rest key hn _ _ ihbelow ihrest =>
    intro k hk
    rcases List.mem_append.mp hk with hk | hk
    · refine ⟨key, List.mem_cons_self .., ?_⟩
      rcases List.mem_cons.mp hk with rfl | hk
      · exact ⟨hn, .refl⟩
      · obtain ⟨a, ha, hlead⟩ := ihbelow k hk
        exact (hlead.mono fun _ => List.mem_append_left _).head hn ha
    · obtain ⟨a, ha, hlead⟩ := ihrest k hk
      exact ⟨a, List.mem_cons_of_mem _ ha, hlead.mono fun _ => List.mem_append_left _⟩

/-- The keys that are met are those to which some key leads. -/
theorem mem_iff (h : Discovers s known keys found) {k : String} :
    k ∈ found ↔ ∃ a ∈ keys, s.LeadsTo known a k := by
  constructor
  · exact h.leadsTo k
  · rintro ⟨a, ha, hn, hpath⟩
    -- What is met is closed under including what was not known.
    obtain ⟨hkeys, hclosed⟩ := h.closed
    induction hpath with
    | refl => exact (List.mem_append.mp (hkeys a ha)).resolve_left hn
    | tail _ hstep ih => exact (List.mem_append.mp (hclosed _ ih _ hstep.1)).resolve_left hstep.2

end Discovers

end Storage

end ShaderDepot
