import ShaderDepot.Proofs.Storage.OsPath
import ShaderDepot.Proofs.Storage.Places
import ShaderDepot.Proofs.Text.Trim
import ShaderDepot.Storage

/-!
# Caches beside sources

A source lies where the normal form of its name leads from the folder of the sources.  Its cache lies
where the name itself leads from a folder inside that one, and the name is not normalized for it.  A
name that goes down has its cache inside, and meets only a source that is named into that folder.  A
name that goes up leaves the folder again, and its cache lies where a name that goes up once less has
its source.  A name that begins at the root is the location of its own cache (`Storage.Caching`).
-/

namespace ShaderDepot

namespace Path

variable {path : String} {s : List Char}

/-! ## Names and their normal forms -/

/-- A name that is read as it is spelled: without blank ends and without backslashes. -/
def Plain (path : String) : Prop := Trimmed path ∧ '\\' ∉ path.toList

instance (path : String) : Decidable (Plain path) := inferInstanceAs (Decidable (_ ∧ _))

theorem reduceSegments_of_plain (h : Plain path) :
    reduceSegments ((normalize path).toList.splitOn '/')
      = reduceSegments (path.toList.splitOn '/') := by
  have htrim : Text.trim path.toList = path.toList := h.1
  rw [toList_normalize, reduceSegments_normalizeChars, htrim, segments, unifySlashes_of_not_mem h.2]

theorem climbs_normalize_of_plain (h : Plain path) : climbs (normalize path) = climbs path := by
  rw [climbs, reduceSegments_of_plain h, climbs]

theorem names_normalize_of_plain (h : Plain path) : names (normalize path) = names path := by
  rw [names, reduceSegments_of_plain h, names]

/-- Dots at both ends keep blanks from being cut. -/
theorem reduceSegments_between_dots (h : '\\' ∉ s) :
    reduceSegments (segments (Text.trim (['.'] ++ '/' :: (s ++ '/' :: ['.'])))) =
      reduceSegments (s.splitOn '/') := by
  have htight : Text.Tight (['.'] ++ '/' :: (s ++ '/' :: ['.'])) := by
    constructor
    · rintro c ⟨⟩
      decide
    · have hends : ['.'] ++ '/' :: (s ++ '/' :: ['.']) = ['.', '/'] ++ s ++ ['/'] ++ ['.'] := by
        simp only [List.append_assoc, List.cons_append, List.nil_append]
      rw [hends, List.getLast?_concat]
      rintro c ⟨⟩
      decide
  have hdot (kept : List (List Char)) : keepSegment kept ['.'] = kept :=
    keepSegment_of_dropped (.inr rfl)
  have hpiece : ['.'].splitOn '/' = [['.']] := by decide
  rw [Text.trim_eq_self htight, segments, unifySlashes_of_not_mem (by simp [h]),
    Text.splitOn_append_cons, Text.splitOn_append_cons, hpiece, reduceSegments, List.foldl_append,
    List.foldl_append, List.foldl_cons, List.foldl_cons, List.foldl_nil,
    List.foldl_nil, hdot, hdot, reduceSegments]

/-- Every way up and down by clean names is that of some normal form. -/
theorem exists_normalize (n : Nat) {down : List (List Char)}
    (h : ∀ p ∈ down, IsName p ∧ '/' ∉ p ∧ '\\' ∉ p) :
    ∃ path, climbs (normalize path) = n ∧ names (normalize path) = down := by
  have hdown : ∀ p ∈ down, IsName p := fun p hp => (h p hp).1
  have hclean : ∀ p ∈ List.replicate n up ++ down, '/' ∉ p ∧ '\\' ∉ p := by
    intro p hp
    rcases List.mem_append.mp hp with hp | hp
    · rw [List.eq_of_mem_replicate hp]
      decide
    · exact (h p hp).2
  let joined := Text.joinWith '/' (List.replicate n up ++ down)
  have hback : '\\' ∉ joined := not_mem_joinWith (by decide) fun p hp => (hclean p hp).2
  have hpieces : reduceSegments (joined.splitOn '/') = List.replicate n up ++ down := by
    by_cases hne : List.replicate n up ++ down = []
    · simp only [joined, hne]
      rfl
    · rw [Text.splitOn_joinWith hne fun p hp => (hclean p hp).1,
        reduceSegments_replicate_append hdown]
  refine ⟨String.ofList (['.'] ++ '/' :: (joined ++ '/' :: ['.'])), ?_⟩
  rw [climbs, names, toList_normalize, String.toList_ofList, reduceSegments_normalizeChars,
    reduceSegments_between_dots hback, hpieces]
  exact ⟨count_up_replicate_append hdown n, filter_replicate_append hdown n⟩

end Path

namespace Location

open Disk

variable {place : Place} {n : Nat}

/-! ## Places above a place -/

theorem climb_concat_succ (place : Place) (name : List Char) (n : Nat) :
    climb (place ++ [name]) (n + 1) = climb place n := by
  rw [climb, climb, List.length_append, List.length_singleton, Nat.add_sub_add_right]
  exact List.take_append_of_le_length (Nat.sub_le ..)

theorem climb_append_drop (place : Place) (n : Nat) :
    climb place n ++ place.drop (place.length - n) = place := List.take_append_drop _ _

end Location

namespace Storage

open Disk Location ShaderDepot.Path

variable {s : Storage} {home : Place} {cache f g : String}

/-! ## The places of sources and caches -/

/-- The folder of the sources. -/
def base (s : Storage) (home : Place) : Place :=
  match s with
  | memory _ => home
  | folder _ root => placeFrom home root.text

/-- Where the source of a name lies. -/
def sourcePlace (s : Storage) (home : Place) (file : String) : Place :=
  placeFrom home (s.sourceLocation (normalize file))

/-- Where a name's cache of one kind lies. -/
def cachePlace (s : Storage) (home : Place) (cache file : String) : Place :=
  placeFrom home (s.cacheLocation cache file)

/-- A cache of one name lies where the source of another does. -/
def Meets (s : Storage) (home : Place) (cache f g : String) : Prop :=
  s.cachePlace home cache f = s.sourcePlace home g

instance : Decidable (s.Meets home cache f g) := inferInstanceAs (Decidable (_ = _))

/-- The name begins at the root of the disk that the storage is on. -/
def Rooted (s : Storage) (file : String) : Prop :=
  match s with
  | memory _ => False
  | folder .. => Absolute file

instance : ∀ (s : Storage) (file : String), Decidable (s.Rooted file)
  | memory _, _ => inferInstanceAs (Decidable False)
  | folder .., file => inferInstanceAs (Decidable (Absolute file))

/-- The name leads down into a cache folder. -/
def NamedInto (s : Storage) (home : Place) (cache g : String) : Prop :=
  ∃ rest, names (normalize g) =
    (s.base home).drop ((s.base home).length - climbs (normalize g)) ++ cache.toList :: rest

def IsCacheFolder (cache : String) : Prop := cache = resolvedFolder ∨ cache = compiledFolder

theorem sourceLocation_folder (disk : Disk) (root : OsPath) (file : String) :
    (folder disk root).sourceLocation file = join root.text file :=
  root.text_push file

theorem cacheLocation_folder (disk : Disk) (root : OsPath) (cache file : String) :
    (folder disk root).cacheLocation cache file = join (join root.text cache) file := by
  rw [cacheLocation, OsPath.text_push, OsPath.text_push]

theorem sourcePlace_eq (s : Storage) (home : Place) (g : String) :
    s.sourcePlace home g =
      climb (s.base home) (climbs (normalize g)) ++ names (normalize g) := by
  have hrelative := not_absolute_normalize g
  cases s with
  | memory _ => exact placeFrom_of_not_absolute hrelative
  | folder disk root =>
    rw [sourcePlace, sourceLocation_folder]
    exact placeFrom_join hrelative

theorem cacheLocation_of_rooted (h : s.Rooted f) : s.cacheLocation cache f = f := by
  cases s with
  | memory _ => exact h.elim
  | folder disk root =>
    rw [cacheLocation_folder]
    exact join_of_absolute h

theorem cachePlace_of_rooted (h : s.Rooted f) : s.cachePlace home cache f = names f := by
  rw [cachePlace, cacheLocation_of_rooted h]
  cases s with
  | memory _ => exact h.elim
  | folder _ root => exact placeFrom_of_absolute h

theorem cachePlace_eq (hc : IsCacheFolder cache) (h : ¬ s.Rooted f) :
    s.cachePlace home cache f =
      climb (s.base home ++ [cache.toList]) (climbs f) ++ names f := by
  have hrelative : ¬ Absolute cache := by rcases hc with rfl | rfl <;> decide
  have hclimbs : climbs cache = 0 := by rcases hc with rfl | rfl <;> decide
  have hnames : names cache = [cache.toList] := by rcases hc with rfl | rfl <;> decide
  cases s with
  | memory _ =>
    have htext : (s!"{cache}/{f}").toList = cache.toList ++ '/' :: f.toList := by
      change (cache ++ "/" ++ f).toList = _
      rw [String.toList_append, String.toList_append, List.append_assoc]
      rfl
    have hhead : (cache.toList ++ '/' :: f.toList).head? ≠ some '/' := by
      rcases hc with rfl | rfl <;> exact nofun
    rw [cachePlace, cacheLocation, placeFrom_eq_walkFrom, htext, walkFrom, if_neg hhead,
      Text.splitOn_append_cons, walk_append, walk_eq, walk_eq, hclimbs, hnames, climb_zero]
    rfl
  | folder _ root =>
    rw [cachePlace, cacheLocation_folder, placeFrom_join h, placeFrom_join hrelative, hclimbs, hnames,
      climb_zero]
    rfl

theorem meets_iff_of_climbs_eq_zero (hc : IsCacheFolder cache) (hr : ¬ s.Rooted f)
    (hf : climbs f = 0) :
    s.Meets home cache f g ↔ names (normalize g) =
      (s.base home).drop ((s.base home).length - climbs (normalize g)) ++
        cache.toList :: names f := by
  -- The way down from where the source's name turns is what both have to agree on.
  have hdown := climb_append_drop (s.base home) (climbs (normalize g))
  have hcache : s.base home ++ [cache.toList] ++ names f =
      climb (s.base home) (climbs (normalize g)) ++
        ((s.base home).drop ((s.base home).length - climbs (normalize g)) ++
          cache.toList :: names f) := by
    rw [← List.append_assoc, hdown, List.append_assoc, List.singleton_append]
  rw [Meets, cachePlace_eq hc hr, hf, climb_zero, sourcePlace_eq, hcache, List.append_cancel_left_eq,
    eq_comm]

/-- The cache of a name that goes down is beside the sources, but for those in its folder. -/
theorem not_meets (hc : IsCacheFolder cache) (hr : ¬ s.Rooted f) (hf : climbs f = 0)
    (hg : ¬ s.NamedInto home cache g) : ¬ s.Meets home cache f g := fun h =>
  hg ⟨names f, (meets_iff_of_climbs_eq_zero hc hr hf).mp h⟩

theorem meets_iff_of_climbs_eq_succ (hc : IsCacheFolder cache) (hr : ¬ s.Rooted f) {n : Nat}
    (hf : climbs f = n + 1) :
    s.Meets home cache f g ↔ climb (s.base home) n ++ names f =
      climb (s.base home) (climbs (normalize g)) ++ names (normalize g) := by
  rw [Meets, cachePlace_eq hc hr, hf, climb_concat_succ, sourcePlace_eq]

theorem meets_iff_of_rooted (hr : s.Rooted f) :
    s.Meets home cache f g ↔
      names f = climb (s.base home) (climbs (normalize g)) ++ names (normalize g) := by
  rw [Meets, cachePlace_of_rooted hr, sourcePlace_eq]

theorem exists_meets (hc : IsCacheFolder cache) (hr : ¬ s.Rooted f)
    (hf : ∀ p ∈ names f, '\\' ∉ p) : ∃ g, s.Meets home cache f g := by
  have hnames : ∀ p ∈ names f, IsName p ∧ '/' ∉ p ∧ '\\' ∉ p := fun p hp =>
    ⟨isName_of_mem_names hp, slash_not_mem_of_mem_names hp, hf p hp⟩
  cases hclimbs : climbs f with
  | zero =>
    have hcache : IsName cache.toList ∧ '/' ∉ cache.toList ∧ '\\' ∉ cache.toList := by
      rcases hc with rfl | rfl <;> simp only [IsName] <;> decide
    obtain ⟨g, hup, hdown⟩ := exists_normalize 0 (List.forall_mem_cons.mpr ⟨hcache, hnames⟩)
    refine ⟨g, (meets_iff_of_climbs_eq_zero hc hr hclimbs).mpr ?_⟩
    rw [hup, hdown, Nat.sub_zero, List.drop_length, List.nil_append]
  | succ n =>
    obtain ⟨g, hup, hdown⟩ := exists_normalize n hnames
    refine ⟨g, (meets_iff_of_climbs_eq_succ hc hr hclimbs).mpr ?_⟩
    rw [hup, hdown]

theorem meets_self_iff (hc : IsCacheFolder cache) (hr : ¬ s.Rooted f) (hf : Plain f) :
    s.Meets home cache f f ↔ (s.base home).length < climbs f := by
  rw [Meets, cachePlace_eq hc hr, sourcePlace_eq, climbs_normalize_of_plain hf,
    names_normalize_of_plain hf, List.append_cancel_right_eq]
  constructor
  · intro h
    have hlength := congrArg List.length h
    rw [length_climb, length_climb, List.length_append, List.length_singleton] at hlength
    omega
  · intro h
    obtain ⟨n, hn⟩ : ∃ n, climbs f = n + 1 := ⟨climbs f - 1, by omega⟩
    rw [hn, climb_concat_succ, climb, climb]
    congr 1
    omega

/-- Where a name's cache of one kind lies, next to the sources and to the name's own location. -/
structure Caching (s : Storage) (home : Place) (cache f : String) : Prop where
  /-- The cache of a name that goes down meets no source but one that is named into its folder. -/
  below : ¬ s.Rooted f → climbs f = 0 → ∀ g, s.Meets home cache f g ↔ names (normalize g) =
    (s.base home).drop ((s.base home).length - climbs (normalize g)) ++ cache.toList :: names f
  /-- The cache of a name that goes up is where a name that goes up once less has its source. -/
  above : ¬ s.Rooted f → ∀ n, climbs f = n + 1 → ∀ g, s.Meets home cache f g ↔
    climb (s.base home) n ++ names f =
      climb (s.base home) (climbs (normalize g)) ++ names (normalize g)
  /-- A name from the root is the location of its cache. -/
  rooted : s.Rooted f → s.cacheLocation cache f = f ∧ ∀ g, s.Meets home cache f g ↔
    names f = climb (s.base home) (climbs (normalize g)) ++ names (normalize g)
  /-- There is such a source for every name in which backslashes are not taken for slashes. -/
  met : ¬ s.Rooted f → (∀ p ∈ names f, '\\' ∉ p) → ∃ g, s.Meets home cache f g
  /-- A name that is read as it is spelled meets its own source only from above the root. -/
  own : ¬ s.Rooted f → Plain f → (s.Meets home cache f f ↔ (s.base home).length < climbs f)
  /-- The name as a location is met only if both ways up end in one folder. -/
  itself : ¬ Absolute f → (s.cachePlace home cache f = placeFrom home f ↔
    climb (s.base home ++ [cache.toList]) (climbs f) = climb home (climbs f))
  /-- A memory takes a name from the root for one that goes down, and the location of the name is met only
  from above the root. -/
  itselfFromRoot : ¬ s.Rooted f → Absolute f →
    (s.cachePlace home cache f = placeFrom home f ↔ (s.base home).length < climbs f)

theorem caching (s : Storage) (home : Place) (f : String) (hc : IsCacheFolder cache) :
    s.Caching home cache f where
  below hr hf _ := meets_iff_of_climbs_eq_zero hc hr hf
  above hr _ hf _ := meets_iff_of_climbs_eq_succ hc hr hf
  rooted hr := ⟨cacheLocation_of_rooted hr, fun _ => meets_iff_of_rooted hr⟩
  met hr hf := exists_meets hc hr hf
  own hr hf := meets_self_iff hc hr hf
  itself ha := by
    have hr : ¬ s.Rooted f := by
      cases s with
      | memory _ => exact not_false
      | folder _ _ => exact ha
    rw [cachePlace_eq hc hr, placeFrom_of_not_absolute ha, List.append_cancel_right_eq]
  itselfFromRoot hr ha := by
    rw [cachePlace_eq hc hr, placeFrom_of_absolute ha, List.append_left_eq_self, ← List.length_eq_zero_iff,
      length_climb, List.length_append, List.length_singleton]
    omega

end Storage

end ShaderDepot
