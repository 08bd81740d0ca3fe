import Mathlib.Logic.Relation
import ShaderDepot.Proofs.Path

/-!
# Spellings of one path

By three laws segments are left out of a path or written into it: an empty segment means nothing, a `.`
means nothing, and a `..` takes back the name before it (`Shortens`).  Paths that these laws turn into each
other are spellings of one path.  The normal form is one of the spellings (`respells_reduceSegments`), and
no law changes it, so that paths without blanks are spellings of one path exactly when they have one normal
form (`normalize_complete`).
-/

namespace ShaderDepot.Path

open Text

variable {kept a b : List (List Char)} {segment : List Char} {s t : List Char} {path : String}

/-! ## The laws of paths -/

/-- A name that can stand between slashes. -/
def Ordinary (segment : List Char) : Prop := IsName segment ∧ '/' ∉ segment ∧ '\\' ∉ segment

/-- Segments are left out by one of the laws of paths. -/
inductive Shortens : List (List Char) → List (List Char) → Prop
  | empty (front back : List (List Char)) : Shortens (front ++ [] :: back) (front ++ back)
  | here (front back : List (List Char)) : Shortens (front ++ ['.'] :: back) (front ++ back)
  | takenBack {name : List Char} (front back : List (List Char)) (h : Ordinary name) :
      Shortens (front ++ name :: up :: back) (front ++ back)

/-- The laws of paths, read in both directions, turn the one list of segments into the other. -/
def Respells : List (List Char) → List (List Char) → Prop := Relation.EqvGen Shortens

theorem Shortens.append (h : Shortens a b) (front back : List (List Char)) :
    Shortens (front ++ a ++ back) (front ++ b ++ back) := by
  cases h with
  | empty f r =>
    simpa only [List.append_assoc, List.cons_append] using Shortens.empty (front ++ f) (r ++ back)
  | here f r =>
    simpa only [List.append_assoc, List.cons_append] using Shortens.here (front ++ f) (r ++ back)
  | takenBack f r h =>
    simpa only [List.append_assoc, List.cons_append] using Shortens.takenBack (front ++ f) (r ++ back) h

theorem Respells.append (h : Respells a b) (front back : List (List Char)) :
    Respells (front ++ a ++ back) (front ++ b ++ back) := by
  induction h with
  | rel a b h => exact .rel _ _ (h.append front back)
  | refl a => exact .refl _
  | symm a b _ ih => exact .symm _ _ ih
  | trans a b c _ _ ih ih' => exact .trans _ _ _ ih ih'

theorem Respells.append_append {a' b' : List (List Char)} (h : Respells a b) (h' : Respells a' b') :
    Respells (a ++ a') (b ++ b') := by
  have hfirst := h.append [] a'
  have hsecond := h'.append b []
  simp only [List.nil_append, List.append_nil] at hfirst hsecond
  exact .trans _ _ _ hfirst hsecond

/-! ## No law changes the normal form -/

theorem foldl_keepSegment_eq_of_shortens (h : Shortens a b) (kept : List (List Char)) :
    a.foldl keepSegment kept = b.foldl keepSegment kept := by
  cases h with
  | empty front back =>
    rw [List.foldl_append, List.foldl_cons, keepSegment_of_dropped (.inl rfl), List.foldl_append]
  | here front back =>
    rw [List.foldl_append, List.foldl_cons, keepSegment_of_dropped (.inr rfl), List.foldl_append]
  | takenBack front back h =>
    rw [List.foldl_append, List.foldl_cons, List.foldl_cons, keepSegment_of_isName h.1,
      keepSegment_up_cons h.1.2.2, List.foldl_append]

theorem reduceSegments_eq_of_respells (h : Respells a b) : reduceSegments a = reduceSegments b := by
  induction h with
  | rel a b h => exact congrArg List.reverse (foldl_keepSegment_eq_of_shortens h [])
  | refl a => rfl
  | symm a b _ ih => exact ih.symm
  | trans a b c _ _ ih ih' => exact ih.trans ih'

/-! ## The normal form is a spelling -/

/-- To keep a segment is to write it behind the kept ones and to use a law at the most. -/
theorem respells_keepSegment (hkept : Kept kept) (hclean : ∀ p ∈ kept, '/' ∉ p ∧ '\\' ∉ p)
    (segment : List Char) : Respells (kept.reverse ++ [segment]) (keepSegment kept segment).reverse := by
  by_cases hdropped : segment = [] ∨ segment = ['.']
  · rw [keepSegment_of_dropped hdropped]
    apply Relation.EqvGen.rel
    rcases hdropped with rfl | rfl
    · simpa only [List.append_nil] using Shortens.empty kept.reverse []
    · simpa only [List.append_nil] using Shortens.here kept.reverse []
  · by_cases hup : segment = up
    · subst hup
      obtain ⟨names, climbs, rfl, hnames⟩ := hkept
      cases names with
      | nil =>
        -- There is no name to take back.
        rw [List.nil_append, keepSegment_up_replicate, List.reverse_replicate, List.reverse_replicate,
          ← List.replicate_succ']
        exact .refl _
      | cons last names =>
        have hlast : Ordinary last :=
          ⟨hnames last (List.mem_cons_self ..), hclean last (List.mem_cons_self ..)⟩
        rw [List.cons_append, keepSegment_up_cons hlast.1.2.2, List.reverse_cons, List.append_assoc,
          List.singleton_append]
        apply Relation.EqvGen.rel
        simpa only [List.append_nil] using
          Shortens.takenBack (names ++ List.replicate climbs up).reverse [] hlast
    · obtain ⟨hne, hdot⟩ := not_or.mp hdropped
      rw [keepSegment_of_isName ⟨hne, hdot, hup⟩, List.reverse_cons]
      exact .refl _

theorem respells_foldl (segments : List (List Char)) (hkept : Kept kept)
    (hclean : ∀ p ∈ kept, '/' ∉ p ∧ '\\' ∉ p) (hsegments : ∀ p ∈ segments, '/' ∉ p ∧ '\\' ∉ p) :
    Respells (kept.reverse ++ segments) (segments.foldl keepSegment kept).reverse := by
  induction segments generalizing kept with
  | nil =>
    rw [List.append_nil]
    exact .refl _
  | cons segment segments ih =>
    obtain ⟨hsegment, hmore⟩ := List.forall_mem_cons.mp hsegments
    have hclean' : ∀ p ∈ keepSegment kept segment, '/' ∉ p ∧ '\\' ∉ p := by
      intro p hp
      rcases mem_keepSegment hp with hp | rfl
      · exact hclean p hp
      · exact hsegment
    have hfirst : Respells (kept.reverse ++ segment :: segments)
        ((keepSegment kept segment).reverse ++ segments) := by
      simpa only [List.append_assoc, List.singleton_append] using
        (respells_keepSegment hkept hclean segment).append_append (.refl segments)
    exact .trans _ _ _ hfirst (ih (kept_keepSegment hkept segment) hclean' hmore)

theorem respells_reduceSegments (s : List Char) : Respells (segments s) (reduceSegments (segments s)) :=
  respells_foldl (segments s) kept_nil (List.forall_mem_nil _) fun _ hp => clean_of_mem_segments hp

theorem reduceSegments_eq_iff :
    reduceSegments (segments s) = reduceSegments (segments t) ↔ Respells (segments s) (segments t) := by
  constructor
  · intro h
    have ht : Respells (reduceSegments (segments s)) (segments t) := by
      rw [h]
      exact .symm _ _ (respells_reduceSegments t)
    exact .trans _ _ _ (respells_reduceSegments s) ht
  · exact reduceSegments_eq_of_respells

/-! ## The shape of normal forms -/

/-- What stands between the slashes of a path; in the empty path there is nothing. -/
def pieces (path : String) : List (List Char) := if path = "" then [] else path.toList.splitOn '/'

/-- Some `..` and then names, with slashes between them. -/
structure IsNormal (path : String) : Prop where
  unified : '\\' ∉ path.toList
  reduced : ∃ climbs names, pieces path = List.replicate climbs up ++ names ∧ ∀ p ∈ names, IsName p

theorem pieces_of_ne (h : path ≠ "") : pieces path = path.toList.splitOn '/' := if_neg h

theorem pieces_normalize (path : String) :
    pieces (normalize path) = reduceSegments (segments (trim path.toList)) := by
  by_cases hne : reduceSegments (segments (trim path.toList)) = []
  · rw [hne]
    exact if_pos (by rw [normalize, normalizeChars_eq_nil hne])
  · have hnormal : normalizeChars path.toList ≠ [] := by
      intro h
      have hlength := length_joinWith '/' hne
      obtain ⟨p, rest, hp⟩ := List.exists_cons_of_ne_nil hne
      have hfirst := List.length_pos_iff.mpr (ne_nil_of_mem_reduceSegments (hp ▸ List.mem_cons_self ..))
      rw [normalizeChars] at h
      rw [h, hp, weight_cons, List.length_nil] at hlength
      omega
    rw [pieces_of_ne, toList_normalize, normalizeChars,
      splitOn_joinWith hne fun _ hp => (clean_of_mem_reduceSegments hp).1]
    rwa [Ne, ← String.toList_inj, toList_normalize]

theorem isNormal_normalize (path : String) : IsNormal (normalize path) where
  unified := by
    rw [toList_normalize]
    exact backslash_not_mem_normalizeChars _
  reduced := by
    rw [pieces_normalize]
    exact exists_reduceSegments_eq _

/-- What normalizing does not change are the normal forms without blank ends. -/
theorem normalize_eq_self_iff : normalize path = path ↔ IsNormal path ∧ Trimmed path := by
  constructor
  · intro h
    have hnormal := isNormal_normalize path
    rw [h] at hnormal
    exact ⟨hnormal, trimmed_of_normalize_normalize (by rw [h, h])⟩
  · rintro ⟨hnormal, htrim⟩
    by_cases hempty : path = ""
    · rw [hempty]
      rfl
    · obtain ⟨climbs, names, hpieces, hnames⟩ := hnormal.reduced
      rw [pieces_of_ne hempty] at hpieces
      have hsame : normalizeChars path.toList = path.toList := by
        rw [normalizeChars, htrim, segments, unifySlashes_of_not_mem hnormal.unified, hpieces,
          reduceSegments_replicate_append hnames, ← hpieces, joinWith, List.intercalate_splitOn]
      rw [normalize, hsame, String.ofList_toList]

/-! ## Equal normal forms -/

theorem normalizeChars_eq_iff : normalizeChars s = normalizeChars t ↔
    reduceSegments (segments (trim s)) = reduceSegments (segments (trim t)) := by
  constructor
  · intro h
    rw [← reduceSegments_normalizeChars, h, reduceSegments_normalizeChars]
  · intro h
    rw [normalizeChars, h, normalizeChars]

theorem mem_normalizeChars {c : Char} (h : c ∈ normalizeChars s) : c = '/' ∨ c ∈ s := by
  by_contra hne
  obtain ⟨hslash, hc⟩ := not_or.mp hne
  refine not_mem_joinWith hslash (fun p hp hcp => ?_) h
  have hunified := (mem_of_mem_splitOn (mem_reduceSegments hp) hcp).1
  obtain ⟨d, hd, hdc⟩ := List.mem_map.mp hunified
  split at hdc
  · exact hslash hdc.symm
  · exact hc (hdc ▸ (trim_sublist s).subset hd)

/-- There is no blank in the path. -/
def Unspaced (path : String) : Prop := ∀ c ∈ path.toList, isBlank c = false

instance (path : String) : Decidable (Unspaced path) :=
  decidable_of_iff (path.toList.all (!isBlank ·) = true)
    (List.all_eq_true.trans (forall₂_congr fun _ _ => Iff.of_eq (Bool.not_eq_true' _)))

theorem Unspaced.trim (h : Unspaced path) : trim path.toList = path.toList :=
  trim_eq_self (tight_of_forall h)

theorem Unspaced.normalize (h : Unspaced path) : Unspaced (normalize path) := by
  intro c hc
  rw [toList_normalize] at hc
  rcases mem_normalizeChars hc with rfl | hc
  · decide
  · exact h c hc

theorem Unspaced.join {p q : String} (hp : Unspaced p) (hq : Unspaced q) : Unspaced (p ++ "/" ++ q) := by
  intro c hc
  simp only [String.toList_append, List.mem_append] at hc
  rcases hc with (hc | hc) | hc
  · exact hp c hc
  · obtain rfl : c = '/' := List.mem_singleton.mp hc
    decide
  · exact hq c hc

theorem normalize_eq_iff_respells {p q : String} (hp : Unspaced p) (hq : Unspaced q) :
    normalize p = normalize q ↔ Respells (segments p.toList) (segments q.toList) := by
  rw [← String.toList_inj, toList_normalize, toList_normalize, normalizeChars_eq_iff, hp.trim, hq.trim,
    reduceSegments_eq_iff]

theorem segments_join (p q : String) :
    segments (p ++ "/" ++ q).toList = segments p.toList ++ segments q.toList := by
  have hunified : unifySlashes (p ++ "/" ++ q).toList =
      unifySlashes p.toList ++ '/' :: unifySlashes q.toList := by
    rw [String.toList_append, String.toList_append, unifySlashes, List.map_append, List.map_append,
      List.append_assoc]
    rfl
  rw [segments, hunified, splitOn_append_cons, segments, segments]

theorem respells_normalize (h : Unspaced path) :
    Respells (segments path.toList) (segments (normalize path).toList) := by
  have hsegments : segments (normalizeChars path.toList) = (normalizeChars path.toList).splitOn '/' := by
    rw [segments, unifySlashes_of_not_mem (backslash_not_mem_normalizeChars _)]
  rw [← reduceSegments_eq_iff, toList_normalize, hsegments, reduceSegments_normalizeChars, h.trim]

/-- Normal forms have the shape of a normal form, and paths without blanks have one normal form exactly
when the laws of paths turn them into each other.  So it makes no difference to the normal form of a joined
path whether its parts were normalized before. -/
theorem normalize_complete :
    (∀ path, IsNormal (normalize path)) ∧
      ∀ p q, Unspaced p → Unspaced q →
        (normalize p = normalize q ↔ Respells (segments p.toList) (segments q.toList)) ∧
          normalize (p ++ "/" ++ q) = normalize (normalize p ++ "/" ++ normalize q) := by
  refine ⟨isNormal_normalize, fun p q hp hq => ⟨normalize_eq_iff_respells hp hq, ?_⟩⟩
  rw [normalize_eq_iff_respells (hp.join hq) (hp.normalize.join hq.normalize), segments_join, segments_join]
  exact (respells_normalize hp).append_append (respells_normalize hq)

/-- Two ways that climb above the root before they go down are spellings of one path; a way that goes
down first is no spelling of it. -/
theorem normalize_complete_climbing :
    (Unspaced "a\\..\\..//lib/x/.." ∧ Unspaced "./../b/../lib" ∧ Unspaced "lib/..") ∧
      Respells (segments "a\\..\\..//lib/x/..".toList) (segments "./../b/../lib".toList) ∧
      ¬ Respells (segments "lib/..".toList) (segments "./../b/../lib".toList) ∧
      normalize ("lib/.." ++ "/" ++ "./../b/../lib") =
        normalize (normalize "lib/.." ++ "/" ++ normalize "./../b/../lib") := by
  have hfirst : Unspaced "a\\..\\..//lib/x/.." := by decide
  have hsecond : Unspaced "./../b/../lib" := by decide
  have hthird : Unspaced "lib/.." := by decide
  refine ⟨⟨hfirst, hsecond, hthird⟩, ?_, fun h => ?_, (normalize_complete.2 _ _ hthird hsecond).2⟩
  · exact (normalize_complete.2 _ _ hfirst hsecond).1.mp (by decide)
  · have hsame := (normalize_complete.2 _ _ hthird hsecond).1.mpr h
    exact absurd hsame (by decide)

end ShaderDepot.Path
