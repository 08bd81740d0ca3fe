import ShaderDepot.Path
import ShaderDepot.Proofs.Text.Pieces
import ShaderDepot.Proofs.Text.Trim

/-!
# Normal forms of paths

The segments of a normal form are some `..` and then names, so that reducing them again changes nothing.
Blank ends are another matter: they are cut before the segments are reduced, and dropping a segment may
leave a blank at an end.  A normal form that has blank ends gets shorter when it is normalized again, and
no other normal form changes (`normalizeChars_normalizeChars_iff`).
-/

namespace ShaderDepot

namespace Path

variable {kept : List (List Char)} {segment p : List Char} {s : List Char}

/-- Neither end of the path is blank. -/
def Trimmed (path : String) : Prop := Text.trim path.toList = path.toList

instance (path : String) : Decidable (Trimmed path) := inferInstanceAs (Decidable (_ = _))

def up : List Char := ['.', '.']

def IsName (segment : List Char) : Prop := segment ≠ [] ∧ segment ≠ ['.'] ∧ segment ≠ up

/-- Names, the latest first, on top of some `..`. -/
def Kept (kept : List (List Char)) : Prop :=
  ∃ names climbs, kept = names ++ List.replicate climbs up ∧ ∀ p ∈ names, IsName p

/-! ## Keeping segments -/

theorem keepSegment_of_isName (h : IsName segment) : keepSegment kept segment = segment :: kept := by
  unfold keepSegment
  rw [if_neg (not_or.mpr ⟨h.1, h.2.1⟩)]
  exact if_neg h.2.2

theorem keepSegment_of_dropped (h : segment = [] ∨ segment = ['.']) : keepSegment kept segment = kept := by
  unfold keepSegment
  exact if_pos h

/-- A name is taken back. -/
theorem keepSegment_up_cons {last : List Char} (h : last ≠ up) : keepSegment (last :: kept) up = kept := by
  unfold keepSegment
  rw [if_neg (by decide)]
  exact if_neg h

theorem keepSegment_up_replicate (climbs : Nat) :
    keepSegment (List.replicate climbs up) up = List.replicate (climbs + 1) up := by
  cases climbs with
  | zero => rfl
  | succ n => rfl

theorem kept_keepSegment (h : Kept kept) (segment : List Char) : Kept (keepSegment kept segment) := by
  obtain ⟨names, climbs, rfl, hnames⟩ := h
  by_cases hdropped : segment = [] ∨ segment = ['.']
  · rw [keepSegment_of_dropped hdropped]
    exact ⟨names, climbs, rfl, hnames⟩
  · by_cases hup : segment = up
    · subst hup
      cases names with
      | nil =>
        rw [List.nil_append, keepSegment_up_replicate]
        exact ⟨[], climbs + 1, rfl, nofun⟩
      | cons last names =>
        have hlast := (hnames last (List.mem_cons_self ..)).2.2
        exact ⟨names, climbs, keepSegment_up_cons hlast,
          fun p hp => hnames p (List.mem_cons_of_mem _ hp)⟩
    · obtain ⟨hne, hdot⟩ := not_or.mp hdropped
      rw [keepSegment_of_isName ⟨hne, hdot, hup⟩]
      refine ⟨segment :: names, climbs, rfl, fun p hp => ?_⟩
      rcases List.mem_cons.mp hp with rfl | hp
      · exact ⟨hne, hdot, hup⟩
      · exact hnames p hp

theorem mem_keepSegment (h : p ∈ keepSegment kept segment) : p ∈ kept ∨ p = segment := by
  unfold keepSegment at h
  split at h
  · exact .inl h
  · split at h
    · split at h
      · split at h
        · exact (List.mem_cons.mp h).symm
        · exact .inl (List.mem_cons_of_mem _ h)
      · exact .inr (List.mem_singleton.mp h)
    · exact (List.mem_cons.mp h).symm

theorem weight_keepSegment_le (kept : List (List Char)) (segment : List Char) :
    Text.weight (keepSegment kept segment) ≤ Text.weight kept + (segment.length + 1) := by
  unfold keepSegment
  split
  · omega
  · split
    · split
      · split <;> simp only [Text.weight_cons] <;> omega
      · simp only [Text.weight_cons, Text.weight_nil]
        omega
    · simp only [Text.weight_cons]
      omega

/-! ## Reducing segments -/

theorem kept_foldl (segments : List (List Char)) (h : Kept kept) :
    Kept (segments.foldl keepSegment kept) := by
  induction segments generalizing kept with
  | nil => exact h
  | cons segment segments ih => exact ih (kept_keepSegment h segment)

theorem mem_foldl_keepSegment (segments : List (List Char))
    (h : p ∈ segments.foldl keepSegment kept) : p ∈ kept ∨ p ∈ segments := by
  induction segments generalizing kept with
  | nil => exact .inl h
  | cons segment segments ih =>
    rcases ih h with h | h
    · rcases mem_keepSegment h with h | rfl
      · exact .inl h
      · exact .inr (List.mem_cons_self ..)
    · exact .inr (List.mem_cons_of_mem _ h)

theorem weight_foldl_le (segments : List (List Char)) (kept : List (List Char)) :
    Text.weight (segments.foldl keepSegment kept) ≤ Text.weight kept + Text.weight segments := by
  induction segments generalizing kept with
  | nil => exact Nat.le_refl _
  | cons segment segments ih =>
    have hrest := ih (keepSegment kept segment)
    have hfirst := weight_keepSegment_le kept segment
    simp only [List.foldl_cons, Text.weight_cons]
    omega

theorem foldl_replicate_up (m n : Nat) :
    (List.replicate n up).foldl keepSegment (List.replicate m up) = List.replicate (m + n) up := by
  induction n generalizing m with
  | zero => rfl
  | succ n ih =>
    rw [List.replicate_succ, List.foldl_cons, keepSegment_up_replicate, ih]
    congr 1
    omega

theorem foldl_names {names : List (List Char)} (h : ∀ p ∈ names, IsName p)
    (kept : List (List Char)) : names.foldl keepSegment kept = names.reverse ++ kept := by
  induction names generalizing kept with
  | nil => rfl
  | cons segment names ih =>
    rw [List.foldl_cons, keepSegment_of_isName (h segment (List.mem_cons_self ..)),
      ih fun p hp => h p (List.mem_cons_of_mem _ hp), List.reverse_cons, List.append_assoc]
    rfl

theorem kept_nil : Kept [] := ⟨[], 0, rfl, nofun⟩

/-- Names after some `..` are reduced to themselves. -/
theorem reduceSegments_replicate_append {names : List (List Char)} (h : ∀ p ∈ names, IsName p)
    (climbs : Nat) :
    reduceSegments (List.replicate climbs up ++ names) = List.replicate climbs up ++ names := by
  have hclimb := foldl_replicate_up 0 climbs
  rw [List.replicate_zero, Nat.zero_add] at hclimb
  rw [reduceSegments, List.foldl_append, hclimb, foldl_names h, List.reverse_append,
    List.reverse_replicate, List.reverse_reverse]

theorem exists_reduceSegments_eq (segments : List (List Char)) :
    ∃ climbs names, reduceSegments segments = List.replicate climbs up ++ names ∧
      ∀ p ∈ names, IsName p := by
  obtain ⟨names, climbs, h, hnames⟩ := kept_foldl segments kept_nil
  refine ⟨climbs, names.reverse, ?_, fun p hp => hnames p (List.mem_reverse.mp hp)⟩
  rw [reduceSegments, h, List.reverse_append, List.reverse_replicate]

/-- Segments that were reduced are reduced to themselves. -/
theorem reduceSegments_reduceSegments (segments : List (List Char)) :
    reduceSegments (reduceSegments segments) = reduceSegments segments := by
  obtain ⟨climbs, names, h, hnames⟩ := exists_reduceSegments_eq segments
  rw [h, reduceSegments_replicate_append hnames]

/-! ## Normal forms -/

/-- No segment holds a slash or a backslash. -/
theorem clean_of_mem_segments (hp : p ∈ segments s) : '/' ∉ p ∧ '\\' ∉ p := by
  refine ⟨Text.not_mem_of_mem_splitOn hp, fun hc => ?_⟩
  obtain ⟨d, -, hd⟩ := List.mem_map.mp (Text.mem_of_mem_splitOn hp hc).1
  split at hd
  · exact absurd hd (by decide)
  · next h => exact h hd

theorem mem_reduceSegments {segments : List (List Char)} (h : p ∈ reduceSegments segments) :
    p ∈ segments :=
  (mem_foldl_keepSegment segments (List.mem_reverse.mp h)).resolve_left List.not_mem_nil

theorem ne_nil_of_mem_reduceSegments {segments : List (List Char)} (h : p ∈ reduceSegments segments) :
    p ≠ [] := by
  obtain ⟨climbs, names, hreduced, hnames⟩ := exists_reduceSegments_eq segments
  rw [hreduced] at h
  rcases List.mem_append.mp h with h | h
  · rw [List.eq_of_mem_replicate h]
    exact List.cons_ne_nil _ _
  · exact (hnames p h).1

theorem unifySlashes_of_not_mem (h : '\\' ∉ s) : unifySlashes s = s := by
  have hsame : ∀ c ∈ s, (if c = '\\' then '/' else c) = id c := by
    intro c hc
    rw [if_neg, id]
    rintro rfl
    exact h hc
  rw [unifySlashes, List.map_congr_left hsame, List.map_id]

theorem not_mem_joinWith {c sep : Char} {pieces : List (List Char)} (hsep : c ≠ sep)
    (h : ∀ p ∈ pieces, c ∉ p) : c ∉ Text.joinWith sep pieces := by
  induction pieces with
  | nil => exact List.not_mem_nil
  | cons p pieces ih =>
    have hp := h p (List.mem_cons_self ..)
    by_cases hne : pieces = []
    · rw [hne, Text.joinWith, List.intercalate_singleton]
      exact hp
    · rw [Text.joinWith_cons sep p hne, List.mem_append, List.mem_cons]
      rintro (hc | hc | hc)
      · exact hp hc
      · exact hsep hc
      · exact ih (fun q hq => h q (List.mem_cons_of_mem _ hq)) hc

theorem clean_of_mem_reduceSegments (hp : p ∈ reduceSegments (segments s)) : '/' ∉ p ∧ '\\' ∉ p :=
  clean_of_mem_segments (mem_reduceSegments hp)

theorem backslash_not_mem_normalizeChars (s : List Char) : '\\' ∉ normalizeChars s :=
  not_mem_joinWith (by decide) fun _ hp => (clean_of_mem_reduceSegments hp).2

/-- A normal form that is not empty is cut into the segments it was joined of. -/
theorem segments_normalizeChars (hne : reduceSegments (segments (Text.trim s)) ≠ []) :
    segments (normalizeChars s) = reduceSegments (segments (Text.trim s)) := by
  rw [segments, unifySlashes_of_not_mem (backslash_not_mem_normalizeChars s), normalizeChars,
    Text.splitOn_joinWith hne fun _ hp => (clean_of_mem_reduceSegments hp).1]

theorem normalizeChars_eq_nil (h : reduceSegments (segments (Text.trim s)) = []) :
    normalizeChars s = [] := by
  rw [normalizeChars, h]
  rfl

/-- A normal form is cut into the segments that it was joined of. -/
theorem reduceSegments_normalizeChars (s : List Char) :
    reduceSegments ((normalizeChars s).splitOn '/') = reduceSegments (segments (Text.trim s)) := by
  by_cases hne : reduceSegments (segments (Text.trim s)) = []
  · rw [normalizeChars_eq_nil hne, hne]
    rfl
  · rw [normalizeChars, Text.splitOn_joinWith hne fun _ hp => (clean_of_mem_reduceSegments hp).1,
      reduceSegments_reduceSegments]

theorem normalizeChars_of_trim (h : Text.trim (normalizeChars s) = normalizeChars s) :
    normalizeChars (normalizeChars s) = normalizeChars s := by
  by_cases hne : reduceSegments (segments (Text.trim s)) = []
  · rw [normalizeChars_eq_nil hne]
    rfl
  · have hsegments := segments_normalizeChars hne
    rw [normalizeChars, h, hsegments, reduceSegments_reduceSegments]
    rfl

theorem length_normalizeChars_le (s : List Char) :
    (normalizeChars s).length ≤ (Text.trim s).length := by
  by_cases hne : reduceSegments (segments (Text.trim s)) = []
  · rw [normalizeChars_eq_nil hne]
    exact Nat.zero_le _
  · have hjoined : (normalizeChars s).length + 1 = Text.weight _ := Text.length_joinWith '/' hne
    have hreduced := weight_foldl_le (segments (Text.trim s)) []
    have hcut : Text.weight (segments (Text.trim s)) = (unifySlashes (Text.trim s)).length + 1 :=
      Text.weight_splitOn _
    rw [reduceSegments, Text.weight_reverse] at hjoined
    rw [unifySlashes, List.length_map] at hcut
    rw [Text.weight_nil] at hreduced
    omega

theorem length_normalizeChars_le_self (s : List Char) : (normalizeChars s).length ≤ s.length :=
  Nat.le_trans (length_normalizeChars_le s) (Text.trim_sublist s).length_le

/-- A path that does not get shorter has no blank ends. -/
theorem trim_eq_of_length_le (h : s.length ≤ (normalizeChars s).length) : Text.trim s = s :=
  (Text.trim_sublist s).eq_of_length_le (Nat.le_trans h (length_normalizeChars_le s))

theorem normalizeChars_normalizeChars_iff :
    normalizeChars (normalizeChars s) = normalizeChars s ↔
      Text.trim (normalizeChars s) = normalizeChars s :=
  ⟨fun h => trim_eq_of_length_le (Nat.le_of_eq (congrArg List.length h.symm)),
    normalizeChars_of_trim⟩

/-! ## Paths -/

@[simp] theorem toList_normalize (path : String) :
    (normalize path).toList = normalizeChars path.toList :=
  String.toList_ofList

theorem normalize_normalize_iff (path : String) :
    normalize (normalize path) = normalize path ↔ Trimmed (normalize path) := by
  rw [Trimmed, toList_normalize, ← normalizeChars_normalizeChars_iff, ← toList_normalize,
    ← toList_normalize, String.toList_inj]

/-- A normal form without blank ends is its own. -/
theorem normalize_eq_self {path : String} (h : ∃ path', normalize path' = path) (ht : Trimmed path) :
    normalize path = path := by
  obtain ⟨path', rfl⟩ := h
  exact (normalize_normalize_iff path').mpr ht

/-- A path with blank ends does not come back when it is normalized twice. -/
theorem trimmed_of_normalize_normalize {path : String}
    (h : normalize (normalize path) = path) : Trimmed path := by
  have hlength := congrArg (List.length ∘ String.toList) h
  simp only [Function.comp_apply, toList_normalize] at hlength
  apply trim_eq_of_length_le
  rw [← hlength]
  exact length_normalizeChars_le_self _

end Path

end ShaderDepot
