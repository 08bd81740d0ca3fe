import ShaderDepot.Proofs.Path
import ShaderDepot.Storage.Disk

/-!
# Where a location leads

By its text alone a location leads from a folder to a place.  The text amounts to so many steps up and
some names down (`Location.placeFrom_eq`), and a location that is joined to a base goes on from where
the base leads (`Location.placeFrom_join`).  A disk that finds something at a location finds it at this
place (`Disk.placeFrom_of_find`).
-/

namespace ShaderDepot

namespace Path

variable {kept pieces : List (List Char)}

/-! ## Steps up and names down -/

/-- How far a path goes up. -/
def climbs (path : String) : Nat := (reduceSegments (path.toList.splitOn '/')).count up

/-- The names by which a path then goes down. -/
def names (path : String) : List (List Char) :=
  (reduceSegments (path.toList.splitOn '/')).filter (· ≠ up)

/-- The path begins at the root. -/
def Absolute (path : String) : Prop := path.toList.head? = some '/'

instance (path : String) : Decidable (Absolute path) := inferInstanceAs (Decidable (_ = _))

theorem count_up_replicate_append {names : List (List Char)} (h : ∀ p ∈ names, IsName p) (n : Nat) :
    (List.replicate n up ++ names).count up = n := by
  have hnone : names.count up = 0 := List.count_eq_zero.mpr fun hup => (h up hup).2.2 rfl
  rw [List.count_append, hnone, List.count_replicate_self, Nat.add_zero]

theorem filter_replicate_append {names : List (List Char)} (h : ∀ p ∈ names, IsName p)
    (n : Nat) : (List.replicate n up ++ names).filter (· ≠ up) = names := by
  have hall : names.filter (· ≠ up) = names :=
    List.filter_eq_self.mpr fun p hp => decide_eq_true (h p hp).2.2
  rw [List.filter_append, hall, List.filter_replicate_of_neg (by simp), List.nil_append]

theorem isName_of_mem_names {path : String} {p : List Char} (h : p ∈ names path) : IsName p := by
  obtain ⟨n, down, hreduced, hdown⟩ := exists_reduceSegments_eq (path.toList.splitOn '/')
  rw [names, hreduced, filter_replicate_append hdown] at h
  exact hdown p h

theorem slash_not_mem_of_mem_names {path : String} {p : List Char} (h : p ∈ names path) : '/' ∉ p :=
  Text.not_mem_of_mem_splitOn (mem_reduceSegments (List.mem_filter.mp h).1)

theorem not_absolute_normalize (path : String) : ¬ Absolute (normalize path) := by
  unfold Absolute
  rw [toList_normalize, normalizeChars]
  cases hpieces : reduceSegments (segments (Text.trim path.toList)) with
  | nil =>
    intro hhead
    cases hhead
  | cons p pieces =>
    have hp : p ∈ reduceSegments (segments (Text.trim path.toList)) := by
      rw [hpieces]
      exact List.mem_cons_self ..
    rw [Text.head?_joinWith '/' (ne_nil_of_mem_reduceSegments hp)]
    intro hhead
    exact (clean_of_mem_reduceSegments hp).1 (List.mem_of_mem_head? hhead)

end Path

namespace Location

open Disk ShaderDepot.Path Text

variable {home place : Place} {piece : List Char}

/-! ## Following a text -/

namespace Component

/-- The place that a step leads to. -/
def move (place : Place) : Component → Place
  | root => []
  | here => place
  | up => place.dropLast
  | name n => place ++ [n]

end Component

/-- Where a location leads, seen from a folder. -/
def placeFrom (home : Place) (location : String) : Place :=
  (steps location.toList).foldl Component.move
    (if location.toList.head? = some '/' then [] else home)

def walk (place : Place) (pieces : List (List Char)) : Place :=
  (pieces.filterMap ofPiece).foldl Component.move place

/-- A place so many folders up; the root is above itself. -/
def climb (place : Place) (n : Nat) : Place := place.take (place.length - n)

@[simp] theorem climb_zero (place : Place) : climb place 0 = place := List.take_length

@[simp] theorem climb_nil (n : Nat) : climb [] n = [] := List.take_nil

theorem climb_succ (place : Place) (n : Nat) : climb place (n + 1) = (climb place n).dropLast := by
  rw [climb, climb, List.dropLast_eq_take, List.take_take, List.length_take]
  congr 1
  omega

theorem length_climb (place : Place) (n : Nat) : (climb place n).length = place.length - n := by
  rw [climb, List.length_take]
  omega

/-- A dot that is a step stays where it is, as one that is dropped. -/
theorem foldl_dotted (place : Place) (pieces : List (List Char)) :
    (pieces.filterMap fun piece => if piece = [] then none else if piece = ['.'] then some .here
      else ofPiece piece).foldl Component.move place = walk place pieces := by
  induction pieces generalizing place with
  | nil => rfl
  | cons piece pieces ih =>
    rw [walk, List.filterMap_cons, List.filterMap_cons]
    by_cases hempty : piece = []
    · simp only [hempty, ofPiece, if_true, true_or]
      exact ih place
    · by_cases hdot : piece = ['.']
      · simp only [hdot, ofPiece, reduceCtorEq, if_false, if_true, or_true, List.foldl_cons]
        exact ih place
      · simp only [hempty, hdot, if_false]
        cases ofPiece piece with
        | none => exact ih place
        | some c => exact ih (Component.move place c)

theorem foldl_steps (place : Place) (s : List Char) :
    (steps s).foldl Component.move place = walk place (s.splitOn '/') := by
  rw [steps, List.foldl_append, foldl_dotted]
  split <;> rfl

/-- The place that kept segments lead to. -/
def keptPlace (place : Place) (kept : List (List Char)) : Place :=
  climb place (kept.reverse.count up) ++ kept.reverse.filter (· ≠ up)

theorem keptPlace_append (place : Place) {names : List (List Char)} (h : ∀ p ∈ names, IsName p)
    (n : Nat) :
    keptPlace place (names ++ List.replicate n up) = climb place n ++ names.reverse := by
  have hnames : ∀ p ∈ names.reverse, IsName p := fun p hp => h p (List.mem_reverse.mp hp)
  rw [keptPlace, List.reverse_append, List.reverse_replicate, count_up_replicate_append hnames,
    filter_replicate_append hnames]

theorem ofPiece_of_isName (h : IsName piece) : ofPiece piece = some (.name piece) := by
  rw [ofPiece, if_neg (not_or.mpr ⟨h.1, h.2.1⟩)]
  exact if_neg h.2.2

theorem walk_singleton_of_isName (h : IsName piece) : walk place [piece] = place ++ [piece] := by
  rw [walk, List.filterMap_cons_some (ofPiece_of_isName h)]
  rfl

/-- To keep a segment is to take its step. -/
theorem keptPlace_keepSegment {kept : List (List Char)} (h : Kept kept) (piece : List Char) :
    keptPlace place (keepSegment kept piece) = walk (keptPlace place kept) [piece] := by
  obtain ⟨names, n, rfl, hnames⟩ := h
  by_cases hdropped : piece = [] ∨ piece = ['.']
  · have hpiece : ofPiece piece = none := if_pos hdropped
    rw [keepSegment_of_dropped hdropped, walk, List.filterMap_cons_none hpiece]
    rfl
  · by_cases hup : piece = up
    · subst hup
      have hwalk (place : Place) : walk place [up] = place.dropLast := rfl
      rw [hwalk, keptPlace_append place hnames]
      cases names with
      | nil =>
        have hclimbed := keptPlace_append place (List.forall_mem_nil IsName) (n + 1)
        rw [List.nil_append] at hclimbed
        rw [List.nil_append, keepSegment_up_replicate, hclimbed, climb_succ, List.reverse_nil,
          List.append_nil, List.append_nil]
      | cons last names =>
        have hkeep : keepSegment (last :: names ++ List.replicate n up) up
            = names ++ List.replicate n up :=
          keepSegment_up_cons (hnames last (List.mem_cons_self ..)).2.2
        rw [hkeep, keptPlace_append place fun p hp => hnames p (List.mem_cons_of_mem _ hp),
          List.reverse_cons, ← List.append_assoc, List.dropLast_concat]
    · obtain ⟨hne, hdot⟩ := not_or.mp hdropped
      have hname : IsName piece := ⟨hne, hdot, hup⟩
      have hmore : ∀ p ∈ piece :: names, IsName p := List.forall_mem_cons.mpr ⟨hname, hnames⟩
      rw [keepSegment_of_isName hname, walk_singleton_of_isName hname, ← List.cons_append,
        keptPlace_append place hmore, keptPlace_append place hnames, List.reverse_cons,
        List.append_assoc]

theorem walk_append (place : Place) (pieces pieces' : List (List Char)) :
    walk place (pieces ++ pieces') = walk (walk place pieces) pieces' := by
  rw [walk, List.filterMap_append, List.foldl_append]
  rfl

theorem walk_keptPlace (place : Place) {kept : List (List Char)} (h : Kept kept)
    (pieces : List (List Char)) :
    walk (keptPlace place kept) pieces = keptPlace place (pieces.foldl keepSegment kept) := by
  induction pieces generalizing kept with
  | nil => rfl
  | cons piece pieces ih =>
    rw [List.foldl_cons, ← ih (kept_keepSegment h piece), keptPlace_keepSegment h, ← walk_append,
      List.singleton_append]

/-- A path goes up and then down by names. -/
theorem walk_eq (place : Place) (path : String) :
    walk place (path.toList.splitOn '/') = climb place (climbs path) ++ names path := by
  have hstart : keptPlace place [] = place := by
    rw [keptPlace, List.reverse_nil, List.count_nil, climb_zero, List.filter_nil, List.append_nil]
  have hwalk := walk_keptPlace place kept_nil (path.toList.splitOn '/')
  rwa [hstart] at hwalk

/-- What `placeFrom` is to a text that is taken apart. -/
def walkFrom (home : Place) (s : List Char) : Place :=
  walk (if s.head? = some '/' then [] else home) (s.splitOn '/')

theorem placeFrom_eq_walkFrom (home : Place) (location : String) :
    placeFrom home location = walkFrom home location.toList :=
  foldl_steps _ _

theorem placeFrom_of_absolute {location : String} (h : Absolute location) :
    placeFrom home location = names location := by
  have hroot : location.toList.head? = some '/' := h
  rw [placeFrom_eq_walkFrom, walkFrom, if_pos hroot, walk_eq, climb_nil, List.nil_append]

theorem placeFrom_of_not_absolute {location : String} (h : ¬ Absolute location) :
    placeFrom home location = climb home (climbs location) ++ names location := by
  have hroot : location.toList.head? ≠ some '/' := h
  rw [placeFrom_eq_walkFrom, walkFrom, if_neg hroot, walk_eq]

/-! ## Joined locations -/

theorem join_of_absolute {base part : String} (h : Absolute part) : join base part = part := by
  rw [join, joinChars, joinAt, if_pos (.inl h), String.ofList_toList]

/-- What is joined is cut into the pieces of its parts, but for the empty one behind a base's last slash. -/
theorem splitOn_joinChars {base part : List Char} (hpart : part.head? ≠ some '/') (hbase : base ≠ []) :
    ∃ pieces pad, pieces ≠ [] ∧ (pad = [] ∨ pad = [[]]) ∧ base.splitOn '/' = pieces ++ pad ∧
      (joinChars base part).splitOn '/' = pieces ++ part.splitOn '/' := by
  rw [joinChars, joinAt, if_neg (not_or.mpr ⟨hpart, hbase⟩)]
  by_cases hslash : base.getLast? = some '/'
  · obtain ⟨front, rfl⟩ := List.getLast?_eq_some_iff.mp hslash
    refine ⟨front.splitOn '/', [[]], splitOn_ne_nil '/' front, .inr rfl, ?_, ?_⟩
    · rw [splitOn_append_cons, List.splitOn_nil]
    · rw [if_pos hslash, List.append_assoc, List.singleton_append, splitOn_append_cons]
  · refine ⟨base.splitOn '/', [], splitOn_ne_nil '/' base, .inl rfl, (List.append_nil _).symm, ?_⟩
    rw [if_neg hslash, splitOn_append_cons]

theorem head?_joinChars {base part : List Char} (hpart : part.head? ≠ some '/') (hbase : base ≠ []) :
    (joinChars base part).head? = base.head? := by
  obtain ⟨c, rest, rfl⟩ := List.exists_cons_of_ne_nil hbase
  rw [joinChars, joinAt, if_neg (not_or.mpr ⟨hpart, hbase⟩)]
  split <;> rfl

theorem walkFrom_joinChars {base part : List Char} (h : part.head? ≠ some '/') :
    walkFrom home (joinChars base part) = walk (walkFrom home base) (part.splitOn '/') := by
  by_cases hempty : base = []
  · rw [joinChars, joinAt, if_pos (.inr hempty), hempty, walkFrom, if_neg h]
    rfl
  · obtain ⟨pieces, pad, -, hpad, hbase, hjoined⟩ := splitOn_joinChars h hempty
    have hstill (place : Place) : walk place pad = place := by
      rcases hpad with rfl | rfl <;> rfl
    rw [walkFrom, walkFrom, head?_joinChars h hempty, hbase, hjoined, walk_append, walk_append, hstill]

/-- What is joined goes on from where the base leads. -/
theorem placeFrom_join {base part : String} (h : ¬ Absolute part) :
    placeFrom home (join base part) = climb (placeFrom home base) (climbs part) ++ names part := by
  rw [placeFrom_eq_walkFrom, join, String.toList_ofList, walkFrom_joinChars h, walk_eq,
    placeFrom_eq_walkFrom]

end Location

namespace Disk

open Location

variable {d d' : Disk} {location : String} {p q : Place} {c : Component}

/-! ## What a disk finds -/

theorem move_of_step (h : d.step p c = .ok q) : q = c.move p := by
  unfold step at h
  split at h
  · cases h
  · cases c with
    | root | here | up => exact (Except.ok.inj h).symm
    | name n =>
      dsimp only at h
      split at h
      · exact (Except.ok.inj h).symm
      · cases h

theorem follow_cons (d : Disk) (p : Place) (c : Component) (cs : List Component) :
    d.follow p (c :: cs) = d.step p c >>= fun next =>
      if (d.lookup? next).isSome then d.follow next cs else throw .notFound := by
  rw [follow, List.foldlM_cons, bind_assoc]
  refine bind_congr fun next => ?_
  split <;> rfl

/-- One step of a way that is found, and the rest of it. -/
theorem follow_cons_eq_ok {cs : List Component} :
    d.follow p (c :: cs) = .ok q ↔
      ∃ next, d.step p c = .ok next ∧ (d.lookup? next).isSome ∧ d.follow next cs = .ok q := by
  rw [follow_cons]
  cases hstep : d.step p c with
  | error fault => simp [bind, Except.bind]
  | ok next =>
    simp only [bind, Except.bind, Except.ok.injEq, exists_eq_left']
    split
    · next hsome => simp [hsome]
    · next hsome => simp [hsome, throw, throwThe, MonadExceptOf.throw]

theorem foldl_move_of_follow {cs : List Component} (h : d.follow p cs = .ok q) :
    q = cs.foldl Component.move p := by
  induction cs generalizing p with
  | nil => exact (Except.ok.inj h).symm
  | cons c cs ih =>
    obtain ⟨next, hstep, -, hrest⟩ := follow_cons_eq_ok.mp h
    rw [List.foldl_cons, ← move_of_step hstep]
    exact ih hrest

theorem eq_of_start (h : d.start location = .ok p) :
    p = if location.toList.head? = some '/' then [] else d.home := by
  simp only [start] at h
  split at h
  · cases h
  · split at h
    · cases h
    · split at h
      · cases h
      · exact (Except.ok.inj h).symm

theorem find_eq_ok : d.find location = .ok q ↔
    ∃ p, d.start location = .ok p ∧ d.follow p (steps location.toList) = .ok q := by
  rw [find]
  cases d.start location with
  | error fault => simp [bind, Except.bind]
  | ok p => simp [bind, Except.bind]

/-- What is found at a location stands where the location leads. -/
theorem placeFrom_of_find (h : d.find location = .ok q) : q = placeFrom d.home location := by
  obtain ⟨p, hstart, hfollow⟩ := find_eq_ok.mp h
  rw [placeFrom, ← eq_of_start hstart]
  exact foldl_move_of_follow hfollow

end Disk

end ShaderDepot
