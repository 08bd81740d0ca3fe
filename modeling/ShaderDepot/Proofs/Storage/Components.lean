import Mathlib.Data.List.Basic
import Mathlib.Data.Set.List
import ShaderDepot.Proofs.Path.Respelling
import ShaderDepot.Proofs.Storage.OsPath
import ShaderDepot.Proofs.Storage.Places
import ShaderDepot.Watch

/-!
# Components of locations

Locations are compared by their components: one lies below another when the components of the other come
first in it.  A path in normal form that is joined to a location adds its segments to the components and
nothing else (`Location.components_push`).  On a disk without links a location that its canonical form
begins with is its canonical form (`Disk.canonicalizes`).
-/

namespace ShaderDepot

open Text

namespace Location

open ShaderDepot.Path

variable {s part : List Char} {base location : OsPath} {path : String} {pieces : List (List Char)}

/-! ## Taking locations apart -/

/-- What the piece in front of the first slash stands for. -/
def leading (first : List Char) : List Component :=
  if first = ['.'] then [.here] else if first = [] then [.root] else (ofPiece first).toList

theorem components_eq {first : List Char} {rest : List (List Char)} (hne : s ≠ [])
    (h : s.splitOn '/' = first :: rest) : components s = leading first ++ rest.filterMap ofPiece := by
  have hrest : first = [] → rest ≠ [] := by
    rintro rfl rfl
    have hjoined : joinWith '/' (s.splitOn '/') = s := List.intercalate_splitOn '/'
    rw [h, joinWith, List.intercalate_singleton] at hjoined
    exact hne hjoined.symm
  simp only [components, h, leading]
  by_cases hfirst : first = []
  · rw [if_neg (hrest hfirst)]
  · simp only [hfirst, if_false]

theorem components_joinChars {base : List Char} (hpart : part.head? ≠ some '/') (hbase : base ≠ []) :
    components (joinChars base part) = components base ++ (part.splitOn '/').filterMap ofPiece := by
  obtain ⟨pieces, pad, hpieces, hpad, hsplit, hjoined⟩ := splitOn_joinChars hpart hbase
  obtain ⟨first, rest, rfl⟩ := List.exists_cons_of_ne_nil hpieces
  rw [List.cons_append] at hsplit hjoined
  have hne : joinChars base part ≠ [] := by
    intro h
    have hhead := head?_joinChars hpart hbase
    rw [h] at hhead
    exact hbase (List.head?_eq_none_iff.mp hhead.symm)
  have hnone : pad.filterMap ofPiece = [] := by
    rcases hpad with rfl | rfl <;> rfl
  rw [components_eq hbase hsplit, components_eq hne hjoined, List.filterMap_append, List.filterMap_append,
    hnone, List.append_nil, List.append_assoc]

theorem filterMap_ofPiece_names {names : List (List Char)} (h : ∀ p ∈ names, IsName p) :
    names.filterMap ofPiece = names.map .name := by
  induction names with
  | nil => rfl
  | cons p names ih =>
    obtain ⟨hp, hnames⟩ := List.forall_mem_cons.mp h
    rw [List.filterMap_cons_some (ofPiece_of_isName hp), ih hnames, List.map_cons]

/-- Pieces with a meaning can be read off their components. -/
theorem map_text_filterMap_ofPiece (h : ∀ p ∈ pieces, p ≠ [] ∧ p ≠ ['.']) :
    (pieces.filterMap ofPiece).map (·.text) = pieces := by
  induction pieces with
  | nil => rfl
  | cons p pieces ih =>
    obtain ⟨hp, hpieces⟩ := List.forall_mem_cons.mp h
    by_cases hup : p = up
    · rw [List.filterMap_cons_some (by rw [hup]; rfl : ofPiece p = some .up), List.map_cons, ih hpieces, hup]
      rfl
    · rw [List.filterMap_cons_some (ofPiece_of_isName ⟨hp.1, hp.2, hup⟩), List.map_cons, ih hpieces]
      rfl

/-- What leads to a file from the folder of the sources: a path in normal form, that is not empty and whose
ends are not blank. -/
structure IsSource (path : String) : Prop where
  ne_empty : path ≠ ""
  isNormal : IsNormal path
  trimmed : Trimmed path

theorem IsSource.normalize (h : IsSource path) : normalize path = path :=
  normalize_eq_self_iff.mpr ⟨h.isNormal, h.trimmed⟩

theorem IsSource.not_absolute (h : IsSource path) : ¬ Absolute path := by
  rw [← h.normalize]
  exact not_absolute_normalize path

theorem IsSource.meaningful (h : IsSource path) : ∀ p ∈ path.toList.splitOn '/', p ≠ [] ∧ p ≠ ['.'] := by
  obtain ⟨climbs, names, hpieces, hnames⟩ := h.isNormal.reduced
  rw [pieces_of_ne h.ne_empty] at hpieces
  intro p hp
  rw [hpieces] at hp
  rcases List.mem_append.mp hp with hp | hp
  · rw [List.eq_of_mem_replicate hp]
    decide
  · exact ⟨(hnames p hp).1, (hnames p hp).2.1⟩

/-- A part whose pieces all mean something goes on from a location as it is spelled. -/
theorem components_joinChars_of_meaningful {base : List Char} (hslash : part.head? ≠ some '/')
    (hne : part ≠ []) (hpieces : ∀ p ∈ part.splitOn '/', p ≠ [] ∧ p ≠ ['.']) :
    components (joinChars base part) = components base ++ (part.splitOn '/').filterMap ofPiece := by
  by_cases hbase : base = []
  · -- The first piece is no dot, which would be a component here.
    obtain ⟨first, rest, hsplit⟩ := List.exists_cons_of_ne_nil (splitOn_ne_nil '/' part)
    have hfirst := hpieces first (hsplit ▸ List.mem_cons_self ..)
    have hlead : leading first = (ofPiece first).toList := by
      rw [leading, if_neg hfirst.2, if_neg hfirst.1]
    rw [joinChars, joinAt, if_pos (.inr hbase), hbase, components_eq hne hsplit, hsplit, hlead]
    cases hpiece : ofPiece first with
    | none => rw [List.filterMap_cons_none hpiece]; rfl
    | some c => rw [List.filterMap_cons_some hpiece]; rfl
  · exact components_joinChars hslash hbase

/-- The pieces of a source's path mean something in its bytes too. -/
theorem IsSource.meaningful_units (h : IsSource path) :
    ∀ p ∈ (Text.units path.toList).splitOn '/', p ≠ [] ∧ p ≠ ['.'] := by
  intro p hp
  rw [splitOn_units] at hp
  obtain ⟨piece, hpiece, rfl⟩ := List.mem_map.mp hp
  exact (h.meaningful piece hpiece).imp units_eq_nil_iff.not.mpr units_eq_dot_iff.not.mpr

/-- A path in normal form goes on from a location as it is spelled. -/
theorem components_push (base : OsPath) (h : IsSource path) :
    (base.push path).components =
      base.components ++ ((Text.units path.toList).splitOn '/').filterMap ofPiece := by
  have hne : path.toList ≠ [] := fun hnil => h.ne_empty (String.toList_eq_nil_iff.mp hnil)
  rw [OsPath.components, OsPath.units_push]
  exact components_joinChars_of_meaningful (head?_units_iff.not.mpr h.not_absolute)
    (units_eq_nil_iff.not.mpr hne) h.meaningful_units

/-! ## Below and beside -/

/-- The location begins with the components of the base. -/
def Below (base location : OsPath) : Prop := base.components <+: location.components

/-- Two spellings of one location. -/
def Same (location location' : OsPath) : Prop := location.components = location'.components

instance (base location : OsPath) : Decidable (Below base location) :=
  inferInstanceAs (Decidable (_ <+: _))

instance (location location' : OsPath) : Decidable (Same location location') :=
  inferInstanceAs (Decidable (_ = _))

theorem Same.below (h : Same base location) : Below base location :=
  ⟨[], (List.append_nil _).trans h⟩

theorem within?_of_append {below : List Component} (h : base.components ++ below = location.components) :
    base.within? location = some (.ofUnits (joinWith '/' (below.map (·.text)))) := by
  have hwithin : Location.within? base.units location.units = some below :=
    List.isPrefixOf?_eq_some_iff_append_eq.mpr h
  rw [OsPath.within?, hwithin, Option.map_some]

theorem within?_eq_none_iff : base.within? location = none ↔ ¬Below base location := by
  constructor
  · rintro hnone ⟨below, hbelow⟩
    rw [within?_of_append hbelow] at hnone
    cases hnone
  · intro hnot
    rw [OsPath.within?, Option.map_eq_none_iff, Option.eq_none_iff_forall_ne_some]
    exact fun below hbelow => hnot ⟨below, List.isPrefixOf?_eq_some_iff_append_eq.mp hbelow⟩

theorem mem_components_of_isName {p : List Char} (hp : p ∈ s.splitOn '/') (h : IsName p) :
    .name p ∈ components s := by
  obtain ⟨first, rest, hsplit⟩ := List.exists_cons_of_ne_nil (splitOn_ne_nil '/' s)
  rw [hsplit] at hp
  simp only [components, hsplit, List.mem_append]
  rcases List.mem_cons.mp hp with rfl | hp
  · rw [if_neg h.2.1, if_neg h.1, ofPiece_of_isName h]
    exact .inl (List.mem_singleton_self _)
  · exact .inr (List.mem_filterMap.mpr ⟨p, hp, ofPiece_of_isName h⟩)

/-- Only below a text lies a text. -/
theorem eq_text_of_below {text : String} (h : Below base text) : base = base.text := by
  have hpiece : ∀ p ∈ base.units.splitOn '/', p ∈ Set.range Text.units := by
    intro p hp
    by_cases hname : IsName p
    · have hmem := h.subset (mem_components_of_isName hp hname)
      rw [components_ofString] at hmem
      obtain ⟨c, -, hc⟩ := List.mem_map.mp hmem
      cases c with
      | name t => exact ⟨t, Component.name.inj hc⟩
      | root | here | up => cases hc
    · rw [IsName, not_and_or, not_and_or, not_not, not_not, not_not] at hname
      rcases hname with rfl | rfl | rfl
      · exact ⟨[], rfl⟩
      · exact ⟨['.'], rfl⟩
      · exact ⟨up, rfl⟩
  have hrange : base.units.splitOn '/' ∈ Set.range (List.map Text.units) := by
    rw [Set.range_list_map]
    exact hpiece
  obtain ⟨pieces, hpieces⟩ := hrange
  have hunits : base.units = Text.units (joinWith '/' pieces) := by
    rw [units_joinWith, hpieces, joinWith, List.intercalate_splitOn]
  have hbase : base = OsPath.ofString (String.ofList (joinWith '/' pieces)) := by
    rw [← OsPath.ofUnits_units base, hunits, ← OsPath.ofUnits_units (.ofString _), OsPath.units_ofString,
      String.toList_ofList]
  rw [hbase, OsPath.text_ofString]

/-- What is known of the canonical forms of locations.  A canonical form leads down from the root by names
alone and through no links, so that it is the canonical form of all that it begins with: a location that
its own canonical form begins with is this form. -/
def Canonicalizes (canonical? : OsPath → Option OsPath) : Prop :=
  ∀ location canonical, canonical? location = some canonical → Below location canonical →
    Same location canonical

/-! ## Canonical forms on a disk -/

theorem components_of_absolute {rest : List Char} :
    components ('/' :: rest) = .root :: (rest.splitOn '/').filterMap ofPiece := by
  have hsplit : ('/' :: rest).splitOn '/' = [] :: rest.splitOn '/' := splitOn_append_cons [] rest
  rw [components_eq (List.cons_ne_nil _ _) hsplit]
  rfl

/-- Only what begins at the root has the root for its first component. -/
theorem exists_components_of_not_absolute (hne : s ≠ []) (h : s.head? ≠ some '/') :
    ∃ c cs, components s = c :: cs ∧ c ≠ .root := by
  obtain ⟨a, rest, rfl⟩ := List.exists_cons_of_ne_nil hne
  obtain ⟨first, more, hmore⟩ := List.exists_cons_of_ne_nil (splitOn_ne_nil '/' rest)
  have ha : a ≠ '/' := by
    rintro rfl
    exact h rfl
  have hsplit : (a :: rest).splitOn '/' = (a :: first) :: more := by
    rw [splitOn_cons, if_neg ha, hmore, List.modifyHead_cons]
  rw [components_eq hne hsplit, leading, if_neg (List.cons_ne_nil _ _)]
  by_cases hdot : a :: first = ['.']
  · rw [if_pos hdot]
    exact ⟨.here, _, rfl, Component.noConfusion⟩
  · rw [if_neg hdot, ofPiece, if_neg (not_or.mpr ⟨List.cons_ne_nil _ _, hdot⟩)]
    split
    · exact ⟨.up, _, rfl, Component.noConfusion⟩
    · exact ⟨.name _, _, rfl, Component.noConfusion⟩

theorem components_spell {place : Disk.Place} (h : ∀ p ∈ place, IsName p ∧ '/' ∉ p) :
    components (Watch.spell place).toList = .root :: place.map .name := by
  rw [Watch.spell, String.toList_ofList, components_of_absolute]
  by_cases hplace : place = []
  · rw [hplace]
    rfl
  · rw [splitOn_joinWith hplace fun p hp => (h p hp).2, filterMap_ofPiece_names fun p hp => (h p hp).1]

theorem foldl_move_names (place : Disk.Place) (names : List (List Char)) :
    (names.map Component.name).foldl Component.move place = place ++ names := by
  induction names generalizing place with
  | nil => exact (List.append_nil place).symm
  | cons n names ih =>
    rw [List.map_cons, List.foldl_cons, ih, Component.move, List.append_assoc, List.singleton_append]

end Location

namespace Disk

open Location ShaderDepot.Path

/-- The canonical form of a location at which there is something.  Everything on a disk has a text for a
name, so that there is nothing where the location is none. -/
def canonical? (d : Disk) (location : OsPath) : Option OsPath :=
  if location = location.text then
    (d.find location.text).toOption.map fun place => .ofString (Watch.spell place)
  else none

/-- A text that the location of what is found at it begins with is this location. -/
theorem components_of_find {d : Disk} {location : String} {place : Place}
    (hfind : d.find location = .ok place)
    (hbelow : components location.toList <+: components (Watch.spell place).toList) :
    components location.toList = components (Watch.spell place).toList := by
  have hleads := placeFrom_of_find hfind
  by_cases habs : Absolute location
  · obtain ⟨rest, hchars⟩ := List.head?_eq_some_iff.mp habs
    have hnames : ∀ p ∈ place, IsName p ∧ '/' ∉ p := by
      rw [hleads, placeFrom_of_absolute habs]
      exact fun p hp => ⟨isName_of_mem_names hp, slash_not_mem_of_mem_names hp⟩
    -- There is no step up among the components of a canonical form.
    rw [hchars, components_of_absolute, components_spell hnames] at hbelow
    obtain ⟨names, -, hsteps⟩ := List.prefix_map_iff.mp (List.cons_prefix_cons.mp hbelow).2
    have hwalk : placeFrom d.home location = walk [] (rest.splitOn '/') := by
      have hsplit : ('/' :: rest).splitOn '/' = [] :: rest.splitOn '/' := splitOn_append_cons [] rest
      rw [placeFrom_eq_walkFrom, walkFrom, hchars, hsplit]
      rfl
    rw [hwalk, walk, hsteps, foldl_move_names, List.nil_append] at hleads
    rw [hchars, components_of_absolute, components_spell hnames, hsteps, hleads]
  · have hne : location.toList ≠ [] := by
      intro hempty
      obtain ⟨p, hstart, -⟩ := find_eq_ok.mp hfind
      simp only [start, hempty] at hstart
      split at hstart <;> cases hstart
    obtain ⟨c, cs, hcomponents, hc⟩ := exists_components_of_not_absolute hne habs
    rw [hcomponents, Watch.spell, String.toList_ofList, components_of_absolute] at hbelow
    exact absurd (List.cons_prefix_cons.mp hbelow).1 hc

theorem canonicalizes (d : Disk) : Canonicalizes d.canonical? := by
  intro location canonical hcanonical hbelow
  rw [canonical?] at hcanonical
  split at hcanonical
  · next htext =>
    obtain ⟨place, hplace, rfl⟩ := Option.map_eq_some_iff.mp hcanonical
    have hfind : d.find location.text = .ok place := by
      cases hf : d.find location.text with
      | error fault => rw [hf] at hplace; cases hplace
      | ok found => rw [hf] at hplace; rw [Option.some.inj hplace]
    rw [htext] at hbelow ⊢
    rw [Below, components_ofString, components_ofString] at hbelow
    rw [Same, components_ofString, components_ofString]
    obtain ⟨cs, hcs, hsame⟩ := List.prefix_map_iff.mp hbelow
    have hsame := List.map_injective_iff.mpr respell_units_injective hsame
    rw [components_of_find hfind (hsame ▸ hcs)]
  · cases hcanonical

end Disk

end ShaderDepot
