import Mathlib.Data.List.Forall2
import ShaderDepot.Proofs.Directive
import ShaderDepot.Proofs.Text.Trim

/-!
# The grammar of directives

A line is a directive when it consists of `#` and a keyword, blanks and an argument, between blanks
(`Spells`).  A scan takes out just these lines, leaves every other line as it stands and where it
stands, and hands out the arguments in their order; and there is no directive in what it leaves
(`isScan_iff`).
-/

namespace ShaderDepot

open Text

namespace Directive

variable {keyword line marked argument path : List Char}

/-- The line is `#keyword argument`, with blanks at its ends and more than one blank in the middle as
may be.  The argument is what stands between the blanks. -/
structure Spells (keyword line argument : List Char) : Prop where
  tight : Tight argument
  ne_nil : argument ≠ []
  shape : ∃ indent gap rest, Blank indent ∧ Blank gap ∧ gap ≠ [] ∧ Blank rest ∧
    line = indent ++ '#' :: (keyword ++ gap ++ argument ++ rest)

theorem argument?_eq_some_iff_spells :
    argument? keyword line = some argument ↔ Spells keyword line argument := by
  rw [argument?_eq_some_iff]
  constructor
  · rintro ⟨c, rest, htrim, hc, rfl, hne⟩
    -- The gap is the blank behind the keyword, with the blanks that trimming takes from the argument.
    obtain ⟨before, after, hbefore, hafter, hrest⟩ := exists_trim rest
    refine ⟨tight_trim rest, hne, line.takeWhile isBlank, c :: before, after, blank_takeWhile line,
      List.forall_mem_cons.mpr ⟨hc, hbefore⟩, List.cons_ne_nil _ _, hafter, ?_⟩
    have hline := takeWhile_append_trimStart line
    rw [htrim, hrest] at hline
    simp only [List.append_assoc, List.cons_append] at hline ⊢
    exact hline.symm
  · rintro ⟨htight, hne, indent, gap, rest, hindent, hgap, hgap', hrest, rfl⟩
    obtain ⟨c, before, rfl⟩ := List.exists_cons_of_ne_nil hgap'
    obtain ⟨hc, hbefore⟩ := List.forall_mem_cons.mp hgap
    refine ⟨c, before ++ argument ++ rest, ?_, hc, trim_append hbefore htight hrest, hne⟩
    have hhash : ∀ s : List Char, trimStart ('#' :: s) = '#' :: s := fun s => rfl
    rw [trimStart_append hindent, hhash]
    simp only [List.append_assoc, List.cons_append]

/-- A return at the end of a line makes no directive of it. -/
theorem Spells.append_return (h : Spells keyword line argument) :
    Spells keyword (line ++ ['\r']) argument := by
  obtain ⟨indent, gap, rest, hindent, hgap, hgap', hrest, rfl⟩ := h.shape
  refine ⟨h.tight, h.ne_nil, indent, gap, rest ++ ['\r'], hindent, hgap, hgap', ?_, ?_⟩
  · exact List.forall_mem_append.mpr ⟨hrest, List.forall_mem_singleton.mpr (by decide)⟩
  · simp only [List.append_assoc, List.cons_append]

/-- The line is no directive. -/
structure IsPlain (line : List Char) : Prop where
  version : ∀ argument, ¬Spells "version".toList line argument
  inclusion : ∀ argument, ¬Spells "include".toList line argument

theorem IsPlain.of_return (h : IsPlain (line ++ ['\r'])) : IsPlain line where
  version argument ha := h.version argument ha.append_return
  inclusion argument ha := h.inclusion argument ha.append_return

theorem argument?_version_of_include (h : argument? "include".toList line = some argument) :
    argument? "version".toList line = none := by
  obtain ⟨c, rest, htrim, -⟩ := argument?_eq_some_iff.mp h
  refine Option.eq_none_iff_forall_ne_some.mpr fun argument' h' => ?_
  obtain ⟨c', rest', htrim', -⟩ := argument?_eq_some_iff.mp h'
  rw [htrim] at htrim'
  exact absurd (List.cons.inj (List.cons.inj htrim').2).1 (by decide)

theorem ofLine?_eq_version_iff :
    ofLine? line = some (.version argument) ↔ Spells "version".toList line argument := by
  rw [ofLine?, ← argument?_eq_some_iff_spells]
  cases argument? "version".toList line with
  | some argument' =>
    simp only [Option.some.injEq, Directive.version.injEq]
  | none =>
    cases argument? "include".toList line <;>
      simp only [Option.map_none, Option.map_some, Option.some.injEq, reduceCtorEq]

theorem ofLine?_eq_inclusion_iff :
    ofLine? line = some (.inclusion argument) ↔ Spells "include".toList line argument := by
  rw [ofLine?, ← argument?_eq_some_iff_spells]
  cases hi : argument? "include".toList line with
  | some argument' =>
    rw [argument?_version_of_include hi]
    simp only [Option.map_some, Option.some.injEq, Directive.inclusion.injEq]
  | none =>
    cases argument? "version".toList line <;>
      simp only [Option.map_none, Option.some.injEq, reduceCtorEq]

theorem ofLine?_eq_none_iff : ofLine? line = none ↔ IsPlain line := by
  rw [Option.eq_none_iff_forall_ne_some]
  constructor
  · intro h
    exact ⟨fun argument ha => h _ (ofLine?_eq_version_iff.mpr ha),
      fun argument ha => h _ (ofLine?_eq_inclusion_iff.mpr ha)⟩
  · rintro h (argument | argument) hd
    · exact h.version argument (ofLine?_eq_version_iff.mp hd)
    · exact h.inclusion argument (ofLine?_eq_inclusion_iff.mp hd)

/-! ## Lines -/

/-- What a scan leaves in the place of a line. -/
inductive Marks (line : List Char) : List Char → Prop
  | version {argument : List Char} (h : Spells "version".toList line argument) :
      Marks line "//#version".toList
  | inclusion {argument : List Char} (h : Spells "include".toList line argument) :
      Marks line "//#include".toList
  | plain (h : IsPlain line) : Marks line line

theorem marks_iff : Marks line marked ↔ marked = markLine line := by
  rw [markLine]
  constructor
  · intro h
    cases h with
    | version h =>
      rw [ofLine?_eq_version_iff.mpr h]
      rfl
    | inclusion h =>
      rw [ofLine?_eq_inclusion_iff.mpr h]
      rfl
    | plain h =>
      rw [ofLine?_eq_none_iff.mpr h]
      rfl
  · rintro rfl
    cases hd : ofLine? line with
    | none => exact .plain (ofLine?_eq_none_iff.mp hd)
    | some d =>
      cases d with
      | version argument => exact .version (ofLine?_eq_version_iff.mp hd)
      | inclusion argument => exact .inclusion (ofLine?_eq_inclusion_iff.mp hd)

theorem length_le_of_spells (h : Spells keyword line argument) : keyword.length + 3 ≤ line.length := by
  obtain ⟨indent, gap, rest, -, -, hgap, -, rfl⟩ := h.shape
  have hgap := List.length_pos_iff.mpr hgap
  have hargument := List.length_pos_iff.mpr h.ne_nil
  simp only [List.length_append, List.length_cons]
  omega

theorem length_le_utf8ByteSize (s : List Char) : s.length ≤ (String.ofList s).utf8ByteSize := by
  induction s with
  | nil => exact Nat.zero_le _
  | cons c s ih =>
    rw [String.ofList_cons, String.utf8ByteSize_append, String.utf8ByteSize_singleton, List.length_cons]
    have := c.utf8Size_pos
    omega

/-- A comment takes no more bytes than the directive in its place. -/
theorem utf8ByteSize_le_of_marks (h : Marks line marked) :
    (String.ofList marked).utf8ByteSize ≤ (String.ofList line).utf8ByteSize := by
  have hbytes := length_le_utf8ByteSize line
  cases h with
  | version h => exact Nat.le_trans (length_le_of_spells h) hbytes
  | inclusion h => exact Nat.le_trans (length_le_of_spells h) hbytes
  | plain => exact Nat.le_refl _

/-- What a scan leaves is no directive. -/
theorem isPlain_of_marks (h : Marks line marked) : IsPlain marked := by
  cases h with
  | version => exact ofLine?_eq_none_iff.mp rfl
  | inclusion => exact ofLine?_eq_none_iff.mp rfl
  | plain h => exact h

/-! ## Arguments -/

/-- The arguments of the lines with a keyword, in the order of the lines. -/
inductive Arguments (keyword : List Char) : List (List Char) → List (List Char) → Prop
  | nil : Arguments keyword [] []
  | spelled {line argument : List Char} {lines arguments : List (List Char)}
      (h : Spells keyword line argument) (hl : Arguments keyword lines arguments) :
      Arguments keyword (line :: lines) (argument :: arguments)
  | other {line : List Char} {lines arguments : List (List Char)}
      (h : ∀ argument, ¬Spells keyword line argument) (hl : Arguments keyword lines arguments) :
      Arguments keyword (line :: lines) arguments

theorem arguments_iff {lines arguments : List (List Char)} :
    Arguments keyword lines arguments ↔ arguments = lines.filterMap (argument? keyword) := by
  constructor
  · intro h
    induction h with
    | nil => rfl
    | spelled h _ ih =>
      rw [List.filterMap_cons_some (argument?_eq_some_iff_spells.mpr h), ih]
    | other h _ ih =>
      rw [List.filterMap_cons_none, ih]
      exact Option.eq_none_iff_forall_ne_some.mpr fun a ha => h a (argument?_eq_some_iff_spells.mp ha)
  · rintro rfl
    induction lines with
    | nil => exact .nil
    | cons line lines ih =>
      cases h : argument? keyword line with
      | some argument =>
        rw [List.filterMap_cons_some h]
        exact .spelled (argument?_eq_some_iff_spells.mp h) ih
      | none =>
        rw [List.filterMap_cons_none h]
        refine .other (fun argument ha => ?_) ih
        rw [argument?_eq_some_iff_spells.mpr ha] at h
        cases h

/-- The path that an argument names: the normal form of what stands between quotes or angle brackets,
or of the whole. -/
inductive Names : List Char → List Char → Prop
  | quoted (inner : List Char) : Names ('"' :: (inner ++ ['"'])) (Path.normalizeChars inner)
  | angled (inner : List Char) : Names ('<' :: (inner ++ ['>'])) (Path.normalizeChars inner)
  | bare {argument : List Char} (hq : ∀ inner, argument ≠ '"' :: (inner ++ ['"']))
      (ha : ∀ inner, argument ≠ '<' :: (inner ++ ['>'])) :
      Names argument (Path.normalizeChars argument)

theorem between?_eq_some_iff {opening closing : Char} {s inner : List Char} :
    between? opening closing s = some inner ↔ s = opening :: (inner ++ [closing]) := by
  cases s with
  | nil => exact ⟨nofun, nofun⟩
  | cons c rest =>
    rw [between?]
    constructor
    · intro h
      split at h
      · next hc =>
        rw [← Option.some.inj h, hc.1, List.dropLast_append_getLast? closing hc.2]
      · cases h
    · intro h
      obtain ⟨rfl, rfl⟩ := List.cons.inj h
      rw [if_pos ⟨rfl, List.getLast?_concat⟩, List.dropLast_concat]

theorem between?_eq_none_iff {opening closing : Char} {s : List Char} :
    between? opening closing s = none ↔ ∀ inner, s ≠ opening :: (inner ++ [closing]) := by
  rw [Option.eq_none_iff_forall_ne_some]
  exact forall_congr' fun inner => not_congr between?_eq_some_iff

theorem names_iff (h : Tight argument) : Names argument path ↔ path = includePath argument := by
  rw [includePath, trim_eq_self h]
  constructor
  · intro h
    cases h with
    | quoted inner =>
      rw [between?_eq_some_iff.mpr rfl]
      rfl
    | angled inner =>
      rw [between?_eq_none_iff.mpr fun inner' h => absurd (List.cons.inj h).1 (by decide),
        between?_eq_some_iff.mpr rfl]
      rfl
    | bare hq ha =>
      rw [between?_eq_none_iff.mpr hq, between?_eq_none_iff.mpr ha]
      rfl
  · rintro rfl
    cases hq : between? '"' '"' argument with
    | some inner =>
      obtain rfl := between?_eq_some_iff.mp hq
      exact .quoted inner
    | none =>
      cases ha : between? '<' '>' argument with
      | some inner =>
        obtain rfl := between?_eq_some_iff.mp ha
        exact .angled inner
      | none => exact .bare (between?_eq_none_iff.mp hq) (between?_eq_none_iff.mp ha)

end Directive

namespace ScannedText

open Directive

variable {source : String} {scanned : ScannedText}

/-- What a scan of a source text gives, said without the scan. -/
structure IsScan (source : String) (scanned : ScannedText) : Prop where
  /-- The text has as many lines as the source. -/
  length : (scanned.text.toList.splitOn '\n').length = (sourceLines source.toList).length
  /-- A comment stands in the place of each directive, and each other line as it was. -/
  marked : List.Forall₂ Marks (sourceLines source.toList) (scanned.text.toList.splitOn '\n')
  noLonger : List.Forall₂
    (fun line marked => (String.ofList marked).utf8ByteSize ≤ (String.ofList line).utf8ByteSize)
    (sourceLines source.toList) (scanned.text.toList.splitOn '\n')
  versions : ∃ arguments, Arguments "version".toList (sourceLines source.toList) arguments ∧
    scanned.version = arguments.head?.map String.ofList ∧ scanned.versionCount = arguments.length
  /-- The paths of the includes, without those that are nothing in normal form. -/
  includes : ∃ arguments paths, Arguments "include".toList (sourceLines source.toList) arguments ∧
    List.Forall₂ Names arguments paths ∧
    scanned.includes = (paths.filter (· ≠ [])).map String.ofList
  /-- A scan of the text finds no directive. -/
  plain : ∀ line ∈ sourceLines scanned.text.toList, IsPlain line

theorem filterMap_version_directives (source : List Char) :
    (directives source).filterMap Directive.version? =
      (sourceLines source).filterMap (argument? "version".toList) := by
  rw [directives, List.filterMap_filterMap]
  refine List.filterMap_congr fun line _ => ?_
  rw [ofLine?]
  cases argument? "version".toList line with
  | some argument => rfl
  | none => cases argument? "include".toList line <;> rfl

theorem include?_inclusion (argument : List Char) :
    include? (inclusion argument) = (some (includePath argument)).filter (· ≠ []) := by
  rw [include?, Option.filter_some]
  by_cases hpath : includePath argument = []
  · rw [if_pos hpath, hpath]
    rfl
  · rw [if_neg hpath, if_pos (decide_eq_true hpath)]

theorem filterMap_include_directives (source : List Char) :
    (directives source).filterMap Directive.include? =
      (((sourceLines source).filterMap (argument? "include".toList)).map includePath).filter
        (· ≠ []) := by
  rw [directives, List.filterMap_filterMap, List.map_filterMap, List.filter_filterMap]
  refine List.filterMap_congr fun line _ => ?_
  rw [ofLine?]
  cases hi : argument? "include".toList line with
  | some argument =>
    rw [argument?_version_of_include hi]
    simp only [Option.map_some, Option.bind_some]
    exact include?_inclusion argument
  | none => cases argument? "version".toList line <;> rfl

theorem forall₂_iff_eq_map {α β : Type} {f : α → β} {l : List α} {l' : List β} :
    List.Forall₂ (fun a b => b = f a) l l' ↔ l' = l.map f := by
  rw [eq_comm, ← List.forall₂_eq_eq_eq, List.forall₂_map_left_iff]
  exact ⟨.imp fun _ _ => Eq.symm, .imp fun _ _ => Eq.symm⟩

theorem marked_iff {lines marked : List (List Char)} :
    List.Forall₂ Marks lines marked ↔ marked = lines.map markLine := by
  rw [← forall₂_iff_eq_map]
  exact ⟨.imp fun _ _ => marks_iff.mp, .imp fun _ _ => marks_iff.mpr⟩

theorem names_iff_map {arguments paths : List (List Char)} (h : ∀ a ∈ arguments, Tight a) :
    List.Forall₂ Names arguments paths ↔ paths = arguments.map includePath := by
  rw [← forall₂_iff_eq_map]
  have hsame : ∀ {R S : List Char → List Char → Prop}, (∀ a b, Tight a → R a b → S a b) →
      List.Forall₂ R arguments paths → List.Forall₂ S arguments paths := fun hRS hR =>
    (List.forall₂_and_left _ _).mpr ⟨h, hR⟩ |>.imp fun a b hab => hRS a b hab.1 hab.2
  exact ⟨hsame fun _ _ ht => (names_iff ht).mp, hsame fun _ _ ht => (names_iff ht).mpr⟩

theorem tight_of_arguments {keyword : List Char} {lines arguments : List (List Char)}
    (h : Arguments keyword lines arguments) : ∀ a ∈ arguments, Tight a := by
  rw [arguments_iff.mp h]
  intro a ha
  obtain ⟨line, -, hline⟩ := List.mem_filterMap.mp ha
  exact (argument?_eq_some_iff_spells.mp hline).tight

theorem forall_of_forall₂ {α β : Type} {r : α → β → Prop} {p : β → Prop} {l : List α} {l' : List β}
    (h : List.Forall₂ r l l') (hp : ∀ a ∈ l, ∀ b, r a b → p b) : ∀ b ∈ l', p b := by
  induction h with
  | nil => exact fun _ hb => nomatch hb
  | cons hab _ ih =>
    obtain ⟨ha, hl⟩ := List.forall_mem_cons.mp hp
    exact List.forall_mem_cons.mpr ⟨ha _ hab, ih hl⟩

/-- The lines of a scanned text that another scan looks at are no directives. -/
theorem isPlain_of_mem_sourceLines (source : String) :
    ∀ line ∈ sourceLines (ofSource source).text.toList, IsPlain line := by
  refine forall_of_forall₂ (p := fun line => IsPlain line)
    (forall₂_splitOn_dropReturns (ofSource source).text.toList) ?_
  -- The other scan drops a return at the end of a line, and this makes no directive of the line.
  intro line' hline' line hline
  have hplain : IsPlain line' := by
    rw [splitOn_text] at hline'
    obtain ⟨original, -, hmark⟩ := List.mem_map.mp hline'
    exact isPlain_of_marks (marks_iff.mpr hmark.symm)
  rcases hline with rfl | rfl
  · exact hplain
  · exact hplain.of_return

theorem isScan_ofSource (source : String) : IsScan source (ofSource source) where
  length := by rw [splitOn_text, List.length_map]
  marked := by rw [splitOn_text, marked_iff]
  noLonger := by
    rw [splitOn_text]
    exact (marked_iff.mpr rfl).imp fun _ _ => utf8ByteSize_le_of_marks
  versions := by
    refine ⟨_, arguments_iff.mpr rfl, ?_, ?_⟩
    · rw [← filterMap_version_directives]
      rfl
    · rw [← filterMap_version_directives]
      rfl
  includes := by
    have harguments := arguments_iff.mpr (rfl : _ =
      (sourceLines source.toList).filterMap (argument? "include".toList))
    refine ⟨_, _, harguments, (names_iff_map (tight_of_arguments harguments)).mpr rfl, ?_⟩
    rw [← filterMap_include_directives]
    rfl
  plain := isPlain_of_mem_sourceLines source

/-- The grammar leaves no choice. -/
theorem IsScan.unique {scanned scanned' : ScannedText} (h : IsScan source scanned)
    (h' : IsScan source scanned') : scanned = scanned' := by
  have htext : scanned.text = scanned'.text := by
    have hlines := (marked_iff.mp h.marked).trans (marked_iff.mp h'.marked).symm
    have hjoined := congrArg (List.intercalate ['\n']) hlines
    rwa [List.intercalate_splitOn, List.intercalate_splitOn, String.toList_inj] at hjoined
  obtain ⟨versions, hversions, hversion, hcount⟩ := h.versions
  obtain ⟨versions', hversions', hversion', hcount'⟩ := h'.versions
  obtain rfl := (arguments_iff.mp hversions).trans (arguments_iff.mp hversions').symm
  obtain ⟨arguments, paths, harguments, hpaths, hincludes⟩ := h.includes
  obtain ⟨arguments', paths', harguments', hpaths', hincludes'⟩ := h'.includes
  obtain rfl := (arguments_iff.mp harguments).trans (arguments_iff.mp harguments').symm
  have htight := tight_of_arguments harguments
  obtain rfl := ((names_iff_map htight).mp hpaths).trans ((names_iff_map htight).mp hpaths').symm
  cases scanned
  cases scanned'
  simp only at htext hversion hversion' hcount hcount' hincludes hincludes'
  rw [htext, hversion, hversion', hcount, hcount', hincludes, hincludes']

/-- A scan gives what the grammar of directives says, and nothing else. -/
theorem isScan_iff (source : String) (scanned : ScannedText) :
    IsScan source scanned ↔ scanned = ofSource source := by
  constructor
  · exact fun h => h.unique (isScan_ofSource source)
  · rintro rfl
    exact isScan_ofSource source

end ScannedText

end ShaderDepot
