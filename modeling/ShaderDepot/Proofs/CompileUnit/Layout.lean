import ShaderDepot.Proofs.CompileUnit.Localized

/-!
# Where a section's lines stand in the text

The text of a unit is cut at line feeds into the lines of the preamble, then for each section those of
its marker and those of its file (`textLines_assemble`).  The start of a section counts the lines that
were laid out before it.  A version line, a definition and a marker are laid out as one line each, but
they can hold line feeds: a file's lines stand as many lines further down as there are line feeds in
them, and for each line that is laid out free of feeds exactly where the start says (`lines_displaced`).
-/

namespace ShaderDepot.CompileUnit

open Text

variable {version header label text : String} {defines : List Define}
  {sections before after : List (String × String)}

/-- The lines of a unit's text, as a compiler counts them. -/
def textLines (u : CompileUnit) : List (List Char) := u.text.toList.splitOn '\n'

def preambleLines (version header : String) (defines : List Define) : List (List Char) :=
  (s!"#version {version}").toList.splitOn '\n' ++
    (headerLines header ++ defines.flatMap (·.line.toList.splitOn '\n'))

/-- The lines of a section: those of its marker, then those of its file. -/
def sectionLines (file : String × String) : List (List Char) :=
  (fileMarker file.1).toList.splitOn '\n' ++ Text.bodyLines file.2.toList

def charsOfDefine (d : Define) : List Char := d.name.toList ++ d.value.toList

/-- The line feeds in what is laid out as one line each. -/
def feeds (version : String) (defines : List Define) (sections : List (String × String)) : Nat :=
  (version.toList ++ (defines.flatMap charsOfDefine ++ sections.flatMap (·.1.toList))).count '\n'

theorem feeds_eq_zero_iff : feeds version defines sections = 0 ↔ FeedFree version defines sections := by
  simp only [feeds, charsOfDefine, List.count_eq_zero, List.mem_append, List.mem_flatMap, not_or,
    not_exists, not_and]
  exact ⟨fun ⟨hversion, hdefines, hlabels⟩ => ⟨hversion, hdefines, hlabels⟩,
    fun h => ⟨h.version, h.defines, h.labels⟩⟩

theorem feeds_eq_add (version : String) (defines : List Define) (sections : List (String × String)) :
    feeds version defines sections =
      feeds version defines [] + (sections.flatMap (·.1.toList)).count '\n' := by
  rw [feeds, feeds, List.flatMap_nil, List.append_nil, ← List.append_assoc, List.count_append]

/-! ## Feeds in single lines -/

theorem count_versionLine (version : String) :
    (s!"#version {version}").toList.count '\n' = version.toList.count '\n' := by
  have hkeyword : "ersion ".toList.count '\n' = 0 := by decide
  rw [toList_versionLine, List.count_cons_of_ne (by decide), List.count_cons_of_ne (by decide),
    List.count_append, hkeyword, Nat.zero_add]

theorem count_defineLine (d : Define) : d.line.toList.count '\n' = (charsOfDefine d).count '\n' := by
  have hkeyword : "efine ".toList.count '\n' = 0 := by decide
  have hblank : [' '].count '\n' = 0 := by decide
  rw [toList_defineLine, List.count_cons_of_ne (by decide), List.count_cons_of_ne (by decide),
    List.count_append, List.count_append, List.count_append, hkeyword, hblank, Nat.zero_add,
    Nat.add_zero, charsOfDefine, List.count_append]

theorem count_defineLines (defines : List Define) :
    (defines.flatMap (·.line.toList)).count '\n' = (defines.flatMap charsOfDefine).count '\n' := by
  induction defines with
  | nil => rfl
  | cons d defines ih =>
    rw [List.flatMap_cons, List.count_append, count_defineLine, ih, List.flatMap_cons,
      List.count_append]

theorem count_fileMarker (label : String) :
    (fileMarker label).toList.count '\n' = label.toList.count '\n' := by
  have hopen : "* File: ".toList.count '\n' = 0 := by decide
  have hclose : " */".toList.count '\n' = 0 := by decide
  rw [toList_fileMarker, List.count_cons_of_ne (by decide), List.count_append, List.count_append,
    hopen, hclose, Nat.zero_add, Nat.add_zero]

/-! ## The lines of the text -/

theorem flatMap_splitOn_bodyLines (s : List Char) :
    (Text.bodyLines s).flatMap (·.splitOn '\n') = Text.bodyLines s :=
  flatMap_splitOn fun _ => not_mem_of_mem_bodyLines

theorem flatMap_splitOn_headerLines (header : String) :
    (headerLines header).flatMap (·.splitOn '\n') = headerLines header := by
  rw [headerLines]
  split
  · rfl
  · exact flatMap_splitOn_bodyLines header.toList

theorem flatMap_splitOn_preamble (version header : String) (defines : List Define) :
    ((preamble version header defines).map String.toList).flatMap (·.splitOn '\n') =
      preambleLines version header defines := by
  rw [map_toList_preamble, List.flatMap_cons, List.flatMap_append, flatMap_splitOn_headerLines,
    List.flatMap_map, preambleLines]

theorem flatMap_splitOn_layOut (k : Nat) (sections : List (String × String)) :
    ((layOut k sections).1.map String.toList).flatMap (·.splitOn '\n') =
      sections.flatMap sectionLines := by
  induction sections generalizing k with
  | nil => rfl
  | cons file sections ih =>
    rw [layOut, List.map_append, List.map_cons, map_toList_bodyLines, List.flatMap_append, ih,
      List.flatMap_cons, flatMap_splitOn_bodyLines, List.flatMap_cons, sectionLines]

theorem textLines_assemble (version header : String) (defines : List Define)
    (sections : List (String × String)) :
    (assemble version header defines sections).textLines =
      preambleLines version header defines ++ sections.flatMap sectionLines ++ [[]] := by
  rw [textLines, toList_text_assemble, splitOn_writeLines_eq_flatMap, unitLines, List.map_append,
    List.flatMap_append, flatMap_splitOn_preamble, flatMap_splitOn_layOut]

theorem length_preambleLines (version header : String) (defines : List Define) :
    (preambleLines version header defines).length =
      (preamble version header defines).length + feeds version defines [] := by
  -- A header is laid out line by line, so that no feeds are left in its lines.
  have hheader : (headerLines header).flatten.count '\n' = 0 := by
    have := length_flatMap_splitOn '\n' (headerLines header)
    rw [flatMap_splitOn_headerLines] at this
    omega
  rw [← flatMap_splitOn_preamble, length_flatMap_splitOn, List.length_map, map_toList_preamble,
    List.flatten_cons, List.flatten_append, ← List.flatMap_def, List.count_append, List.count_append,
    hheader, count_versionLine, count_defineLines, Nat.zero_add, feeds, List.flatMap_nil,
    List.append_nil, List.count_append]

theorem length_sectionLines (label text : String) :
    (sectionLines (label, text)).length =
      label.toList.count '\n' + 1 + (bodyLines text).length := by
  rw [sectionLines, List.length_append, length_splitOn, count_fileMarker, ← map_toList_bodyLines,
    List.length_map]

theorem length_flatMap_sectionLines (k : Nat) (sections : List (String × String)) :
    (sections.flatMap sectionLines).length =
      (layOut k sections).1.length + (sections.flatMap (·.1.toList)).count '\n' := by
  induction sections generalizing k with
  | nil => rfl
  | cons file sections ih =>
    obtain ⟨label, text⟩ := file
    rw [List.flatMap_cons, List.length_append, length_sectionLines,
      ih (k + 1 + (bodyLines text).length), layOut, List.length_append, List.length_cons,
      List.flatMap_cons, List.count_append]
    dsimp only
    omega

/-! ## The table of sections -/

/-- Sections that follow others are laid out behind their lines. -/
theorem layOut_append (k : Nat) (before after : List (String × String)) :
    layOut k (before ++ after) =
      ((layOut k before).1 ++ (layOut (k + (layOut k before).1.length) after).1,
        (layOut k before).2 ++ (layOut (k + (layOut k before).1.length) after).2) := by
  induction before generalizing k with
  | nil => rfl
  | cons file before ih =>
    have hheight : k + (layOut k (file :: before)).1.length =
        k + 1 + (bodyLines file.2).length +
          (layOut (k + 1 + (bodyLines file.2).length) before).1.length := by
      rw [layOut, List.length_append, List.length_cons]
      omega
    rw [hheight, List.cons_append, layOut, layOut, ih]
    simp only [List.append_assoc, List.cons_append]

theorem pairwise_start_layOut (k : Nat) (sections : List (String × String)) :
    (layOut k sections).2.Pairwise (·.start < ·.start) := by
  induction sections generalizing k with
  | nil => exact .nil
  | cons file sections ih =>
    rw [layOut]
    refine .cons (fun s hs => ?_) (ih _)
    have hlater := lt_start_of_mem_layOut hs
    exact Nat.lt_of_le_of_lt (Nat.le_add_right ..) hlater

theorem pairwise_start_assemble (version header : String) (defines : List Define)
    (sections : List (String × String)) :
    (assemble version header defines sections).sections.Pairwise (·.start < ·.start) :=
  .cons (fun _ hs => Nat.lt_of_le_of_lt (Nat.zero_le _) (lt_start_of_mem_layOut hs))
    (pairwise_start_layOut _ sections)

/-- The lines that are laid out up to a section's file. -/
def startOf (version header : String) (defines : List Define) (before : List (String × String)) : Nat :=
  let front := (preamble version header defines).length
  front + (layOut front before).1.length + 1

theorem sections_assemble (version header : String) (defines : List Define)
    (before after : List (String × String)) (label text : String) :
    (assemble version header defines (before ++ (label, text) :: after)).sections =
      ⟨0, preambleLabel⟩ :: (layOut (preamble version header defines).length before).2 ++
        ⟨startOf version header defines before, label⟩ ::
          (layOut (startOf version header defines before + (bodyLines text).length) after).2 := by
  rw [assemble]
  simp only [layOut_append, layOut, startOf, List.cons_append]

/-- A file's lines come after what is laid out before them and the line feeds therein. -/
theorem startOf_add_feeds (version header : String) (defines : List Define)
    (before : List (String × String)) (label text : String) :
    startOf version header defines before + feeds version defines (before ++ [(label, text)]) =
      (preambleLines version header defines ++ before.flatMap sectionLines ++
        (fileMarker label).toList.splitOn '\n').length := by
  rw [List.length_append, List.length_append, length_preambleLines,
    length_flatMap_sectionLines (preamble version header defines).length, length_splitOn,
    count_fileMarker, startOf, feeds_eq_add, List.flatMap_append, List.flatMap_singleton,
    List.count_append]
  dsimp only
  omega

/-- A line of a file, in the text. -/
theorem getElem?_textLines {n : Nat} {line : List Char}
    (hline : (Text.bodyLines text.toList)[n]? = some line) :
    (assemble version header defines (before ++ (label, text) :: after)).textLines[
      startOf version header defines before + feeds version defines (before ++ [(label, text)]) + n]? =
        some line := by
  have hn : n < (Text.bodyLines text.toList).length := (List.getElem?_eq_some_iff.mp hline).1
  -- What is before the file's lines is as long as `startOf_add_feeds` says.
  have hlines : (assemble version header defines (before ++ (label, text) :: after)).textLines =
      (preambleLines version header defines ++ before.flatMap sectionLines ++
        (fileMarker label).toList.splitOn '\n') ++
          (Text.bodyLines text.toList ++ (after.flatMap sectionLines ++ [[]])) := by
    rw [textLines_assemble, List.flatMap_append, List.flatMap_cons, sectionLines]
    simp only [List.append_assoc]
  rw [hlines, startOf_add_feeds, List.getElem?_append_right (Nat.le_add_right ..),
    Nat.add_sub_cancel_left, List.getElem?_append_left hn, hline]

theorem lineOrigin?_assemble {n : Nat} (hn : n ≤ (Text.bodyLines text.toList).length) :
    (assemble version header defines (before ++ (label, text) :: after)).lineOrigin?
      (startOf version header defines before + n) = some ⟨n, label⟩ := by
  have hlength : (bodyLines text).length = (Text.bodyLines text.toList).length := List.length_map ..
  have hsections := sections_assemble version header defines before after label text
  -- The starts increase, so those of the table before this one are smaller.
  have hincreasing := pairwise_start_assemble version header defines (before ++ (label, text) :: after)
  rw [hsections] at hincreasing
  refine lineOrigin?_section hsections (fun a ha => ?_) (hlength ▸ hn)
  exact Nat.le_of_lt ((List.pairwise_append.mp hincreasing).2.2 a ha _ (List.mem_cons_self ..))

/-- The table of a unit starts at zero and strictly increases, and the lines of its text are those of
the preamble, of each marker and of each file, in this order.  Line `n` of a file is what the table
finds `n` lines behind the file's start.  It stands there where no line feed is in the version, the
definitions or the labels up to the file; each one that is moves it down by a line. -/
theorem lines_displaced (version header : String) (defines : List Define)
    (sections : List (String × String)) :
    let u := assemble version header defines sections
    (u.sections.head? = some ⟨0, preambleLabel⟩ ∧
      u.sections.map (·.label) = preambleLabel :: sections.map (·.1) ∧
      u.sections.Pairwise (·.start < ·.start)) ∧
    u.textLines = preambleLines version header defines ++ sections.flatMap sectionLines ++ [[]] ∧
    ∀ before label text after, sections = before ++ (label, text) :: after →
      (feeds version defines (before ++ [(label, text)]) = 0 ↔
        FeedFree version defines (before ++ [(label, text)])) ∧
      ∃ start, u.sections[before.length + 1]? = some ⟨start, label⟩ ∧
        ∀ n line, (Text.bodyLines text.toList)[n]? = some line →
          u.lineOrigin? (start + (n + 1)) = some ⟨n + 1, label⟩ ∧
          u.textLines[start + feeds version defines (before ++ [(label, text)]) + n]? =
            some line := by
  intro u
  refine ⟨⟨rfl, congrArg (preambleLabel :: ·) (map_label_layOut _ sections),
    pairwise_start_assemble version header defines sections⟩,
    textLines_assemble version header defines sections, ?_⟩
  rintro before label text after rfl
  refine ⟨feeds_eq_zero_iff, startOf version header defines before, ?_,
    fun n line hline => ⟨?_, getElem?_textLines hline⟩⟩
  · have hlength : (layOut (preamble version header defines).length before).2.length =
        before.length := by
      rw [← List.length_map (·.label), map_label_layOut, List.length_map]
    rw [sections_assemble, List.getElem?_append_right]
    · simp [hlength]
    · simp [hlength]
  · exact lineOrigin?_assemble (List.getElem?_eq_some_iff.mp hline).1

/-- A definition over two lines: the table leads from the marker of the file to the file's first line. -/
theorem define_displaces_lines :
    let u := assemble "450" "" [⟨"A", "1\n2"⟩] [("a", "x\n")]
    u.sections = [⟨0, preambleLabel⟩, ⟨3, "a"⟩] ∧ Text.bodyLines "x\n".toList = ["x".toList] ∧
      u.lineOrigin? (3 + 1) = some ⟨1, "a"⟩ ∧
      u.textLines[3 + 0]? = some "/* File: a */".toList := by
  decide +kernel

end ShaderDepot.CompileUnit
