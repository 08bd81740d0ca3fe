import ShaderDepot.CompileUnit
import ShaderDepot.Proofs.Device.Complaints

/-!
# Lines and sections of a compile unit

A line of a unit comes from the last section that starts no later (`lineOrigin?_eq_some_iff`).  A unit is
written line by line, and its table of sections leads from each line that stems from a file or from the
header back to this line (`lineOrigin?_of_mem_locate`).  So the `#error` lines of the unit are
those of the header and of the files, where the unit has them (`errorLines_unitLines`).
-/

namespace ShaderDepot.CompileUnit

open Text Compiler

variable {u : CompileUnit} {k n : Nat} {version header label : String} {defines : List Define}
  {sections : List (String × String)}

/-- The lines of a unit. -/
def unitLines (version header : String) (defines : List Define) (sections : List (String × String)) :
    List (List Char) :=
  let front := preamble version header defines
  (front ++ (layOut front.length sections).1).map String.toList

theorem toList_render (lines : List String) :
    (render lines).toList = writeLines (lines.map String.toList) := by
  rw [render, String.toList_join, List.flatMap_map, writeLines, List.flatMap_map]
  exact List.flatMap_congr fun line _ => String.toList_append

theorem toList_text_assemble (version header : String) (defines : List Define)
    (sections : List (String × String)) :
    (assemble version header defines sections).text.toList =
      writeLines (unitLines version header defines sections) := toList_render _

theorem map_toList_bodyLines (text : String) :
    (bodyLines text).map String.toList = Text.bodyLines text.toList := by
  rw [bodyLines, List.map_map]
  exact (List.map_congr_left fun line _ => String.toList_ofList).trans (List.map_id _)

/-! ## Sections -/

/-- A line comes from the last of the sections in front that start no later than it. -/
theorem lineOrigin?_of_cut {before after : List SectionStart} (hsections : u.sections = before ++ after)
    (hbefore : ∀ a ∈ before, a.start ≤ n) (hafter : ∀ a ∈ after, n < a.start) :
    u.lineOrigin? n = before.getLast?.map fun s => ⟨n - s.start, s.label⟩ := by
  have hrest : after.takeWhile (·.start ≤ n) = [] := by
    cases after with
    | nil => rfl
    | cons a after =>
      rw [List.takeWhile_cons_of_neg]
      simp only [decide_eq_true_eq]
      exact Nat.not_le.mpr (hafter a (List.mem_cons_self ..))
  rw [lineOrigin?, hsections, List.takeWhile_append_of_pos fun a ha => decide_eq_true (hbefore a ha), hrest,
    List.append_nil]

theorem lineOrigin?_eq_some {before after : List SectionStart} {s : SectionStart}
    (hsections : u.sections = before ++ s :: after) (hbefore : ∀ a ∈ before, a.start ≤ n)
    (hs : s.start ≤ n) (hafter : ∀ a ∈ after, n < a.start) :
    u.lineOrigin? n = some ⟨n - s.start, s.label⟩ := by
  have hreached : ∀ a ∈ before ++ [s], a.start ≤ n :=
    List.forall_mem_append.mpr ⟨hbefore, List.forall_mem_singleton.mpr hs⟩
  rw [lineOrigin?_of_cut (hsections.trans (List.append_cons ..)) hreached hafter, List.getLast?_concat]
  rfl

/-- Sections in order are those that start at a line or before it, then those that start later. -/
theorem exists_cut_starts {table : List SectionStart} (h : table.Pairwise (·.start ≤ ·.start)) (n : Nat) :
    ∃ before after, table = before ++ after ∧
      (∀ a ∈ before, a.start ≤ n) ∧ ∀ a ∈ after, n < a.start := by
  induction table with
  | nil => exact ⟨[], [], rfl, List.forall_mem_nil _, List.forall_mem_nil _⟩
  | cons s table ih =>
    obtain ⟨hs, htable⟩ := List.pairwise_cons.mp h
    -- The cut is in front of the first section that starts later.
    by_cases hreached : s.start ≤ n
    · obtain ⟨before, after, rfl, hbefore, hafter⟩ := ih htable
      exact ⟨s :: before, after, rfl, List.forall_mem_cons.mpr ⟨hreached, hbefore⟩, hafter⟩
    · have hlater : n < s.start := Nat.not_le.mp hreached
      refine ⟨[], s :: table, rfl, List.forall_mem_nil _, List.forall_mem_cons.mpr ⟨hlater, fun a ha => ?_⟩⟩
      exact Nat.lt_of_lt_of_le hlater (hs a ha)

/-- The section is the last one that starts at this line or before it. -/
def LastBy (table : List SectionStart) (n : Nat) (s : SectionStart) : Prop :=
  ∃ before after, table = before ++ s :: after ∧ s.start ≤ n ∧ ∀ a ∈ after, n < a.start

theorem lineOrigin?_eq_some_iff (h : u.sections.Pairwise (·.start ≤ ·.start)) {origin : LineOrigin} :
    u.lineOrigin? n = some origin ↔
      ∃ s, LastBy u.sections n s ∧ s.start + origin.line = n ∧ origin.label = s.label := by
  constructor
  · intro horigin
    obtain ⟨before, after, hsections, hbefore, hafter⟩ := exists_cut_starts h n
    rw [lineOrigin?_of_cut hsections hbefore hafter, Option.map_eq_some_iff] at horigin
    obtain ⟨s, hlast, rfl⟩ := horigin
    obtain ⟨front, rfl⟩ := List.getLast?_eq_some_iff.mp hlast
    have hs : s.start ≤ n := hbefore s (List.mem_append_right _ (List.mem_singleton_self s))
    exact ⟨s, ⟨front, after, hsections.trans (List.append_cons ..).symm, hs, hafter⟩,
      Nat.add_sub_of_le hs, rfl⟩
  · rintro ⟨s, ⟨before, after, hsections, hs, hafter⟩, rfl, hlabel⟩
    have hbefore : ∀ a ∈ before, a.start ≤ s.start := by
      rw [hsections] at h
      exact fun a ha => (List.pairwise_append.mp h).2.2 a ha s (List.mem_cons_self ..)
    rw [lineOrigin?_eq_some hsections (fun a ha => Nat.le_trans (hbefore a ha) hs) hs hafter,
      Nat.add_sub_cancel_left, ← hlabel]

/-- Each section starts behind the lines before it. -/
theorem lt_start_of_mem_layOut {s : SectionStart} (h : s ∈ (layOut k sections).2) : k < s.start := by
  induction sections generalizing k with
  | nil => cases h
  | cons e sections ih =>
    rw [layOut] at h
    rcases List.mem_cons.mp h with rfl | h
    · exact Nat.lt_succ_self k
    · have := ih h
      omega

/-- A section goes up to the marker of the next. -/
theorem lineOrigin?_section {table : List SectionStart} {k length : Nat}
    (hsections : u.sections = table ++ ⟨k, label⟩ :: (layOut (k + length) sections).2)
    (htable : ∀ a ∈ table, a.start ≤ k) (hn : n ≤ length) :
    u.lineOrigin? (k + n) = some ⟨n, label⟩ := by
  have hafter : ∀ a ∈ (layOut (k + length) sections).2, k + n < a.start := by
    intro a ha
    have := lt_start_of_mem_layOut ha
    omega
  rw [lineOrigin?_eq_some hsections (fun a ha => Nat.le_add_right_of_le (htable a ha))
    (Nat.le_add_right k n) hafter, Nat.add_sub_cancel_left]

theorem map_label_layOut (k : Nat) (sections : List (String × String)) :
    (layOut k sections).2.map (·.label) = sections.map (·.1) := by
  induction sections generalizing k with
  | nil => rfl
  | cons e sections ih =>
    rw [layOut, List.map_cons, List.map_cons, ih]

/-- Lines of sections, each with its section. -/
def locate (sections : List SectionStart) (lines : List (List (Nat × List Char))) :
    List (SectionStart × Nat × List Char) :=
  (sections.zip lines).flatMap fun e => e.2.map (e.1, ·)

theorem locate_cons (s : SectionStart) (starts : List SectionStart) (lines : List (Nat × List Char))
    (more : List (List (Nat × List Char))) :
    locate (s :: starts) (lines :: more) = lines.map (s, ·) ++ locate starts more := by
  rw [locate, List.zip_cons_cons, List.flatMap_cons]
  rfl

theorem locate_eq_nil_iff {starts : List SectionStart} {lines : List (List (Nat × List Char))}
    (h : starts.length = lines.length) : locate starts lines = [] ↔ ∀ l ∈ lines, l = [] := by
  induction starts generalizing lines with
  | nil =>
    rw [List.eq_nil_of_length_eq_zero h.symm]
    exact iff_of_true rfl fun l hl => nomatch hl
  | cons s starts ih =>
    cases lines with
    | nil => cases h
    | cons l lines =>
      rw [locate_cons, List.append_eq_nil_iff, List.map_eq_nil_iff, ih (Nat.succ.inj h),
        List.forall_mem_cons]

/-- The `#error` lines of the files of some sections. -/
def fileErrors (sections : List (String × String)) : List (List (Nat × List Char)) :=
  sections.map fun e => errorLines 1 (Text.bodyLines e.2.toList)

theorem lineOrigin?_of_mem_layOut {before : List SectionStart}
    (hsections : u.sections = before ++ (layOut k sections).2) (hbefore : ∀ a ∈ before, a.start ≤ k)
    {e : SectionStart × Nat × List Char}
    (he : e ∈ locate (layOut k sections).2 (fileErrors sections)) :
    u.lineOrigin? (e.1.start + e.2.1) = some ⟨e.2.1, e.1.label⟩ := by
  induction sections generalizing k before with
  | nil => cases he
  | cons file sections ih =>
    obtain ⟨label, text⟩ := file
    have hlength : (bodyLines text).length = (Text.bodyLines text.toList).length := List.length_map ..
    rw [layOut] at hsections he
    rw [fileErrors, List.map_cons, locate_cons] at he
    rcases List.mem_append.mp he with he | he
    · obtain ⟨⟨m, rest⟩, hm, rfl⟩ := List.mem_map.mp he
      obtain ⟨i, line, hget, hmi, -⟩ := mem_errorLines.mp hm
      have hi : i < (Text.bodyLines text.toList).length := (List.getElem?_eq_some_iff.mp hget).1
      refine lineOrigin?_section hsections (fun a ha => Nat.le_succ_of_le (hbefore a ha)) ?_
      simp only at hmi ⊢
      omega
    · refine ih (hsections.trans (List.append_cons ..)) ?_ he
      intro a ha
      rcases List.mem_append.mp ha with ha | ha
      · have := hbefore a ha
        omega
      · rw [List.mem_singleton.mp ha]
        exact Nat.le_add_right ..

/-! ## Error lines -/

theorem toList_fileMarker (label : String) :
    (fileMarker label).toList = '/' :: ("* File: ".toList ++ label.toList ++ " */".toList) := by
  rw [fileMarker, String.toList_append, String.toList_append]
  rfl

theorem not_isError_fileMarker (label : String) : ¬IsError (fileMarker label).toList := by
  rw [toList_fileMarker, isError_cons_iff (by decide)]
  exact fun h => absurd (List.cons_prefix_cons.mp h).1 (by decide)

theorem errorLines_layOut (k : Nat) (sections : List (String × String)) :
    errorLines (k + 1) ((layOut k sections).1.map String.toList) =
      (locate (layOut k sections).2 (fileErrors sections)).map fun e =>
        (e.1.start + e.2.1, e.2.2) := by
  induction sections generalizing k with
  | nil => rfl
  | cons file sections ih =>
    obtain ⟨label, text⟩ := file
    have hmarker : errorLines (k + 1) [(fileMarker label).toList] = [] := by
      rw [errorLines_eq_nil_iff]
      intro line hl
      rw [List.mem_singleton.mp hl]
      exact not_isError_fileMarker label
    have hlength : (bodyLines text).length = (Text.bodyLines text.toList).length := List.length_map ..
    rw [layOut, fileErrors, List.map_cons, locate_cons, List.map_append, List.map_append,
      errorLines_append, List.map_cons, ← List.singleton_append, errorLines_append, hmarker,
      List.nil_append, map_toList_bodyLines]
    congr 1
    · rw [List.map_map]
      exact errorLines_add 1 (k + 1) _
    · rw [← fileErrors, ← ih]
      congr 1
      simp only [List.length_append, List.length_cons, List.length_nil, hlength]
      omega

/-! ## The whole unit -/

/-- The lines of a header in a unit. -/
def headerLines (header : String) : List (List Char) :=
  if header.isEmpty then [] else Text.bodyLines header.toList

theorem toList_versionLine (version : String) :
    (s!"#version {version}").toList = '#' :: 'v' :: ("ersion ".toList ++ version.toList) := by
  rw [String.toList_append]
  rfl

theorem toList_defineLine (d : Define) :
    d.line.toList = '#' :: 'd' :: ("efine ".toList ++ d.name.toList ++ [' '] ++ d.value.toList) := by
  rw [Define.line]
  simp only [String.toList_append]
  rfl

theorem map_toList_preamble (version header : String) (defines : List Define) :
    (preamble version header defines).map String.toList =
      (s!"#version {version}").toList :: (headerLines header ++ defines.map (·.line.toList)) := by
  rw [preamble, List.cons_append, List.map_cons, List.map_append, List.map_map, headerLines]
  split
  · rfl
  · rw [map_toList_bodyLines]
    rfl

theorem errorLines_headerLines (first : Nat) (header : String) :
    errorLines first (headerLines header) = errorLines first (header.toList.splitOn '\n') := by
  rw [headerLines]
  split
  · next h =>
    rw [String.isEmpty_iff.mp h]
    rfl
  · exact errorLines_bodyLines first header.toList

/-- The `#error` lines of a header, as the unit numbers them, and of the files of some sections. -/
def allErrors (header : String) (sections : List (String × String)) : List (List (Nat × List Char)) :=
  errorLines 2 (headerLines header) :: fileErrors sections

/-- The `#error` lines of a unit are those of its header and its files. -/
theorem errorLines_unitLines (version header : String) (defines : List Define)
    (sections : List (String × String)) :
    errorLines 1 (unitLines version header defines sections) =
      (locate (assemble version header defines sections).sections (allErrors header sections)).map
        fun e => (e.1.start + e.2.1, e.2.2) := by
  have hversion : errorLines 1 [(s!"#version {version}").toList] = [] := by
    rw [errorLines_eq_nil_iff]
    intro line hl
    rw [List.mem_singleton.mp hl, toList_versionLine]
    exact not_isError_directive (by decide) _
  have hdefines : ∀ first, errorLines first (defines.map (·.line.toList)) = [] := by
    intro first
    rw [errorLines_eq_nil_iff]
    intro line hl
    obtain ⟨d, -, rfl⟩ := List.mem_map.mp hl
    rw [toList_defineLine]
    exact not_isError_directive (by decide) _
  have hfront : (preamble version header defines).length =
      ((preamble version header defines).map String.toList).length := (List.length_map ..).symm
  have hfiles := errorLines_layOut (preamble version header defines).length sections
  have hsections : (assemble version header defines sections).sections =
      ⟨0, preambleLabel⟩ :: (layOut (preamble version header defines).length sections).2 := rfl
  rw [unitLines, List.map_append, errorLines_append, ← hfront, Nat.add_comm 1, hfiles, hsections,
    allErrors, locate_cons, List.map_append, map_toList_preamble, ← List.singleton_append,
    errorLines_append, hversion, errorLines_append, hdefines, List.append_nil, List.nil_append,
    List.map_map]
  congr 1
  refine (List.map_id _).symm.trans (List.map_congr_left fun e _ => ?_)
  exact Prod.ext (Nat.zero_add _).symm rfl

/-- The table of sections leads from each `#error` line back to where it stems from. -/
theorem lineOrigin?_of_mem_locate {e : SectionStart × Nat × List Char}
    (he : e ∈ locate (assemble version header defines sections).sections (allErrors header sections)) :
    (assemble version header defines sections).lineOrigin? (e.1.start + e.2.1) =
      some ⟨e.2.1, e.1.label⟩ := by
  have hsections : (assemble version header defines sections).sections =
      [⟨0, preambleLabel⟩] ++ (layOut (preamble version header defines).length sections).2 := rfl
  rw [hsections, List.singleton_append, allErrors, locate_cons] at he
  rcases List.mem_append.mp he with he | he
  · -- The lines of the header stand before the first section of a file.
    obtain ⟨⟨m, rest⟩, hm, rfl⟩ := List.mem_map.mp he
    obtain ⟨i, line, hget, hmi, -⟩ := mem_errorLines.mp hm
    have hi : i < (headerLines header).length := (List.getElem?_eq_some_iff.mp hget).1
    have hfront := congrArg List.length (map_toList_preamble version header defines)
    rw [List.length_map, List.length_cons, List.length_append] at hfront
    have hafter :
        ∀ a ∈ (layOut (preamble version header defines).length sections).2, 0 + m < a.start := by
      intro a ha
      have := lt_start_of_mem_layOut ha
      simp only at hmi
      omega
    rw [lineOrigin?_eq_some (hsections.trans (List.nil_append _).symm) (List.forall_mem_nil _)
      (Nat.zero_le _) hafter, Nat.zero_add]
    rfl
  · refine lineOrigin?_of_mem_layOut hsections ?_ he
    intro a ha
    rw [List.mem_singleton.mp ha]
    exact Nat.zero_le _

end ShaderDepot.CompileUnit
