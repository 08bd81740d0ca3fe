import ShaderDepot.Proofs.CompileUnit.Reports
import ShaderDepot.Proofs.CompileUnit.Sections

/-!
# The log of a unit that does not compile

The compiler's log of a unit has one line for each `#error` line, with the line's number in the unit.
Both styles of the log are read back to this number, and under each line of the log stands where the
line is in the author's text (`localizeLog_assemble`).
-/

namespace ShaderDepot

open Text Compiler

namespace LogStyle

/-- A line of a log, but for the line feed at its end. -/
def lineOf (style : LogStyle) (c : Complaint) : List Char :=
  match style with
  | labeled => "ERROR:".toList ++ " 0".toList ++ ':' :: ((toString c.line).toList ++ ':' ::
      (' ' :: c.message.toList))
  | terse => "0".toList ++ '(' :: ((toString c.line).toList ++ ')' ::
      (" : error C0000: ".toList ++ c.message.toList))

theorem lineOf_labeled (c : Complaint) : labeled.lineOf c =
    "ERROR:".toList ++ " 0".toList ++ ':' :: ((toString c.line).toList ++ ':' ::
      (' ' :: c.message.toList)) := rfl

theorem lineOf_terse (c : Complaint) : terse.lineOf c =
    "0".toList ++ '(' :: ((toString c.line).toList ++ ')' ::
      (" : error C0000: ".toList ++ c.message.toList)) := rfl

theorem toList_render (style : LogStyle) (c : Complaint) :
    (style.render c).toList = style.lineOf c ++ ['\n'] := by
  cases style with
  | labeled =>
    rw [render, lineOf_labeled]
    simp only [String.toList_append, List.append_assoc, List.cons_append]
    rfl
  | terse =>
    rw [render, lineOf_terse]
    simp only [String.toList_append, List.append_assoc, List.cons_append]
    rfl

theorem render_eq (style : LogStyle) (c : Complaint) :
    style.render c = String.ofList (style.lineOf c) ++ "\n" := by
  apply String.toList_injective
  rw [toList_render, String.toList_append, String.toList_ofList]
  rfl

end LogStyle

namespace CompileUnit

variable {u : CompileUnit} {version header : String} {defines : List Define}
  {sections : List (String × String)} {style : LogStyle}

/-! ## Numbers in a log -/

theorem reports_lineOf (style : LogStyle) (c : Complaint) : Reports (style.lineOf c) c.line := by
  have hnumber := decimal_toString c.line
  cases style with
  | labeled =>
    have hlabeled := @Labeled.intro " 0".toList [] _ [] (':' :: ' ' :: c.message.toList) c.line (by decide)
      blank_nil hnumber blank_nil (fun a ha => (Option.some.inj ha).symm)
    rw [List.nil_append, List.append_nil] at hlabeled
    rw [LogStyle.lineOf_labeled, List.append_assoc]
    exact .inl hlabeled
  | terse =>
    have hsource : Digits "0".toList := ⟨by decide, List.all_eq_true.mp (by decide)⟩
    exact .inr (.intro blank_nil hsource hnumber)

theorem reportedLine?_lineOf {c : Complaint} (style : LogStyle) (h : c.line < lineBound) :
    reportedLine? (style.lineOf c) = some c.line :=
  reportedLine?_eq_some_iff.mpr ⟨reports_lineOf style c, h⟩

/-! ## The lines of a log -/

/-- What is put into the lines of a unit has no line feed in it. -/
structure FeedFree (version : String) (defines : List Define) (sections : List (String × String)) :
    Prop where
  version : '\n' ∉ version.toList
  defines : ∀ d ∈ defines, '\n' ∉ d.name.toList ∧ '\n' ∉ d.value.toList
  labels : ∀ e ∈ sections, '\n' ∉ e.1.toList

theorem not_mem_layOut (h : ∀ e ∈ sections, '\n' ∉ e.1.toList) (k : Nat) :
    ∀ line ∈ (layOut k sections).1.map String.toList, '\n' ∉ line := by
  induction sections generalizing k with
  | nil => exact fun line hl => nomatch hl
  | cons file sections ih =>
    intro line hl
    rw [layOut, List.map_append, List.map_cons, map_toList_bodyLines] at hl
    rcases List.mem_append.mp hl with hl | hl
    · rcases List.mem_cons.mp hl with rfl | hl
      · have hlabel := h file (List.mem_cons_self ..)
        simp only [toList_fileMarker, List.mem_cons, List.mem_append, not_or]
        exact ⟨by decide, ⟨by decide, hlabel⟩, by decide⟩
      · exact not_mem_of_mem_bodyLines hl
    · exact ih (fun e he => h e (List.mem_cons_of_mem _ he)) _ line hl

theorem FeedFree.not_mem_unitLines (h : FeedFree version defines sections) (header : String) :
    ∀ line ∈ unitLines version header defines sections, '\n' ∉ line := by
  intro line hl
  rw [unitLines, List.map_append, map_toList_preamble] at hl
  rcases List.mem_append.mp hl with hl | hl
  · rcases List.mem_cons.mp hl with rfl | hl
    · simp only [toList_versionLine, List.mem_cons, List.mem_append, not_or]
      exact ⟨by decide, by decide, by decide, h.version⟩
    · rcases List.mem_append.mp hl with hl | hl
      · rw [headerLines] at hl
        split at hl
        · cases hl
        · exact not_mem_of_mem_bodyLines hl
      · obtain ⟨d, hd, rfl⟩ := List.mem_map.mp hl
        obtain ⟨hname, hvalue⟩ := h.defines d hd
        simp only [toList_defineLine, List.mem_cons, List.mem_append, not_or]
        exact ⟨by decide, by decide, ⟨⟨by decide, hname⟩, by decide, List.not_mem_nil⟩, hvalue⟩
  · exact not_mem_layOut h.labels _ line hl

theorem head?_unitLines (version header : String) (defines : List Define)
    (sections : List (String × String)) : ∃ rest,
      (unitLines version header defines sections).head? = some ("#version".toList ++ rest) := by
  rw [unitLines, List.map_append, map_toList_preamble, toList_versionLine]
  exact ⟨' ' :: version.toList, rfl⟩

/-- The complaints about a unit are about the `#error` lines of its header and its files. -/
theorem complaints_assemble (h : FeedFree version defines sections) (header : String) :
    complaints (assemble version header defines sections).text.toList =
      (locate (assemble version header defines sections).sections (allErrors header sections)).map
        fun e => complaintOf (e.1.start + e.2.1, e.2.2) := by
  rw [toList_text_assemble, complaints_writeLines (h.not_mem_unitLines header) (head?_unitLines ..),
    errorLines_unitLines, List.map_map]
  rfl

theorem length_le_writeLines (lines : List (List Char)) : lines.length ≤ (writeLines lines).length := by
  induction lines with
  | nil => exact Nat.le_refl 0
  | cons line lines ih =>
    rw [writeLines, List.flatMap_cons, ← writeLines, List.length_cons, List.length_append,
      List.length_append, List.length_singleton]
    omega

theorem mem_errorLines_of_mem_locate {e : SectionStart × Nat × List Char}
    (he : e ∈ locate (assemble version header defines sections).sections (allErrors header sections)) :
    (e.1.start + e.2.1, e.2.2) ∈ errorLines 1 (unitLines version header defines sections) := by
  rw [errorLines_unitLines]
  exact List.mem_map.mpr ⟨e, he, rfl⟩

/-- What a complaint says stands in a line of the unit. -/
theorem not_mem_message_of_mem_locate (h : FeedFree version defines sections)
    {e : SectionStart × Nat × List Char}
    (he : e ∈ locate (assemble version header defines sections).sections (allErrors header sections)) :
    '\n' ∉ (complaintOf (e.1.start + e.2.1, e.2.2)).message.toList := by
  obtain ⟨i, line, hget, -, htrim⟩ := mem_errorLines.mp (mem_errorLines_of_mem_locate he)
  intro hc
  simp only [complaintOf, String.toList_append, String.toList_ofList, List.mem_append] at hc
  have hrest : '\n' ∈ e.2.2 := (dropFinalReturn_sublist _).subset (hc.resolve_left (by decide))
  have hline : '\n' ∈ trimStart line := htrim ▸ List.mem_append_right _ hrest
  exact h.not_mem_unitLines header line (List.mem_of_getElem? hget)
    ((List.dropWhile_sublist _).subset hline)

/-- A unit has no more lines than characters. -/
theorem lt_lineBound_of_mem_locate
    (hbound : (assemble version header defines sections).text.length < lineBound)
    {e : SectionStart × Nat × List Char}
    (he : e ∈ locate (assemble version header defines sections).sections (allErrors header sections)) :
    e.1.start + e.2.1 < lineBound := by
  obtain ⟨i, line, hget, hi, -⟩ := mem_errorLines.mp (mem_errorLines_of_mem_locate he)
  have hlt : i < (unitLines version header defines sections).length :=
    (List.getElem?_eq_some_iff.mp hget).1
  have hle := length_le_writeLines (unitLines version header defines sections)
  rw [← toList_text_assemble, String.length_toList] at hle
  simp only at hi
  omega

/-! ## The localized log -/

/-- What an `#error` line is in a localized log: the line of the log, of which a return at the end was
cut once more, and the line under it. -/
def report (style : LogStyle) (e : SectionStart × Nat × List Char) : String :=
  let said := String.ofList (dropFinalReturn (dropFinalReturn e.2.2))
  style.render ⟨e.1.start + e.2.1, "#error" ++ said⟩ ++
    s!"At: {LineOrigin.display ⟨e.2.1, e.1.label⟩}\n"

theorem dropFinalReturn_lineOf (style : LogStyle) (n : Nat) (rest : List Char) :
    dropFinalReturn (style.lineOf ⟨n, "#error" ++ String.ofList rest⟩) =
      style.lineOf ⟨n, "#error" ++ String.ofList (dropFinalReturn rest)⟩ := by
  obtain ⟨front, hfront⟩ : ∃ front, ∀ message : String,
      style.lineOf ⟨n, message⟩ = front ++ message.toList := by
    cases style with
    | labeled =>
      refine ⟨"ERROR:".toList ++ " 0".toList ++ ':' :: ((toString n).toList ++ [':', ' ']),
        fun message => ?_⟩
      simp only [LogStyle.lineOf_labeled, List.append_assoc, List.cons_append, List.nil_append]
    | terse =>
      refine ⟨"0".toList ++ '(' :: ((toString n).toList ++ ')' :: " : error C0000: ".toList),
        fun message => ?_⟩
      simp only [LogStyle.lineOf_terse, List.append_assoc, List.cons_append]
  -- The word ends in no return, so the one that is cut stands behind it.
  have hword : (front ++ "#error".toList).getLast? ≠ some '\r' := by
    rw [List.getLast?_append_of_ne_nil _ (by decide)]
    decide
  simp only [hfront, String.toList_append, String.toList_ofList, ← List.append_assoc]
  exact dropFinalReturn_append hword rest

theorem localizeLine_lineOf {c : Complaint} {origin : LineOrigin} (style : LogStyle)
    (hbound : c.line < lineBound) (horigin : u.lineOrigin? c.line = some origin) :
    u.localizeLine (style.lineOf c) = style.render c ++ s!"At: {origin.display}\n" := by
  rw [localizeLine, reportedLine?_lineOf style hbound, Option.bind_some, horigin, style.render_eq]

theorem not_mem_lineOf {c : Complaint} (style : LogStyle) (h : '\n' ∉ c.message.toList) :
    '\n' ∉ style.lineOf c := by
  have hnumber : '\n' ∉ (toString c.line).toList := (digits_toString _).not_mem (by decide)
  cases style with
  | labeled =>
    simp only [LogStyle.lineOf_labeled, List.mem_append, List.mem_cons, not_or]
    exact ⟨by decide, by decide, hnumber, by decide, by decide, h⟩
  | terse =>
    simp only [LogStyle.lineOf_terse, List.mem_append, List.mem_cons, not_or]
    exact ⟨by decide, by decide, hnumber, by decide, by decide, h⟩

theorem localizeLog_writeLines (u : CompileUnit) {lines : List (List Char)}
    (h : ∀ line ∈ lines, '\n' ∉ line) {log : String} (hlog : log.toList = writeLines lines) :
    u.localizeLog log = String.join (lines.map fun line => u.localizeLine (dropFinalReturn line)) := by
  rw [localizeLog, hlog, logLines_writeLines h, List.map_map]
  rfl

/-- The localized log of a unit has for each `#error` line, in the order of the unit, one line with its
number in the unit, and directly under it where the line stands in the header or a file. -/
theorem localizeLog_assemble (h : FeedFree version defines sections)
    (hbound : (assemble version header defines sections).text.length < lineBound) (stage : Stage)
    (style : LogStyle) :
    (assemble version header defines sections).localizeLog
        ((Compiler.compile stage (assemble version header defines sections).text).log style) =
      String.join ((locate (assemble version header defines sections).sections
        (allErrors header sections)).map (report style)) := by
  have hcomplaints := complaints_assemble h header
  have hmessage := fun e => @not_mem_message_of_mem_locate version header defines sections h e
  have horigin := fun e => @lineOrigin?_of_mem_locate version header defines sections e
  have hnumber := fun e => @lt_lineBound_of_mem_locate version header defines sections hbound e
  generalize assemble version header defines sections = u at hcomplaints horigin hnumber hmessage ⊢
  generalize locate u.sections (allErrors header sections) = located
    at hcomplaints horigin hnumber hmessage ⊢
  let lines := located.map fun e => style.lineOf (complaintOf (e.1.start + e.2.1, e.2.2))
  have hlog : ((Compiler.compile stage u.text).log style).toList = writeLines lines := by
    show (String.join ((complaints u.text.toList).map style.render)).toList = _
    rw [hcomplaints, String.toList_join, List.map_map, List.flatMap_map, writeLines, List.flatMap_map]
    exact List.flatMap_congr fun e _ => style.toList_render _
  have hfeed : ∀ line ∈ lines, '\n' ∉ line := by
    intro line hl
    obtain ⟨e, he, rfl⟩ := List.mem_map.mp hl
    exact not_mem_lineOf style (hmessage e he)
  rw [localizeLog_writeLines u hfeed hlog, List.map_map]
  refine congrArg String.join (List.map_congr_left fun e he => ?_)
  show u.localizeLine (dropFinalReturn (style.lineOf (complaintOf (e.1.start + e.2.1, e.2.2)))) = _
  rw [complaintOf, dropFinalReturn_lineOf, localizeLine_lineOf style (hnumber e he) (horigin e he)]
  rfl

end CompileUnit

end ShaderDepot
