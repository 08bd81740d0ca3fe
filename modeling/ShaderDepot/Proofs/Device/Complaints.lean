import ShaderDepot.Device.Compiler
import ShaderDepot.Proofs.Text.Lines

/-!
# What the compiler complains about

A text of lines that begins with a version line draws one complaint for each of its `#error` lines, in
their order (`complaints_writeLines`).
-/

namespace ShaderDepot.Compiler

open Text

variable {line : List Char} {lines lines' : List (List Char)}

/-- The numbers of the `#error` lines among some lines, of which the first has the number `first`, and
what stands in them after the word. -/
def errorLines (first : Nat) (lines : List (List Char)) : List (Nat × List Char) :=
  (lines.zipIdx first).filterMap fun e => (after? "#error" (trimStart e.1)).map (e.2, ·)

def IsError (line : List Char) : Prop := "#error".toList <+: trimStart line

instance : DecidablePred IsError := fun _ => inferInstanceAs (Decidable (_ <+: _))

/-! ## What follows a word -/

theorem after?_eq_some_iff {word : String} {s rest : List Char} :
    after? word s = some rest ↔ word.toList ++ rest = s := List.isPrefixOf?_eq_some_iff_append_eq

theorem after?_append (word : String) (s : List Char) : after? word (word.toList ++ s) = some s :=
  after?_eq_some_iff.mpr rfl

theorem isSome_after?_iff {word : String} {s : List Char} :
    (after? word s).isSome ↔ word.toList <+: s := by
  rw [Option.isSome_iff_exists]
  exact exists_congr fun rest => after?_eq_some_iff

theorem trimStart_dropFinalReturn (s : List Char) :
    trimStart (dropFinalReturn s) = dropFinalReturn (trimStart s) := by
  by_cases h : s.getLast? = some '\r'
  · have hs : s = s.dropLast ++ ['\r'] := (List.dropLast_append_getLast? '\r' h).symm
    rw [hs, dropFinalReturn_concat, trimStart, trimStart, List.dropWhile_append]
    split
    · next hblank =>
      -- The return is blank, so nothing is left of the line in either order.
      rw [List.isEmpty_iff.mp hblank]
      rfl
    · rw [dropFinalReturn_concat]
  · have hs : dropFinalReturn s = s := if_neg h
    rw [hs, trimStart, dropFinalReturn, if_neg]
    intro hlast
    have hne : s.dropWhile isBlank ≠ [] := by
      intro e
      rw [e] at hlast
      cases hlast
    have happend := List.takeWhile_append_dropWhile (p := isBlank) (l := s)
    rw [← happend, List.getLast?_append_of_ne_nil _ hne] at h
    exact h hlast

/-- A return at the end of a line stands behind the word that the line begins with. -/
theorem after?_dropFinalReturn {word : String} (hw : word.toList.getLast? ≠ some '\r') (s : List Char) :
    after? word (dropFinalReturn s) = (after? word s).map dropFinalReturn := by
  cases h : after? word s with
  | some rest =>
    obtain rfl := after?_eq_some_iff.mp h
    rw [dropFinalReturn_append hw, after?_append]
    rfl
  | none =>
    rw [Option.map_none]
    cases h' : after? word (dropFinalReturn s) with
    | none => rfl
    | some rest =>
      have hprefix : word.toList <+: dropFinalReturn s := ⟨rest, after?_eq_some_iff.mp h'⟩
      have hfull : word.toList <+: s := hprefix.trans (by
        rw [dropFinalReturn]
        split
        · exact List.dropLast_prefix s
        · exact List.prefix_refl s)
      rw [← isSome_after?_iff, h] at hfull
      cases hfull

/-! ## Error lines -/

theorem isError_cons_iff {c : Char} {line : List Char} (hc : isBlank c = false) :
    IsError (c :: line) ↔ "#error".toList <+: c :: line := by
  rw [IsError, trimStart, List.dropWhile_cons_of_neg]
  rw [hc]
  exact Bool.false_ne_true

theorem not_isError_nil : ¬IsError [] := by decide

/-- A directive of another name is no error. -/
theorem not_isError_directive {c : Char} (hc : c ≠ 'e') (line : List Char) :
    ¬IsError ('#' :: c :: line) := by
  rw [isError_cons_iff (by decide)]
  intro h
  exact hc (List.cons_prefix_cons.mp (List.cons_prefix_cons.mp h).2).1.symm

theorem errorLines_append (first : Nat) (lines lines' : List (List Char)) :
    errorLines first (lines ++ lines') =
      errorLines first lines ++ errorLines (first + lines.length) lines' := by
  rw [errorLines, List.zipIdx_append, List.filterMap_append]
  rfl

theorem errorLines_cons (first : Nat) (line : List Char) (lines : List (List Char)) :
    errorLines first (line :: lines) =
      ((after? "#error" (trimStart line)).map (first, ·)).toList ++ errorLines (first + 1) lines := by
  simp only [errorLines, List.zipIdx_cons, List.filterMap_cons]
  cases after? "#error" (trimStart line) <;> rfl

/-- Counting from another line shifts the numbers. -/
theorem errorLines_add (first k : Nat) (lines : List (List Char)) :
    errorLines (k + first) lines = (errorLines first lines).map fun e => (k + e.1, e.2) := by
  induction lines generalizing first with
  | nil => rfl
  | cons line lines ih =>
    rw [errorLines_cons, errorLines_cons, List.map_append, ← ih (first + 1), Nat.add_assoc]
    cases after? "#error" (trimStart line) <;> rfl

theorem mem_errorLines {first : Nat} {e : Nat × List Char} :
    e ∈ errorLines first lines ↔ ∃ i line, lines[i]? = some line ∧ e.1 = first + i ∧
      "#error".toList ++ e.2 = trimStart line := by
  rw [errorLines, List.mem_filterMap]
  constructor
  · rintro ⟨⟨line, n⟩, hm, he⟩
    obtain ⟨rest, hrest, rfl⟩ := Option.map_eq_some_iff.mp he
    obtain ⟨hle, hget⟩ := List.mk_mem_zipIdx_iff_le_and_getElem?_sub.mp hm
    exact ⟨n - first, line, hget, (Nat.add_sub_cancel' hle).symm, after?_eq_some_iff.mp hrest⟩
  · rintro ⟨i, line, hget, hn, hrest⟩
    refine ⟨(line, first + i), ?_, ?_⟩
    · rw [List.mk_mem_zipIdx_iff_le_and_getElem?_sub, Nat.add_sub_cancel_left]
      exact ⟨Nat.le_add_right .., hget⟩
    · simp only [after?_eq_some_iff.mpr hrest, Option.map_some, ← hn]

theorem errorLines_eq_nil_iff {first : Nat} :
    errorLines first lines = [] ↔ ∀ line ∈ lines, ¬IsError line := by
  rw [errorLines, List.filterMap_eq_nil_iff]
  constructor
  · intro h line hl he
    obtain ⟨i, hi⟩ := List.mem_iff_getElem?.mp hl
    have hnone := h (line, first + i) (by
      rw [List.mk_mem_zipIdx_iff_le_and_getElem?_sub, Nat.add_sub_cancel_left]
      exact ⟨Nat.le_add_right .., hi⟩)
    rw [Option.map_eq_none_iff] at hnone
    have hsome := isSome_after?_iff.mpr he
    rw [hnone] at hsome
    cases hsome
  · rintro h ⟨line, n⟩ hm
    have hline := h line (List.mem_of_getElem? (List.mk_mem_zipIdx_iff_le_and_getElem?_sub.mp hm).2)
    rw [IsError, ← isSome_after?_iff, Option.not_isSome_iff_eq_none] at hline
    simp only [hline, Option.map_none]

/-- Lines that are no errors may be left out at the end. -/
theorem errorLines_append_of_not {rest : List (List Char)} (h : ∀ line ∈ rest, ¬IsError line)
    (first : Nat) (lines : List (List Char)) :
    errorLines first (lines ++ rest) = errorLines first lines := by
  rw [errorLines_append, errorLines_eq_nil_iff.mpr h, List.append_nil]

/-- The empty piece that a body leaves out is no error. -/
theorem errorLines_bodyLines (first : Nat) (s : List Char) :
    errorLines first (Text.bodyLines s) = errorLines first (s.splitOn '\n') := by
  obtain ⟨rest, hsplit, hrest⟩ := splitOn_eq_bodyLines s
  rw [hsplit, errorLines_append_of_not]
  intro line hl
  rw [hrest line hl]
  exact not_isError_nil

/-- Lines may be changed that are no errors before or after. -/
theorem errorLines_map {f : List Char → List Char}
    (hf : ∀ line ∈ lines, after? "#error" (trimStart (f line)) = after? "#error" (trimStart line))
    (first : Nat) : errorLines first (lines.map f) = errorLines first lines := by
  induction lines generalizing first with
  | nil => rfl
  | cons line lines ih =>
    rw [List.map_cons, errorLines_cons, errorLines_cons, hf line (List.mem_cons_self ..),
      ih fun l hl => hf l (List.mem_cons_of_mem _ hl)]

/-! ## Complaints -/

/-- A complaint about an `#error` line says what the line says, but for a return at its end. -/
def complaintOf (e : Nat × List Char) : Complaint :=
  ⟨e.1, "#error" ++ String.ofList (dropFinalReturn e.2)⟩

theorem filterMap_lineComplaint? (i : Nat) (lines : List (List Char)) :
    ((lines.map dropFinalReturn).zipIdx i).filterMap (fun (line, i) => lineComplaint? line i) =
      (errorLines (i + 1) lines).map complaintOf := by
  induction lines generalizing i with
  | nil => rfl
  | cons line lines ih =>
    have hfirst : lineComplaint? (dropFinalReturn line) i =
        (after? "#error" (trimStart line)).map fun rest => complaintOf (i + 1, rest) := by
      rw [lineComplaint?, trimStart_dropFinalReturn, after?_dropFinalReturn (by decide), Option.map_map]
      rfl
    simp only [List.map_cons, List.zipIdx_cons, List.filterMap_cons, hfirst, ih, errorLines_cons]
    cases after? "#error" (trimStart line) <;> rfl

theorem complaints_writeLines (hlines : ∀ line ∈ lines, '\n' ∉ line)
    (hversion : ∃ rest, lines.head? = some ("#version".toList ++ rest)) :
    complaints (writeLines lines) = (errorLines 1 lines).map complaintOf := by
  obtain ⟨rest, hhead⟩ := hversion
  obtain ⟨more, rfl⟩ := List.head?_eq_some_iff.mp hhead
  have hfront :
      (after? "#version" (trimStart (writeLines (("#version".toList ++ rest) :: more)))).isSome := by
    rw [isSome_after?_iff]
    exact ⟨rest ++ ['\n'] ++ writeLines more, by rfl⟩
  rw [complaints, if_pos hfront, List.nil_append, logLines_writeLines hlines]
  exact filterMap_lineComplaint? 0 _

end ShaderDepot.Compiler
