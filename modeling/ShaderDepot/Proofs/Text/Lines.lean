import Mathlib.Data.List.Basic
import ShaderDepot.Proofs.Text.Pieces

/-!
# Lines of a text

Lines without line feeds that are written one after the other, each ended by a line feed, are read back
as they were, but for a carriage return at the end of a line.  Every text has lines as a log, and one way
only to have them (`logLines_eq_iff`).
-/

namespace ShaderDepot.Text

variable {s : List Char} {line : List Char} {lines : List (List Char)}

/-- Lines, each ended by a line feed. -/
def writeLines (lines : List (List Char)) : List Char := lines.flatMap (· ++ ['\n'])

theorem writeLines_cons (line : List Char) (lines : List (List Char)) :
    writeLines (line :: lines) = line ++ '\n' :: writeLines lines := by
  rw [writeLines, List.flatMap_cons, List.append_assoc]
  rfl

/-- A line feed ends every line, and others stand within lines. -/
theorem splitOn_writeLines_eq_flatMap (lines : List (List Char)) :
    (writeLines lines).splitOn '\n' = lines.flatMap (·.splitOn '\n') ++ [[]] := by
  induction lines with
  | nil => exact List.splitOn_nil '\n'
  | cons line lines ih =>
    rw [writeLines_cons, splitOn_append_cons, ih, List.flatMap_cons, List.append_assoc]

theorem flatMap_splitOn (h : ∀ line ∈ lines, '\n' ∉ line) :
    lines.flatMap (·.splitOn '\n') = lines := by
  have hpieces : ∀ line ∈ lines, line.splitOn '\n' = [line] :=
    fun line hl => List.splitOn_eq_singleton (h line hl)
  rw [List.flatMap_congr hpieces, List.flatMap_singleton']

theorem splitOn_writeLines (h : ∀ line ∈ lines, '\n' ∉ line) :
    (writeLines lines).splitOn '\n' = lines ++ [[]] := by
  rw [splitOn_writeLines_eq_flatMap, flatMap_splitOn h]

theorem finishLines_cons (line : List Char) (hne : lines ≠ []) :
    finishLines (line :: lines) = dropFinalReturn line :: finishLines lines := by
  rw [finishLines]
  exact fun h => hne h

theorem finishLines_append_nil (lines : List (List Char)) :
    finishLines (lines ++ [[]]) = lines.map dropFinalReturn := by
  induction lines with
  | nil => rfl
  | cons line lines ih =>
    have hmore := List.append_ne_nil_of_right_ne_nil lines (List.cons_ne_nil [] [])
    rw [List.cons_append, finishLines_cons line hmore, ih, List.map_cons]

theorem logLines_writeLines (h : ∀ line ∈ lines, '\n' ∉ line) :
    logLines (writeLines lines) = lines.map dropFinalReturn := by
  rw [logLines, splitOn_writeLines h, finishLines_append_nil]

/-- Nothing but an empty piece at the end is left out of the lines of a body. -/
theorem splitOn_eq_bodyLines (s : List Char) :
    ∃ rest, s.splitOn '\n' = bodyLines s ++ rest ∧ ∀ line ∈ rest, line = [] := by
  rw [bodyLines, dropFinalFeed]
  split
  · next h =>
    have hs : s = s.dropLast ++ ['\n'] := (List.dropLast_append_getLast? '\n' h).symm
    refine ⟨[[]], ?_, fun line hl => List.mem_singleton.mp hl⟩
    conv_lhs => rw [hs]
    rw [splitOn_append_cons, List.splitOn_nil]
  · exact ⟨[], (List.append_nil _).symm, fun line hl => nomatch hl⟩

/-- Dropping the returns before line feeds takes no more from a line than a return at its end. -/
theorem forall₂_splitOn_dropReturns (s : List Char) :
    List.Forall₂ (fun line line' => line = line' ∨ line = line' ++ ['\r'])
      (s.splitOn '\n') ((dropReturns s).splitOn '\n') := by
  induction s using dropReturns.induct with
  | case1 s ih =>
    have hfeed : ('\r' :: '\n' :: s).splitOn '\n' = ['\r'] :: s.splitOn '\n' :=
      splitOn_append_cons ['\r'] s
    rw [dropReturns, hfeed, splitOn_cons, if_pos rfl]
    exact .cons (.inr rfl) ih
  | case2 c s hc ih =>
    rw [dropReturns, splitOn_cons, splitOn_cons]
    · split
      · exact .cons (.inl rfl) ih
      · obtain ⟨line, lines, hs⟩ := List.exists_cons_of_ne_nil (splitOn_ne_nil '\n' s)
        obtain ⟨line', lines', hs'⟩ :=
          List.exists_cons_of_ne_nil (splitOn_ne_nil '\n' (dropReturns s))
        rw [hs, hs'] at ih ⊢
        obtain ⟨hline, hlines⟩ := List.forall₂_cons.mp ih
        refine .cons (hline.imp (fun e => ?_) fun e => ?_) hlines
        · rw [e]
        · rw [e, List.cons_append]
    · exact hc
  | case3 => exact .cons (.inl rfl) .nil

theorem not_mem_of_mem_bodyLines (h : line ∈ bodyLines s) : '\n' ∉ line :=
  not_mem_of_mem_splitOn h

theorem dropFinalReturn_sublist (s : List Char) : (dropFinalReturn s).Sublist s := by
  rw [dropFinalReturn]
  split
  · exact List.dropLast_sublist s
  · exact List.Sublist.refl s

theorem dropFinalReturn_concat (s : List Char) : dropFinalReturn (s ++ ['\r']) = s := by
  rw [dropFinalReturn, List.getLast?_concat, if_pos rfl, List.dropLast_concat]

/-- A return is dropped at the end of the rest, if there is none before the rest. -/
theorem dropFinalReturn_append (hs : s.getLast? ≠ some '\r') (t : List Char) :
    dropFinalReturn (s ++ t) = s ++ dropFinalReturn t := by
  by_cases ht : t = []
  · rw [ht, List.append_nil, dropFinalReturn, if_neg hs]
    exact (List.append_nil s).symm
  · rw [dropFinalReturn, dropFinalReturn, List.getLast?_append_of_ne_nil s ht]
    split
    · exact List.dropLast_append_of_ne_nil ht
    · rfl

/-! ## Lines of a log -/

/-- The text consists of these lines, each ended by a line feed or by a return and a line feed.  What follows
the last line feed is a line too, if there is anything. -/
inductive LogLines : List Char → List (List Char) → Prop
  | nil : LogLines [] []
  | rest {line : List Char} (hne : line ≠ []) (hfeed : '\n' ∉ line) : LogLines line [line]
  | ended {line s : List Char} {lines : List (List Char)} (hfeed : '\n' ∉ line)
      (hreturn : line.getLast? ≠ some '\r') (hs : LogLines s lines) :
      LogLines (line ++ '\n' :: s) (line :: lines)
  | returned {line s : List Char} {lines : List (List Char)} (hfeed : '\n' ∉ line)
      (hs : LogLines s lines) : LogLines (line ++ '\r' :: '\n' :: s) (line :: lines)

theorem LogLines.finishLines_eq (h : LogLines s lines) : finishLines (s.splitOn '\n') = lines := by
  induction h with
  | nil => rfl
  | rest hne hfeed => rw [List.splitOn_eq_singleton hfeed, finishLines, if_neg hne]
  | ended hfeed hreturn hs ih =>
    rw [splitOn_cut hfeed, finishLines_cons _ (splitOn_ne_nil _ _), dropFinalReturn, if_neg hreturn, ih]
  | @returned line s lines hfeed hs ih =>
    -- Up to the line feed the text is the line and its return.
    have hcut : '\n' ∉ line ++ ['\r'] := by
      simp only [List.mem_append, not_or]
      exact ⟨hfeed, by decide⟩
    rw [List.append_cons, splitOn_cut hcut, finishLines_cons _ (splitOn_ne_nil _ _),
      dropFinalReturn_concat, ih]

theorem logLines_joinWith (h : ∀ line ∈ lines, '\n' ∉ line) :
    LogLines (joinWith '\n' lines) (finishLines lines) := by
  induction lines with
  | nil => exact .nil
  | cons line lines ih =>
    obtain ⟨hline, hlines⟩ := List.forall_mem_cons.mp h
    by_cases hlast : lines = []
    · subst hlast
      rw [joinWith, List.intercalate_singleton, finishLines]
      split
      · next hempty =>
        rw [hempty]
        exact .nil
      · next hne => exact .rest hne hline
    · rw [joinWith_cons '\n' line hlast, finishLines_cons line hlast, dropFinalReturn]
      split
      · next hreturn =>
        -- The return that ends the piece stands directly before the line feed.
        have hcut : line = line.dropLast ++ ['\r'] := (List.dropLast_append_getLast? '\r' hreturn).symm
        have hfeed : '\n' ∉ line.dropLast := fun hc => hline ((List.dropLast_sublist line).subset hc)
        have hended := LogLines.returned hfeed (ih hlines)
        rwa [List.append_cons, ← hcut] at hended
      · next hreturn => exact .ended hline hreturn (ih hlines)

theorem logLines_eq_iff : logLines s = lines ↔ LogLines s lines := by
  constructor
  · rintro rfl
    have hlines : LogLines (joinWith '\n' (s.splitOn '\n')) (logLines s) :=
      logLines_joinWith fun _ hl => not_mem_of_mem_splitOn hl
    rwa [joinWith, List.intercalate_splitOn] at hlines
  · exact LogLines.finishLines_eq

end ShaderDepot.Text
