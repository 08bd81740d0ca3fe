import ShaderDepot.Directive
import ShaderDepot.Proofs.Device.Complaints
import ShaderDepot.Proofs.Path

/-!
# What a scan leaves in place

A scan puts comments in the place of directives and leaves every other line where it is, so the `#error`
lines of a scanned text are those of the source (`errorLines_bodyLines_ofSource`).
-/

namespace ShaderDepot

open Text Compiler

namespace Directive

variable {keyword line argument : List Char} {d : Directive}

theorem argument?_eq_some_iff : argument? keyword line = some argument ↔
    ∃ c rest, trimStart line = '#' :: (keyword ++ c :: rest) ∧ isBlank c = true ∧
      trim rest = argument ∧ argument ≠ [] := by
  rw [argument?]
  constructor
  · intro h
    split at h
    · next rest htrim =>
      split at h
      · next c rest' hprefix =>
        simp only at h
        split at h
        · next hc =>
          obtain rfl := List.isPrefixOf?_eq_some_iff_append_eq.mp hprefix
          obtain rfl := Option.some.inj h
          exact ⟨c, rest', htrim, hc.1, rfl, hc.2⟩
        · cases h
      · cases h
    · cases h
  · rintro ⟨c, rest, htrim, hc, rfl, hne⟩
    rw [htrim]
    simp only
    rw [List.isPrefixOf?_eq_some_iff_append_eq.mpr rfl]
    exact if_pos ⟨hc, hne⟩

theorem after?_error_of_argument? {c : Char} (hc : c ≠ 'e')
    (h : argument? (c :: keyword) line = some argument) :
    after? "#error" (trimStart line) = none := by
  obtain ⟨b, rest, htrim, -⟩ := argument?_eq_some_iff.mp h
  rw [← Option.not_isSome_iff_eq_none, isSome_after?_iff, htrim]
  intro hprefix
  exact hc (List.cons_prefix_cons.mp (List.cons_prefix_cons.mp hprefix).2).1.symm

/-- A directive is no `#error` line, and neither is the comment in its place. -/
theorem after?_error_markLine (line : List Char) :
    after? "#error" (trimStart (markLine line)) = after? "#error" (trimStart line) := by
  rw [markLine]
  cases hd : ofLine? line with
  | none => rfl
  | some d =>
    rw [ofLine?] at hd
    split at hd
    · next argument hversion =>
      obtain rfl := Option.some.inj hd
      exact (after?_error_of_argument? (by decide) hversion).symm
    · obtain ⟨argument, hinclude, rfl⟩ := Option.map_eq_some_iff.mp hd
      exact (after?_error_of_argument? (by decide) hinclude).symm

theorem not_mem_markLine (h : '\n' ∉ line) : '\n' ∉ markLine line := by
  rw [markLine]
  cases ofLine? line with
  | none => exact h
  | some d =>
    cases d with
    | version argument => exact (by decide : '\n' ∉ "//#version".toList)
    | inclusion argument => exact (by decide : '\n' ∉ "//#include".toList)

end Directive

namespace ScannedText

open Directive

theorem not_mem_of_mem_sourceLines {source line : List Char} (h : line ∈ sourceLines source) :
    '\n' ∉ line := not_mem_of_mem_splitOn h

/-- The lines of a scanned text are those of the source, with the directives marked. -/
theorem splitOn_text (source : String) : (ofSource source).text.toList.splitOn '\n' =
    (sourceLines source.toList).map markLine := by
  show (String.ofList (joinWith '\n' _)).toList.splitOn '\n' = _
  rw [String.toList_ofList, splitOn_joinWith]
  · rw [ne_eq, List.map_eq_nil_iff]
    exact splitOn_ne_nil '\n' _
  · intro p hp
    obtain ⟨line, hl, rfl⟩ := List.mem_map.mp hp
    exact not_mem_markLine (not_mem_of_mem_sourceLines hl)

theorem errorLines_bodyLines_ofSource (first : Nat) (source : String) :
    errorLines first (Text.bodyLines (ofSource source).text.toList) =
      errorLines first (sourceLines source.toList) := by
  rw [errorLines_bodyLines, splitOn_text]
  exact errorLines_map (fun line _ => after?_error_markLine line) first

/-- The version that a text names stands in one line. -/
theorem not_mem_version {source version : String} (h : (ofSource source).version = some version) :
    '\n' ∉ version.toList := by
  obtain ⟨argument, hhead, rfl⟩ := Option.map_eq_some_iff.mp h
  obtain ⟨d, hd, hversion⟩ := List.mem_filterMap.mp (List.mem_of_head? hhead)
  obtain ⟨line, hl, hline⟩ := List.mem_filterMap.mp hd
  cases d with
  | inclusion included => cases hversion
  | version named =>
    obtain rfl := Option.some.inj hversion
    have hargument : argument? "version".toList line = some named := by
      rw [ofLine?] at hline
      split at hline
      · next h =>
        cases hline
        exact h
      · obtain ⟨included, -, hne⟩ := Option.map_eq_some_iff.mp hline
        cases hne
    obtain ⟨c, rest, htrim, -, rfl, -⟩ := argument?_eq_some_iff.mp hargument
    rw [String.toList_ofList]
    intro hc
    -- The argument is a part of the line.
    have hline' : '\n' ∈ trimStart line := by
      rw [htrim]
      exact List.mem_cons_of_mem _ (List.mem_append_right _
        (List.mem_cons_of_mem _ ((trim_sublist rest).subset hc)))
    exact not_mem_of_mem_sourceLines hl ((List.dropWhile_sublist _).subset hline')

end ScannedText

end ShaderDepot
