import Mathlib.Data.List.Basic
import ShaderDepot.CompileUnit
import ShaderDepot.Proofs.Text.Numeral
import ShaderDepot.Proofs.Text.Pieces
import ShaderDepot.Proofs.Text.Trim

/-!
# Numbers in a log

A line of a log reports a number of a line of the unit in one of two forms, and no line has both
(`Terse.not_labeled`).  Each number that is read is reported so, and each that is reported so is read
(`reportedLine?_eq_some_iff`).
-/

namespace ShaderDepot.CompileUnit

open Text

variable {line source s : List Char} {n m : Nat}

/-- `ERROR:source:line`, then nothing or `:` and anything.  There may be blanks around the number. -/
inductive Labeled : List Char → Nat → Prop
  | intro {source before numeral after rest : List Char} {n : Nat} (hsource : ':' ∉ source)
      (hbefore : Blank before) (hn : Decimal numeral n) (hafter : Blank after)
      (hrest : ∀ c, rest.head? = some c → c = ':') :
      Labeled ("ERROR:".toList ++ (source ++ ':' :: (before ++ numeral ++ after ++ rest))) n

/-- `source(line)`, then anything.  There may be blanks in front, and the source is a number itself. -/
inductive Terse : List Char → Nat → Prop
  | intro {indent source numeral rest : List Char} {n : Nat} (hindent : Blank indent)
      (hsource : Digits source) (hn : Decimal numeral n) :
      Terse (indent ++ (source ++ '(' :: (numeral ++ ')' :: rest))) n

def Reports (line : List Char) (n : Nat) : Prop := Labeled line n ∨ Terse line n

theorem lineBound_pos : 0 < lineBound := by decide

/-! ## The labeled form -/

/-- The number is read from the second field. -/
theorem labeledLine?_cut (h : ':' ∉ source) (s : List Char) :
    labeledLine? ("ERROR:".toList ++ (source ++ ':' :: s)) =
      numeral? lineBound (trim (s.takeWhile (· ≠ ':'))) := by
  obtain ⟨more, hmore⟩ := exists_splitOn_eq ':' s
  have hrest : "ERROR:".toList.isPrefixOf? ("ERROR:".toList ++ (source ++ ':' :: s)) =
      some (source ++ ':' :: s) := List.isPrefixOf?_eq_some_iff_append_eq.mpr rfl
  simp only [labeledLine?, hrest, splitOn_cut h, hmore]

theorem exists_cut_of_labeledLine? (h : labeledLine? line = some n) : ∃ source s,
    ':' ∉ source ∧ line = "ERROR:".toList ++ (source ++ ':' :: s) := by
  rw [labeledLine?] at h
  split at h
  · next rest hrest =>
    have hline := (List.isPrefixOf?_eq_some_iff_append_eq.mp hrest).symm
    rcases not_mem_or_cut ':' rest with hcolon | ⟨source, s, rfl, hcolon⟩
    · rw [List.splitOn_eq_singleton hcolon] at h
      cases h
    · exact ⟨source, s, hcolon, hline⟩
  · cases h

theorem labeledLine?_eq_some_iff : labeledLine? line = some n ↔ Labeled line n ∧ n < lineBound := by
  constructor
  · intro h
    obtain ⟨source, s, hsource, rfl⟩ := exists_cut_of_labeledLine? h
    rw [labeledLine?_cut hsource, numeral?_eq_some_iff lineBound_pos] at h
    obtain ⟨before, after, hbefore, hafter, hfield⟩ := exists_trim (s.takeWhile (· ≠ ':'))
    obtain ⟨rest, hs, hrest⟩ := exists_takeWhile_append ':' s
    have hlabeled := Labeled.intro hsource hbefore h.1 hafter hrest
    rw [← hfield, ← hs] at hlabeled
    exact ⟨hlabeled, h.2⟩
  · rintro ⟨@⟨source, before, numeral, after, rest, n, hsource, hbefore, hn, hafter, hrest⟩, hbound⟩
    -- The field is what stands up to the next colon, since there is none in it.
    have hfield : ':' ∉ before ++ numeral ++ after := by
      simp only [List.mem_append, not_or]
      exact ⟨⟨hbefore.not_mem (by decide), hn.not_mem (by decide) (by decide)⟩,
        hafter.not_mem (by decide)⟩
    have htight : Tight numeral := tight_of_forall fun c hc => hn.not_isBlank hc
    rw [labeledLine?_cut hsource, takeWhile_append_of_head? hfield hrest, trim_append hbefore htight hafter,
      numeral?_eq_some_iff lineBound_pos]
    exact ⟨hn, hbound⟩

/-! ## The terse form -/

theorem terseLine?_of_not_mem (h : '(' ∉ trimStart line) : terseLine? line = none := by
  rw [terseLine?, dropWhile_of_not_mem h]

theorem terseLine?_of_open (hline : trimStart line = source ++ '(' :: s) (hopen : '(' ∉ source) :
    terseLine? line = if source = [] ∨ ¬source.all isDigit ∨ ')' ∉ s then none
      else numeral? lineBound (s.takeWhile (· ≠ ')')) := by
  rw [terseLine?, hline, takeWhile_cut hopen, dropWhile_cut hopen]

/-- The number is read from what stands in the first parentheses. -/
theorem terseLine?_cut (hsource : Digits source) {numeral : List Char} (hnumeral : ')' ∉ numeral)
    {rest : List Char} (hline : trimStart line = source ++ '(' :: (numeral ++ ')' :: rest)) :
    terseLine? line = numeral? lineBound numeral := by
  rw [terseLine?_of_open hline (hsource.not_mem (by decide)), takeWhile_cut hnumeral, if_neg]
  rintro (hempty | hdigits | hclose)
  · exact hsource.ne_nil hempty
  · exact hdigits (List.all_eq_true.mpr hsource.isDigit)
  · exact hclose (List.mem_append_right _ (List.mem_cons_self ..))

theorem exists_cut_of_terseLine? (h : terseLine? line = some n) : ∃ source numeral rest,
    Digits source ∧ ')' ∉ numeral ∧ trimStart line = source ++ '(' :: (numeral ++ ')' :: rest) := by
  rcases not_mem_or_cut '(' (trimStart line) with hopen | ⟨source, s, hline, hopen⟩
  · rw [terseLine?_of_not_mem hopen] at h
    cases h
  · rw [terseLine?_of_open hline hopen] at h
    split at h
    · cases h
    · next hform =>
      -- What is asked of the line in front holds, and it cuts the rest at the first `)`.
      rw [not_or, not_or, not_not, not_not] at hform
      obtain ⟨hne, hdigits, hclose⟩ := hform
      rcases not_mem_or_cut ')' s with hnone | ⟨numeral, rest, rfl, hnumeral⟩
      · exact absurd hclose hnone
      · exact ⟨source, numeral, rest, ⟨hne, List.all_eq_true.mp hdigits⟩, hnumeral, hline⟩

theorem terseLine?_eq_some_iff : terseLine? line = some n ↔ Terse line n ∧ n < lineBound := by
  constructor
  · intro h
    obtain ⟨source, numeral, rest, hsource, hnumeral, hline⟩ := exists_cut_of_terseLine? h
    rw [terseLine?_cut hsource hnumeral hline, numeral?_eq_some_iff lineBound_pos] at h
    have hterse := @Terse.intro _ source numeral rest n (blank_takeWhile line) hsource h.1
    rw [← hline, takeWhile_append_trimStart] at hterse
    exact ⟨hterse, h.2⟩
  · rintro ⟨@⟨indent, source, numeral, rest, n, hindent, hsource, hn⟩, hbound⟩
    have hline : trimStart (indent ++ (source ++ '(' :: (numeral ++ ')' :: rest))) =
        source ++ '(' :: (numeral ++ ')' :: rest) := by
      rw [trimStart_append hindent]
      refine trimStart_eq_self fun c hc => ?_
      rw [List.head?_append_of_ne_nil source hsource.ne_nil] at hc
      exact isBlank_of_isDigit (hsource.isDigit c (List.mem_of_mem_head? hc))
    rw [terseLine?_cut hsource (hn.not_mem (by decide) (by decide)) hline,
      numeral?_eq_some_iff lineBound_pos]
    exact ⟨hn, hbound⟩

/-! ## Both forms -/

theorem Labeled.head? (h : Labeled line n) : line.head? = some 'E' := by
  cases h
  rfl

theorem Terse.exists_head? (h : Terse line n) :
    ∃ c, line.head? = some c ∧ (isBlank c = true ∨ isDigit c = true) := by
  obtain @⟨indent, source, numeral, rest, n, hindent, hsource, -⟩ := h
  cases indent with
  | nil =>
    obtain ⟨c, source, rfl⟩ := List.exists_cons_of_ne_nil hsource.ne_nil
    exact ⟨c, rfl, .inr (hsource.isDigit c (List.mem_cons_self ..))⟩
  | cons c indent => exact ⟨c, rfl, .inl (hindent c (List.mem_cons_self ..))⟩

theorem Terse.not_labeled (h : Terse line n) : ¬Labeled line m := by
  intro hlabeled
  obtain ⟨c, hc, hform⟩ := h.exists_head?
  obtain rfl := Option.some.inj (hlabeled.head?.symm.trans hc)
  exact absurd hform (by decide)

/-- The numbers that are read are those that are reported and fit. -/
theorem reportedLine?_eq_some_iff : reportedLine? line = some n ↔ Reports line n ∧ n < lineBound := by
  rw [reportedLine?, Option.orElse_eq_orElse, Option.orElse_eq_or, Option.or_eq_some_iff,
    labeledLine?_eq_some_iff, terseLine?_eq_some_iff, Reports, or_and_right]
  -- The second form is tried only where nothing was read in the first, but no line has both.
  refine or_congr_right (and_iff_right_of_imp fun h => ?_)
  rw [Option.eq_none_iff_forall_ne_some]
  exact fun m hm => h.1.not_labeled (labeledLine?_eq_some_iff.mp hm).1

end ShaderDepot.CompileUnit
