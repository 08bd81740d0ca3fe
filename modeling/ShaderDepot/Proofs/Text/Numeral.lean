import Mathlib.Tactic.Common
import ShaderDepot.Text.Blank
import ShaderDepot.Text.Numeral

/-!
# Numerals

What is read as a number below a bound is a decimal of this number (`numeral?_eq_some_iff`).  A number that
is printed is one of its decimals (`decimal_toString`).
-/

namespace ShaderDepot.Text

variable {bound n m : Nat} {s : List Char} {c : Char}

/-! ## Digits -/

theorem isDigit_eq (c : Char) : isDigit c = c.isDigit := by
  rw [isDigit, Char.isDigit, Bool.eq_iff_iff, Bool.and_eq_true, Bool.and_eq_true, decide_eq_true_iff,
    decide_eq_true_iff, decide_eq_true_iff, decide_eq_true_iff]
  rfl

theorem isBlank_of_isDigit (h : isDigit c = true) : isBlank c = false := by
  have hrange : 48 ≤ c.toNat ∧ c.toNat ≤ 57 := by
    rw [isDigit, Bool.and_eq_true, decide_eq_true_iff, decide_eq_true_iff] at h
    exact h
  simp only [isBlank, Bool.or_eq_false_iff, Bool.and_eq_false_iff, decide_eq_false_iff_not,
    beq_eq_false_iff_ne]
  omega

/-- One or more digits. -/
structure Digits (s : List Char) : Prop where
  ne_nil : s ≠ []
  isDigit : ∀ c ∈ s, isDigit c = true

theorem Digits.not_mem (h : Digits s) (hc : Text.isDigit c = false) : c ∉ s := by
  intro hmem
  rw [h.isDigit c hmem] at hc
  cases hc

theorem le_ofDigitChars (s : List Char) (n : Nat) : n ≤ Nat.ofDigitChars 10 s n := by
  induction s generalizing n with
  | nil => exact Nat.le_refl n
  | cons c s ih =>
    have := ih (10 * n + digitValue c)
    exact Nat.le_trans (by omega) this

/-- Digits are read as long as their value stays below the bound. -/
theorem readDigits_eq_ok (hs : ∀ c ∈ s, isDigit c = true) (hlt : Nat.ofDigitChars 10 s n < bound) :
    readDigits bound n s = .ok (Nat.ofDigitChars 10 s n) := by
  induction s generalizing n with
  | nil => rfl
  | cons c s ih =>
    -- The value of the first digits is no more than that of all.
    have hfirst : 10 * n + digitValue c < bound := Nat.lt_of_le_of_lt (le_ofDigitChars s _) hlt
    rw [readDigits, hs c (List.mem_cons_self ..), if_neg (by decide), if_pos hfirst]
    exact ih (fun a ha => hs a (List.mem_cons_of_mem _ ha)) hlt

theorem readDigits_eq_ok_iff (hn : n < bound) :
    readDigits bound n s = .ok m ↔
      (∀ c ∈ s, isDigit c = true) ∧ Nat.ofDigitChars 10 s n = m ∧ m < bound := by
  constructor
  · intro h
    induction s generalizing n with
    | nil =>
      obtain rfl := Except.ok.inj h
      exact ⟨List.forall_mem_nil _, rfl, hn⟩
    | cons c s ih =>
      rw [readDigits] at h
      split at h
      · cases h
      · next hc =>
        split at h
        · next hfirst =>
          obtain ⟨hs, hvalue⟩ := ih hfirst h
          rw [Bool.not_eq_true, Bool.not_eq_false'] at hc
          exact ⟨List.forall_mem_cons.mpr ⟨hc, hs⟩, hvalue⟩
        · cases h
  · rintro ⟨hs, rfl, hlt⟩
    exact readDigits_eq_ok hs hlt

/-! ## Decimals -/

/-- The text is a number in decimal: its digits, with leading zeros and one `+` in front as may be. -/
inductive Decimal : List Char → Nat → Prop
  | unsigned {s : List Char} {n : Nat} (hs : Digits s) (hn : Nat.ofDigitChars 10 s 0 = n) : Decimal s n
  | signed {s : List Char} {n : Nat} (hs : Digits s) (hn : Nat.ofDigitChars 10 s 0 = n) :
      Decimal ('+' :: s) n

theorem not_decimal_nil (n : Nat) : ¬Decimal [] n := by
  intro h
  cases h with
  | unsigned hs hn => exact hs.ne_nil rfl

theorem Decimal.eq_plus_or_isDigit (h : Decimal s n) (hc : c ∈ s) : c = '+' ∨ isDigit c = true := by
  cases h with
  | unsigned hs hn => exact .inr (hs.isDigit c hc)
  | signed hs hn => exact (List.mem_cons.mp hc).imp id (hs.isDigit c)

theorem Decimal.not_mem (h : Decimal s n) (hplus : c ≠ '+') (hc : isDigit c = false) : c ∉ s := by
  intro hmem
  rcases h.eq_plus_or_isDigit hmem with rfl | hdigit
  · exact hplus rfl
  · rw [hdigit] at hc
    cases hc

theorem Decimal.not_isBlank (h : Decimal s n) (hc : c ∈ s) : isBlank c = false := by
  rcases h.eq_plus_or_isDigit hc with rfl | hdigit
  · decide
  · exact isBlank_of_isDigit hdigit

theorem decimal_plus_iff : Decimal ('+' :: s) n ↔ Digits s ∧ Nat.ofDigitChars 10 s 0 = n := by
  constructor
  · intro h
    cases h with
    | unsigned hs hn => exact absurd (List.mem_cons_self ..) (hs.not_mem (by decide))
    | signed hs hn => exact ⟨hs, hn⟩
  · rintro ⟨hs, hn⟩
    exact .signed hs hn

theorem decimal_iff_of_ne_plus (hc : c ≠ '+') :
    Decimal (c :: s) n ↔ Digits (c :: s) ∧ Nat.ofDigitChars 10 (c :: s) 0 = n := by
  constructor
  · intro h
    cases h with
    | unsigned hs hn => exact ⟨hs, hn⟩
    | signed hs hn => exact absurd rfl hc
  · rintro ⟨hs, hn⟩
    exact .unsigned hs hn

theorem readDigits_zero_eq_ok_iff (hbound : 0 < bound) (hne : s ≠ []) :
    readDigits bound 0 s = .ok n ↔ (Digits s ∧ Nat.ofDigitChars 10 s 0 = n) ∧ n < bound := by
  rw [readDigits_eq_ok_iff hbound, ← and_assoc]
  exact and_congr_left' (and_congr_left' ⟨fun hs => ⟨hne, hs⟩, fun hs => hs.isDigit⟩)

theorem readNumeral_eq_ok_iff (hbound : 0 < bound) :
    readNumeral bound s = .ok n ↔ Decimal s n ∧ n < bound := by
  cases s with
  | nil => exact iff_of_false nofun fun h => not_decimal_nil n h.1
  | cons c s =>
    by_cases hc : c = '+'
    · -- A sign alone is no number.
      subst hc
      rw [decimal_plus_iff]
      by_cases hs : s = []
      · subst hs
        exact iff_of_false nofun fun h => h.1.1.ne_nil rfl
      · rw [← readDigits_zero_eq_ok_iff hbound hs, readNumeral]
        exact fun h => hs h
    · rw [decimal_iff_of_ne_plus hc, ← readDigits_zero_eq_ok_iff hbound (List.cons_ne_nil c s), readNumeral]
      · exact nofun
      · exact fun h => hc (List.cons.inj h).1
      · exact fun _ h => hc (List.cons.inj h).1

/-- What is read as a number is a decimal of it. -/
theorem numeral?_eq_some_iff (hbound : 0 < bound) :
    numeral? bound s = some n ↔ Decimal s n ∧ n < bound := by
  rw [numeral?, ← readNumeral_eq_ok_iff hbound]
  cases readNumeral bound s with
  | error e => exact iff_of_false nofun nofun
  | ok m => exact ⟨fun h => congrArg _ (Option.some.inj h), fun h => congrArg _ (Except.ok.inj h)⟩

/-! ## Numbers that were printed -/

theorem toList_toString (n : Nat) : (toString n).toList = Nat.toDigits 10 n := by
  rw [Nat.toString_eq_repr, Nat.repr_eq_ofList_toDigits, String.toList_ofList]

theorem digits_toString (n : Nat) : Digits (toString n).toList where
  ne_nil := by
    rw [toList_toString]
    exact Nat.toDigits_ne_nil
  isDigit c h := by
    rw [toList_toString] at h
    rw [isDigit_eq]
    exact Nat.isDigit_of_mem_toDigits (by decide) (by decide) h

theorem decimal_toString (n : Nat) : Decimal (toString n).toList n := by
  refine .unsigned (digits_toString n) ?_
  rw [toList_toString]
  exact Nat.ofDigitChars_toDigits (by decide) (by decide)

end ShaderDepot.Text
