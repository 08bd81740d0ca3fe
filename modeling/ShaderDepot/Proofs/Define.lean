import ShaderDepot.Define
import ShaderDepot.Proofs.Text.Pieces
import ShaderDepot.Proofs.Text.Trim

/-!
# Definitions as texts

A text asks for a definition by a name and, behind the first `=`, a value, with blanks around both as may be
(`parse_eq_ok_iff`).  A definition that was asked for can be written down and read again, and no other one is
written in the same way (`parse_reads_back`).
-/

namespace ShaderDepot.Define

open Text

variable {s before after name value : List Char} {text : String} {d d' : Define}

/-- A definition that a text can ask for. -/
structure Readable (d : Define) : Prop where
  name_ne_empty : d.name ≠ ""
  name_noEquals : '=' ∉ d.name.toList
  name_tight : Tight d.name.toList
  value_tight : Tight d.value.toList

/-- The text is a definition's name, if the value is empty, or its name and its value with a `=` between
them.  There may be blanks around each. -/
inductive Spells (d : Define) : List Char → Prop
  | bare {before after : List Char} (hb : Blank before) (ha : Blank after) (hv : d.value = "") :
      Spells d (before ++ d.name.toList ++ after)
  | valued {before after before' after' : List Char} (hb : Blank before) (ha : Blank after)
      (hb' : Blank before') (ha' : Blank after') :
      Spells d (before ++ d.name.toList ++ after ++ '=' :: (before' ++ d.value.toList ++ after'))

/-- What stands before the first `=` is blank, or all of a text without one is. -/
def Nameless (s : List Char) : Prop :=
  Blank s ∨ ∃ before after, Blank before ∧ s = before ++ '=' :: after

/-! ## Cutting a text -/

theorem parts_of_not_mem (h : '=' ∉ s) : parts s = (trim s, []) := by
  rw [parts, takeWhile_of_not_mem h, dropWhile_of_not_mem h]
  rfl

theorem parts_append (h : '=' ∉ before) (after : List Char) :
    parts (before ++ '=' :: after) = (trim before, trim after) := by
  rw [parts, takeWhile_cut h, dropWhile_cut h]
  rfl

theorem parse_of_parts (h : parts text.toList = (name, value)) (hne : name ≠ []) :
    parse text = .ok ⟨String.ofList name, String.ofList value⟩ := by
  obtain ⟨c, rest, rfl⟩ := List.exists_cons_of_ne_nil hne
  rw [parse, h]

theorem exists_parts_of_parse (h : parse text = .ok d) : ∃ name value,
    parts text.toList = (name, value) ∧ name ≠ [] ∧ d = ⟨String.ofList name, String.ofList value⟩ := by
  rcases hparts : parts text.toList with ⟨name, value⟩
  refine ⟨name, value, rfl, ?_⟩
  cases name with
  | nil =>
    rw [parse, hparts] at h
    cases h
  | cons c rest =>
    rw [parse_of_parts hparts (List.cons_ne_nil _ _)] at h
    exact ⟨List.cons_ne_nil _ _, (Except.ok.inj h).symm⟩

/-- The name is empty after trimming exactly when it was blank before. -/
theorem fst_parts_eq_nil_iff : (parts s).1 = [] ↔ Nameless s := by
  constructor
  · intro h
    rcases not_mem_or_cut '=' s with heq | ⟨name, value, rfl, heq⟩
    · rw [parts_of_not_mem heq] at h
      exact .inl (trim_eq_nil_iff.mp h)
    · rw [parts_append heq] at h
      exact .inr ⟨name, value, trim_eq_nil_iff.mp h, rfl⟩
  · rintro (hblank | ⟨before, after, hblank, rfl⟩)
    · rw [parts_of_not_mem (hblank.not_mem (by decide))]
      exact trim_eq_nil_iff.mpr hblank
    · rw [parts_append (hblank.not_mem (by decide))]
      exact trim_eq_nil_iff.mpr hblank

/-- A text asks for no definition exactly when it gives no name. -/
theorem parse_eq_error_iff {fault : Malformed} :
    parse text = .error fault ↔ fault = ⟨text⟩ ∧ Nameless text.toList := by
  rw [← fst_parts_eq_nil_iff]
  rcases hparts : parts text.toList with ⟨name, value⟩
  cases name with
  | nil =>
    have hfault : parse text = .error ⟨text⟩ := by rw [parse, hparts]
    rw [hfault]
    exact ⟨fun h => ⟨(Except.error.inj h).symm, rfl⟩, fun h => congrArg _ h.1.symm⟩
  | cons c rest =>
    rw [parse_of_parts hparts (List.cons_ne_nil _ _)]
    exact iff_of_false nofun fun h => List.cons_ne_nil _ _ h.2

/-! ## What is read -/

theorem readable_of_trim (hne : trim name ≠ []) (heq : '=' ∉ name) (value : List Char) :
    Readable ⟨String.ofList (trim name), String.ofList (trim value)⟩ where
  name_ne_empty := by
    rwa [Ne, ← String.toList_eq_nil_iff, String.toList_ofList]
  name_noEquals := by
    rw [String.toList_ofList]
    exact fun hc => heq ((trim_sublist name).subset hc)
  name_tight := by
    rw [String.toList_ofList]
    exact tight_trim name
  value_tight := by
    rw [String.toList_ofList]
    exact tight_trim value

theorem spells_bare (s : List Char) : Spells ⟨String.ofList (trim s), ""⟩ s := by
  obtain ⟨before, after, hb, ha, hs⟩ := exists_trim s
  have hspells := Spells.bare (d := ⟨String.ofList (trim s), ""⟩) hb ha rfl
  rwa [String.toList_ofList, ← hs] at hspells

theorem spells_valued (name value : List Char) :
    Spells ⟨String.ofList (trim name), String.ofList (trim value)⟩ (name ++ '=' :: value) := by
  obtain ⟨before, after, hb, ha, hname⟩ := exists_trim name
  obtain ⟨before', after', hb', ha', hvalue⟩ := exists_trim value
  have hspells := Spells.valued (d := ⟨String.ofList (trim name), String.ofList (trim value)⟩) hb ha hb' ha'
  rwa [String.toList_ofList, String.toList_ofList, ← hname, ← hvalue] at hspells

theorem readable_and_spells (h : parse text = .ok d) : d.Readable ∧ d.Spells text.toList := by
  obtain ⟨name, value, hparts, hne, rfl⟩ := exists_parts_of_parse h
  rcases not_mem_or_cut '=' text.toList with heq | ⟨front, back, hcut, heq⟩
  · rw [parts_of_not_mem heq] at hparts
    obtain ⟨rfl, rfl⟩ := Prod.mk.inj hparts
    exact ⟨readable_of_trim hne heq [], spells_bare text.toList⟩
  · rw [hcut, parts_append heq] at hparts
    obtain ⟨rfl, rfl⟩ := Prod.mk.inj hparts
    rw [hcut]
    exact ⟨readable_of_trim hne heq back, spells_valued front back⟩

theorem parse_of_spells (hd : d.Readable) (h : d.Spells text.toList) : parse text = .ok d := by
  have hname : d.name.toList ≠ [] := fun hnil => hd.name_ne_empty (String.toList_eq_nil_iff.mp hnil)
  have hback : (⟨String.ofList d.name.toList, String.ofList d.value.toList⟩ : Define) = d := by
    rw [String.ofList_toList, String.ofList_toList]
  have hnone : ∀ before after, Blank before → Blank after → '=' ∉ before ++ d.name.toList ++ after := by
    intro before after hb ha
    simp only [List.mem_append, not_or]
    exact ⟨⟨hb.not_mem (by decide), hd.name_noEquals⟩, ha.not_mem (by decide)⟩
  generalize hs : text.toList = s at h
  -- In both forms the first `=` stands behind the name, if there is one.
  cases h with
  | @bare before after hb ha hv =>
    have hparts := parts_of_not_mem (hnone before after hb ha)
    have hvalue : d.value.toList = [] := String.toList_eq_nil_iff.mpr hv
    rw [trim_append hb hd.name_tight ha, ← hs, ← hvalue] at hparts
    rw [parse_of_parts hparts hname, hback]
  | @valued before after before' after' hb ha hb' ha' =>
    have hparts := parts_append (hnone before after hb ha) (before' ++ d.value.toList ++ after')
    rw [trim_append hb hd.name_tight ha, trim_append hb' hd.value_tight ha', ← hs] at hparts
    rw [parse_of_parts hparts hname, hback]

/-- The texts that ask for a definition are those that spell it. -/
theorem parse_eq_ok_iff : parse text = .ok d ↔ d.Readable ∧ d.Spells text.toList :=
  ⟨readable_and_spells, fun h => parse_of_spells h.1 h.2⟩

/-! ## What is written -/

theorem spells_display (d : Define) : d.Spells d.display.toList := by
  rw [display]
  split
  · next hv =>
    have hspells := Spells.bare blank_nil blank_nil (String.isEmpty_iff.mp hv)
    rwa [List.nil_append, List.append_nil] at hspells
  · have hspells := Spells.valued (d := d) blank_nil blank_nil blank_nil blank_nil
    simp only [List.nil_append, List.append_nil] at hspells
    have hdisplay : (s!"{d.name}={d.value}").toList = d.name.toList ++ '=' :: d.value.toList := by
      change (d.name ++ "=" ++ d.value).toList = _
      rw [String.toList_append, String.toList_append, List.append_assoc]
      rfl
    rwa [hdisplay]

theorem parse_display (h : d.Readable) : parse d.display = .ok d :=
  parse_eq_ok_iff.mpr ⟨h, spells_display d⟩

/-- What a text asks for has a name, and neither its name nor its value has blank ends.  Every such definition
is read again from what is written of it, so no two of them are written alike; and a text asks for none
exactly when nothing but blanks stands where the name should be. -/
theorem parse_reads_back :
    (∀ text d, parse text = .ok d → d.Readable ∧ parse d.display = .ok d) ∧
      (∀ text fault, parse text = .error fault ↔ fault = ⟨text⟩ ∧ Nameless text.toList) ∧
      (∀ d, d.Readable → parse d.display = .ok d) ∧
      ∀ text text' d d', parse text = .ok d → parse text' = .ok d' → d.display = d'.display → d = d' := by
  have hback : ∀ text d, parse text = .ok d → d.Readable ∧ parse d.display = .ok d := by
    intro text d h
    have hd := (parse_eq_ok_iff.mp h).1
    exact ⟨hd, parse_display hd⟩
  refine ⟨hback, fun text fault => parse_eq_error_iff, fun d => parse_display, ?_⟩
  intro text text' d d' h h' hdisplay
  have hd := (hback text d h).2
  rw [hdisplay, (hback text' d' h').2] at hd
  exact (Except.ok.inj hd).symm

/-- A value keeps its own `=` and its inner blanks, and a lone value is no definition. -/
theorem parse_reads_back_equation :
    parse "\u2003A B \t= x = \u00a0 y\n" = .ok ⟨"A B", "x = \u00a0 y"⟩ ∧
      parse "A B=x = \u00a0 y" = .ok ⟨"A B", "x = \u00a0 y"⟩ ∧
      parse " =1" = .error ⟨" =1"⟩ := by
  have hread : parse "\u2003A B \t= x = \u00a0 y\n" = .ok ⟨"A B", "x = \u00a0 y"⟩ := rfl
  have hblank : Blank [' '] := List.forall_mem_singleton.mpr (by decide)
  refine ⟨hread, ?_, (parse_reads_back.2.1 " =1" _).mpr ⟨rfl, .inr ⟨[' '], ['1'], hblank, rfl⟩⟩⟩
  exact (parse_reads_back.1 _ _ hread).2

end ShaderDepot.Define
