import Mathlib.Data.List.Basic
import ShaderDepot.Proofs.Text.Pieces
import ShaderDepot.Proofs.Text.Utf8
import ShaderDepot.Storage.OsPath

/-!
# Texts and paths of the system

A path of the system that is a text keeps it (`OsPath.text_ofString`).  To go on from a path by a text is to
go on from its text (`OsPath.text_push`), also where the path is none, and the components of a text are the
same whether it is taken apart by characters or by bytes (`Location.components_units`).
-/

namespace ShaderDepot

namespace Text

variable {s t : List Char} {p : List Char} {pieces : List (List Char)}

/-! ## The bytes of a text as characters -/

/-- The bytes of a text, each as the character of its number. -/
def units (s : List Char) : List Char := (encode s).map Char.ofUInt8

theorem toUInt8_ofUInt8 (b : UInt8) : (Char.ofUInt8 b).toUInt8 = b := UInt8.toUInt8_toUInt32 b

theorem ofUInt8_injective : Function.Injective Char.ofUInt8 := Function.LeftInverse.injective toUInt8_ofUInt8

theorem units_injective : Function.Injective units := fun _ _ h =>
  encode_injective (List.map_injective_iff.mpr ofUInt8_injective h)

theorem units_append (s t : List Char) : units (s ++ t) = units s ++ units t := by
  rw [units, encode_append, List.map_append, units, units]

theorem units_eq_nil_iff : units s = [] ↔ s = [] := ⟨fun h => units_injective h, fun h => by rw [h]; rfl⟩

theorem units_eq_dot_iff : units s = ['.'] ↔ s = ['.'] := ⟨fun h => units_injective h, fun h => by rw [h]; rfl⟩

theorem units_eq_up_iff : units s = ['.', '.'] ↔ s = ['.', '.'] :=
  ⟨fun h => units_injective h, fun h => by rw [h]; rfl⟩

theorem head?_units_iff : (units s).head? = some '/' ↔ s.head? = some '/' := by
  rw [units, List.head?_map, Option.map_eq_some_iff, ← head?_encode_iff]
  constructor
  · rintro ⟨byte, hbyte, hslash⟩
    rw [hbyte]
    exact congrArg some (ofUInt8_injective hslash)
  · exact fun h => ⟨_, h, rfl⟩

theorem slash_not_mem_units (h : '/' ∉ s) : '/' ∉ units s := by
  intro hmem
  obtain ⟨byte, hbyte, hslash⟩ := List.mem_map.mp hmem
  obtain rfl : byte = 0x2F := ofUInt8_injective hslash
  obtain ⟨c, hc, hbyte⟩ := List.mem_flatMap.mp hbyte
  have hnumber : c.toNat = 0x2F := (mem_encodeChar_iff (by decide)).mp hbyte
  obtain rfl : c = '/' := Char.toNat_inj.mp hnumber
  exact h hc

theorem units_joinWith (pieces : List (List Char)) :
    units (joinWith '/' pieces) = joinWith '/' (pieces.map units) := by
  induction pieces with
  | nil => rfl
  | cons p pieces ih =>
    by_cases hlast : pieces = []
    · rw [hlast, List.map_singleton, joinWith, joinWith, List.intercalate_singleton,
        List.intercalate_singleton]
    · have hslash : units ['/'] = ['/'] := rfl
      rw [List.map_cons, joinWith_cons _ _ hlast, joinWith_cons _ _ (List.map_eq_nil_iff.not.mpr hlast),
        ← ih, ← List.singleton_append, units_append, units_append, hslash, List.singleton_append]

/-- The pieces of a text are the same in its bytes. -/
theorem splitOn_units (s : List Char) : (units s).splitOn '/' = (s.splitOn '/').map units := by
  have hjoined : joinWith '/' (s.splitOn '/') = s := List.intercalate_splitOn '/'
  have hpieces : ∀ p ∈ (s.splitOn '/').map units, '/' ∉ p := by
    intro p hp
    obtain ⟨q, hq, rfl⟩ := List.mem_map.mp hp
    exact slash_not_mem_units (not_mem_of_mem_splitOn hq)
  have hcut := splitOn_joinWith (List.map_eq_nil_iff.not.mpr (splitOn_ne_nil '/' s)) hpieces
  rwa [← units_joinWith, hjoined] at hcut

end Text

/-! ## Joining -/

namespace Location

variable {α β : Type} [DecidableEq α] [DecidableEq β] {slash : α} {base part : List α}

/-- Joining goes along with what keeps the slashes that it looks at and adds. -/
theorem joinAt_congr {slash' : β} {base' part' : List β} (f : List α → List β)
    (hpart : part'.head? = some slash' ↔ part.head? = some slash) (hbase : base' = [] ↔ base = [])
    (hlast : base'.getLast? = some slash' ↔ base.getLast? = some slash) (hf : f part = part')
    (happend : f (base ++ part) = base' ++ part')
    (hslash : f (base ++ slash :: part) = base' ++ slash' :: part') :
    joinAt slash' base' part' = f (joinAt slash base part) := by
  simp only [joinAt, hpart, hbase, hlast]
  split
  · exact hf.symm
  · split
    · exact happend.symm
    · exact hslash.symm

end Location

namespace OsPath

open Text Location

variable {base p : OsPath} {part s : String}

theorem text_ofString (s : String) : (ofString s).text = s := by
  rw [text, ofString, decode_encode, String.ofList_toList]

theorem ofUnits_units (p : OsPath) : ofUnits p.units = p := by
  rw [ofUnits, units, List.map_map, show Char.toUInt8 ∘ Char.ofUInt8 = id from funext toUInt8_ofUInt8,
    List.map_id]

theorem units_ofString (s : String) : (ofString s).units = Text.units s.toList := rfl

theorem units_push (base : OsPath) (part : String) :
    (base.push part).units = joinChars base.units (Text.units part.toList) := by
  refine (joinAt_congr (List.map Char.ofUInt8) ?_ ?_ ?_ rfl List.map_append List.map_append).symm
  · rw [List.head?_map]
    exact (Option.map_injective ofUInt8_injective).eq_iff (b := some slash)
  · exact List.map_eq_nil_iff
  · rw [List.getLast?_map]
    exact (Option.map_injective ofUInt8_injective).eq_iff (b := some slash)

/-- To go on from a path by a text is to go on from what is its text. -/
theorem text_push (base : OsPath) (part : String) : (base.push part).text = Location.join base.text part := by
  rw [text, text, push, Location.join, String.toList_ofList, joinChars]
  congr 1
  refine (joinAt_congr decode ?_ decode_eq_nil_iff getLast?_decode_iff ?_ ?_ ?_).symm
  · exact head?_encode_iff.symm
  · exact decode_encode _
  · exact decode_append_encode _ _
  · exact decode_append_encode _ ('/' :: part.toList)

theorem push_ofString (base part : String) : (ofString base).push part = ofString (Location.join base part) := by
  rw [ofString, push, ofString, Location.join, String.toList_ofList, joinChars]
  congr 1
  have hlast : base.toList.getLast? = some '/' ↔ (encode base.toList).getLast? = some slash := by
    rw [← decode_encode base.toList, getLast?_decode_iff, decode_encode]
    rfl
  refine joinAt_congr encode head?_encode_iff ?_ hlast.symm rfl (encode_append _ _) (encode_append _ _)
  rw [← decode_eq_nil_iff, decode_encode]

end OsPath

/-! ## Components -/

namespace Location

open Text

/-- A component by another spelling of names. -/
def Component.respell (f : List Char → List Char) : Component → Component
  | .name s => .name (f s)
  | c => c

theorem ofPiece_units (piece : List Char) :
    ofPiece (Text.units piece) = (ofPiece piece).map (Component.respell Text.units) := by
  simp only [ofPiece, units_eq_nil_iff, units_eq_dot_iff, units_eq_up_iff]
  split
  · rfl
  · split <;> rfl

theorem components_units (s : List Char) :
    components (Text.units s) = (components s).map (Component.respell Text.units) := by
  simp only [components, splitOn_units]
  cases s.splitOn '/' with
  | nil => rfl
  | cons first rest =>
    have hrest : (rest.map Text.units).filterMap ofPiece =
        (rest.filterMap ofPiece).map (Component.respell Text.units) := by
      rw [List.filterMap_map, List.map_filterMap]
      exact List.filterMap_congr fun piece _ => ofPiece_units piece
    simp only [List.map_cons, units_eq_nil_iff, units_eq_dot_iff, List.map_eq_nil_iff, List.map_append, hrest,
      ofPiece_units]
    congr 1
    split
    · rfl
    · split
      · split <;> rfl
      · cases ofPiece first <;> rfl

theorem respell_units_injective : Function.Injective (Component.respell Text.units) := by
  intro c c' h
  cases c <;> cases c' <;> simp only [Component.respell, Component.name.injEq, reduceCtorEq] at h ⊢
  exact units_injective h

theorem components_ofString (s : String) :
    (OsPath.ofString s).components = (components s.toList).map (Component.respell Text.units) :=
  components_units s.toList

end Location

end ShaderDepot
