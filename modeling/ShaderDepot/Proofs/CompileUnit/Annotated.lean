import ShaderDepot.Proofs.CompileUnit.Reports
import ShaderDepot.Proofs.CompileUnit.Sections

/-!
# Logs with origins

A localized log has the lines of the log as they stand, and under each line that reports a number of the
unit where this number leads to.  There is nothing else in it (`localizeLog_eq_iff`).
-/

namespace ShaderDepot.CompileUnit

open Text

variable {u : CompileUnit} {line : List Char} {lines : List (List Char)} {origin : LineOrigin}
  {log out : String}

/-- The number that the line reports lies so many lines behind the start of the last section that starts no
later. -/
def PointsTo (u : CompileUnit) (line : List Char) (origin : LineOrigin) : Prop :=
  ∃ n, Reports line n ∧ n < lineBound ∧
    ∃ s, LastBy u.sections n s ∧ s.start + origin.line = n ∧ origin.label = s.label

/-- The text has these lines, each ended by a line feed, and one more line under each that points to an
origin. -/
inductive Annotates (u : CompileUnit) : List (List Char) → String → Prop
  | nil : Annotates u [] ""
  | plain {line : List Char} {lines : List (List Char)} {out : String}
      (hline : ∀ origin, ¬u.PointsTo line origin) (hlines : Annotates u lines out) :
      Annotates u (line :: lines) (String.ofList line ++ "\n" ++ out)
  | noted {line : List Char} {origin : LineOrigin} {lines : List (List Char)} {out : String}
      (hline : u.PointsTo line origin) (hlines : Annotates u lines out) :
      Annotates u (line :: lines)
        (String.ofList line ++ "\n" ++ s!"At: line {origin.line} in {origin.label}\n" ++ out)

theorem pointsTo_iff (h : u.sections.Pairwise (·.start ≤ ·.start)) :
    u.PointsTo line origin ↔ (reportedLine? line).bind u.lineOrigin? = some origin := by
  rw [Option.bind_eq_some_iff]
  refine exists_congr fun n => ?_
  rw [reportedLine?_eq_some_iff, lineOrigin?_eq_some_iff h, and_assoc]

theorem localizeLine_of_pointsTo (h : u.sections.Pairwise (·.start ≤ ·.start))
    (hline : u.PointsTo line origin) : u.localizeLine line =
      String.ofList line ++ "\n" ++ s!"At: line {origin.line} in {origin.label}\n" := by
  rw [localizeLine, (pointsTo_iff h).mp hline]
  rfl

theorem localizeLine_of_not_pointsTo (h : u.sections.Pairwise (·.start ≤ ·.start))
    (hline : ∀ origin, ¬u.PointsTo line origin) :
    u.localizeLine line = String.ofList line ++ "\n" := by
  have hnone : (reportedLine? line).bind u.lineOrigin? = none := by
    rw [Option.eq_none_iff_forall_ne_some]
    exact fun origin horigin => hline origin ((pointsTo_iff h).mpr horigin)
  rw [localizeLine, hnone, String.append_empty]

theorem annotates_iff (h : u.sections.Pairwise (·.start ≤ ·.start)) :
    u.Annotates lines out ↔ String.join (lines.map u.localizeLine) = out := by
  constructor
  · -- By the text: each of its parts is what becomes of one line.
    intro hout
    induction hout with
    | nil => rfl
    | plain hline hlines ih =>
      rw [List.map_cons, String.join_cons, ih, localizeLine_of_not_pointsTo h hline]
    | noted hline hlines ih =>
      rw [List.map_cons, String.join_cons, ih, localizeLine_of_pointsTo h hline]
  · -- By the lines: each of them points to an origin or to none.
    rintro rfl
    induction lines with
    | nil => exact .nil
    | cons line lines ih =>
      rw [List.map_cons, String.join_cons]
      by_cases hline : ∃ origin, u.PointsTo line origin
      · obtain ⟨origin, hline⟩ := hline
        rw [localizeLine_of_pointsTo h hline]
        exact .noted hline ih
      · have hnone := not_exists.mp hline
        rw [localizeLine_of_not_pointsTo h hnone]
        exact .plain hnone ih

/-- The localized log is the one text that annotates the lines of the log. -/
theorem localizeLog_eq_iff (h : u.sections.Pairwise (·.start ≤ ·.start)) (log out : String) :
    u.localizeLog log = out ↔ ∃ lines, LogLines log.toList lines ∧ u.Annotates lines out := by
  constructor
  · rintro rfl
    exact ⟨logLines log.toList, logLines_eq_iff.mp rfl, (annotates_iff h).mpr rfl⟩
  · rintro ⟨lines, hlines, hout⟩
    rw [localizeLog, logLines_eq_iff.mpr hlines]
    exact (annotates_iff h).mp hout

/-- Of sections with one start, the last is where a line comes from.  A number that does not fit is none. -/
theorem localizeLog_eq_iff_sharedStart :
    let u : CompileUnit := ⟨"", [⟨0, "header"⟩, ⟨3, "a.glsl"⟩, ⟨3, "b.glsl"⟩, ⟨10, "c.glsl"⟩]⟩
    let log := "ERROR: 0:\t+4 : 'x'\r\n  3(12) : y (7)\n\nERROR:0:18446744073709551616:\n0( 4)\r"
    let out := "ERROR: 0:\t+4 : 'x'\nAt: line 1 in b.glsl\n  3(12) : y (7)\nAt: line 2 in c.glsl\n\n" ++
      "ERROR:0:18446744073709551616:\n0( 4)\r\n"
    u.sections.Pairwise (·.start ≤ ·.start) ∧
      ∃ lines, LogLines log.toList lines ∧ u.Annotates lines out := by
  intro u log out
  have hsorted : u.sections.Pairwise (·.start ≤ ·.start) := by decide
  have hout : u.localizeLog log = out := by decide
  exact ⟨hsorted, (localizeLog_eq_iff hsorted log out).mp hout⟩

end ShaderDepot.CompileUnit
