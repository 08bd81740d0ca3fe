import ShaderDepot.Proofs.CompileUnit.Localized
import ShaderDepot.Proofs.Depot.Programs
import ShaderDepot.Proofs.Directive
import ShaderDepot.Proofs.IncludeGraph.Built
import ShaderDepot.Proofs.IncludeGraph.Order
import ShaderDepot.Proofs.IncludeGraph.Sources
import ShaderDepot.Proofs.Program.Reports

/-!
# Compile errors are localized to the author's files

A program does not compile exactly when the header or the text of a file that its entry file reaches
has an `#error` line.  Then one report names each of these lines by its file and its number there
(`Depot.compile_localized`).
-/

namespace ShaderDepot

open Text Compiler CompileUnit

/-- The program and the log of a report that a program did not compile. -/
def Diagnostic.compileLog? : Diagnostic → Option (Stage × String × String)
  | compileFailed stage path log => some (stage, path, log)
  | _ => none

/-! ## Resolving reports no failure -/

namespace IncludeGraph

variable {g : IncludeGraph}

theorem diagnostics_visit (g : IncludeGraph) (trail : List FileId) (id : FileId) (w : Walk) :
    ∀ e ∈ (g.visit trail id w).diagnostics, e.compileLog? = none := by
  induction trail, id, w using visit.induct g with
  | case1 trail id w hm =>
    rw [visit, dif_pos hm]
    unfold Walk.closeCycle
    split
    · exact List.forall_mem_nil _
    · intro e he
      rw [List.mem_singleton.mp he]
      rfl
  | case2 trail id w hm hr =>
    rw [visit, dif_neg hm, if_pos hr]
    exact List.forall_mem_nil _
  | case3 trail id w hm hr hs ih =>
    rw [visit, dif_neg hm, if_neg hr, dif_pos hs]
    exact Traced.diagnostics_foldlM (fun w d => ih w d) _ _
  | case4 trail id w hm hr hs =>
    rw [visit, dif_neg hm, if_neg hr, dif_neg hs]
    exact List.forall_mem_nil _

theorem diagnostics_resolve (g : IncludeGraph) (entry : FileId) (header : String)
    (defines : List Define) :
    (g.resolve entry header defines).diagnostics.filterMap Diagnostic.compileLog? = [] := by
  rw [resolve, order, Traced.diagnostics_bind, Traced.diagnostics_bind, Traced.diagnostics_pure,
    Traced.diagnostics_pure, List.append_nil, List.append_nil]
  exact List.filterMap_eq_nil_iff.mpr (diagnostics_visit g [] entry {})

/-! ## The lines of the author's files -/

/-- The `#error` lines of the files in the order of a unit, where the author wrote them. -/
def sourceErrors (g : IncludeGraph) (entry : FileId) : List (List (Nat × List Char)) :=
  (g.order entry).value.map fun a => errorLines 1 (ScannedText.sourceLines (g.sourceOf a).toList)

/-- The sections of a unit have the `#error` lines of the author's files. -/
theorem Settled.fileErrors_eq (hg : g.Settled) (entry : FileId) :
    fileErrors ((g.order entry).value.map fun id => (g.pathOf id, g.textOf id)) =
      g.sourceErrors entry := by
  rw [fileErrors, List.map_map, sourceErrors]
  refine List.map_congr_left fun a _ => ?_
  show errorLines 1 (Text.bodyLines (g.textOf a).toList) = _
  rw [hg.textOf_eq_ofSource, ScannedText.errorLines_bodyLines_ofSource]

theorem Settled.not_mem_versionOf (hg : g.Settled) (h : '\n' ∉ g.defaultVersion.toList) (a : FileId) :
    '\n' ∉ (g.versionOf a).toList := by
  rw [hg.versionOf_eq_ofSource]
  cases hv : (ScannedText.ofSource (g.sourceOf a)).version with
  | none => exact h
  | some version => exact ScannedText.not_mem_version hv

end IncludeGraph

namespace Depot

open IncludeGraph DeviceM

variable {r : Depot} {id : ProgramId} {p : Program} {j : Journal}

/-- The `#error` lines that concern a program, in the order of its unit, each with the section of the
unit that it lies in. -/
def errorsOf (r : Depot) (p : Program) : List (SectionStart × Nat × List Char) :=
  locate (r.resolveProgram p).value.sections
    (errorLines 2 (r.settings.sharedHeader.toList.splitOn '\n') :: r.graph.sourceErrors p.entry)

/-- The sections of a program's unit. -/
def sectionsOf (r : Depot) (p : Program) : List (String × String) :=
  (r.graph.order p.entry).value.map fun id => (r.graph.pathOf id, r.graph.textOf id)

theorem resolveProgram_eq (r : Depot) (p : Program) : (r.resolveProgram p).value =
    assemble (r.graph.versionOf p.entry) r.settings.sharedHeader p.key.defines (r.sectionsOf p) := rfl

theorem errorsOf_eq (hg : r.graph.Settled) (p : Program) :
    r.errorsOf p = locate (r.resolveProgram p).value.sections
      (allErrors r.settings.sharedHeader (r.sectionsOf p)) := by
  rw [errorsOf, allErrors, errorLines_headerLines, sectionsOf, hg.fileErrors_eq]

theorem map_label_resolveProgram (r : Depot) (p : Program) :
    (r.resolveProgram p).value.sections.map (·.label) =
      preambleLabel :: (r.graph.order p.entry).value.map r.graph.pathOf := by
  rw [resolveProgram_eq]
  show preambleLabel :: (layOut _ _).2.map (·.label) = _
  rw [map_label_layOut, sectionsOf, List.map_map]
  rfl

/-- There is an `#error` line among those of the header and of the files that the entry file reaches. -/
theorem errorsOf_ne_nil_iff (hg : r.graph.Settled) (p : Program) :
    r.errorsOf p ≠ [] ↔
      (∃ line ∈ r.settings.sharedHeader.toList.splitOn '\n', IsError line) ∨
      ∃ a, Relation.ReflTransGen r.graph.Includes p.entry a ∧
        ∃ line ∈ ScannedText.sourceLines (r.graph.sourceOf a).toList, IsError line := by
  have hlength : (r.resolveProgram p).value.sections.length =
      (r.graph.sourceErrors p.entry).length + 1 := by
    have h := congrArg List.length (map_label_resolveProgram r p)
    rw [List.length_map, List.length_cons, List.length_map] at h
    rw [h, sourceErrors, List.length_map]
  have hempty : ∀ first lines, errorLines first lines ≠ [] ↔ ∃ line ∈ lines, IsError line := by
    intro first lines
    rw [ne_eq, errorLines_eq_nil_iff]
    simp only [not_forall, not_not, exists_prop]
  rw [errorsOf, ne_eq, locate_eq_nil_iff hlength, List.forall_mem_cons, not_and_or, ← ne_eq, hempty,
    sourceErrors, List.forall_mem_map]
  refine or_congr Iff.rfl ?_
  simp only [not_forall, hempty, exists_prop, mem_order_iff, hg.reaches_iff]

/-! ## A compile -/

theorem feedFree_of_paths (hg : r.graph.Settled) (hversion : '\n' ∉ r.graph.defaultVersion.toList)
    (hdefines : ∀ e ∈ p.key.defines, '\n' ∉ e.name.toList ∧ '\n' ∉ e.value.toList)
    (hpaths : ∀ a f, r.graph.file? a = some f → '\n' ∉ f.path.toList) :
    FeedFree (r.graph.versionOf p.entry) p.key.defines (r.sectionsOf p) where
  version := hg.not_mem_versionOf hversion p.entry
  defines := hdefines
  labels e he := by
    obtain ⟨a, -, rfl⟩ := List.mem_map.mp he
    show '\n' ∉ (r.graph.pathOf a).toList
    rw [pathOf]
    cases hf : r.graph.file? a with
    | none => exact List.not_mem_nil
    | some f => exact hpaths a f hf

/-- A program links if none of the lines that concern it is an error. -/
theorem linked_iff (hg : r.graph.Settled) (stage : Stage)
    (h : FeedFree (r.graph.versionOf p.entry) p.key.defines (r.sectionsOf p)) :
    (Compiler.compile stage (r.resolveProgram p).value.text).linked = true ↔ r.errorsOf p = [] := by
  rw [errorsOf_eq hg, CompileResult.linked, List.isEmpty_iff]
  show complaints (r.resolveProgram p).value.text.toList = [] ↔ _
  rw [resolveProgram_eq, complaints_assemble h, List.map_eq_nil_iff]

/-- What a compile leaves of a program and reports. -/
theorem reports_compile (hp : r.program? id = some p) (hd : j.device.programRefusal? = none) :
    (((r.compile id).play j).1.program? id).map (·.build) =
        some (if (Compiler.compile p.key.stage (r.resolveProgram p).value.text).linked then .valid
          else .invalid) ∧
      ((r.compile id).reports j).filterMap Diagnostic.compileLog? =
        if (Compiler.compile p.key.stage (r.resolveProgram p).value.text).linked then []
        else [(p.key.stage, p.key.path, (r.resolveProgram p).value.localizeLog
          ((Compiler.compile p.key.stage (r.resolveProgram p).value.text).log j.device.style))] := by
  obtain ⟨hbuild, hreports⟩ := Program.reports_compile (p := p) hd (r.resolveProgram p).value
    r.settings.listOnError
  have hcalls : (r.resolveProgram p).calls = [] := calls_resolve ..
  have hsilent : (r.resolveProgram p).diagnostics.filterMap Diagnostic.compileLog? = [] :=
    diagnostics_resolve ..
  constructor
  · obtain ⟨compilations, failures, hplay⟩ := play_compile hp j
    rw [hplay]
    show ((r.setProgram id _).program? id).map _ = _
    rw [program?_setProgram_of hp, if_pos rfl, Option.map_some, hbuild]
  · unfold compile
    simp only [hp, reports_bind, reports_ofTraced, play_ofTraced hcalls, reports_pure, List.append_nil,
      List.filterMap_append, hsilent, List.nil_append, hreports]
    split
    · rfl
    · cases r.settings.listOnError <;> rfl

/-- Compiling a program on a device that does not refuse leaves it invalid exactly when the header, or
the text last read of a file that the entry file includes directly or through others, has an `#error`
line.  Then one report tells of the failure, and in it stands for each such line, in the order of the
unit, one line of the log and under it the line's number in its file, or in the unit for a line of the
header; the unit has each of the files once.  The bound is on what a machine can count: no text in
memory is as long. -/
theorem compile_localized (r : Depot) (id : ProgramId) (p : Program) (d : Device)
    (hbuilt : Built r.settings.defaultVersion r.graph) (hp : r.program? id = some p)
    (hd : d.programRefusal? = none) (hversion : '\n' ∉ r.settings.defaultVersion.toList)
    (hdefines : ∀ e ∈ p.key.defines, '\n' ∉ e.name.toList ∧ '\n' ∉ e.value.toList)
    (hpaths : ∀ a f, r.graph.file? a = some f → '\n' ∉ f.path.toList) :
    let order := (r.graph.order p.entry).value
    let unit := (r.resolveProgram p).value
    let compiled := r.compile id d
    let invalid := (compiled.value.1.program? id).map (·.build) = some .invalid
    (order.Nodup ∧ ∀ a, a ∈ order ↔ Relation.ReflTransGen r.graph.Includes p.entry a) ∧
      (∃ starts, unit.sections = ⟨0, preambleLabel⟩ :: starts ∧
        starts.map (·.label) = order.map r.graph.pathOf) ∧
      (invalid ↔
        (∃ line ∈ r.settings.sharedHeader.toList.splitOn '\n', IsError line) ∨
        ∃ a, Relation.ReflTransGen r.graph.Includes p.entry a ∧
          ∃ line ∈ ScannedText.sourceLines (r.graph.sourceOf a).toList, IsError line) ∧
      (unit.text.length < lineBound → compiled.diagnostics.filterMap Diagnostic.compileLog? =
        if invalid then [(p.key.stage, p.key.path,
          String.join ((r.errorsOf p).map (report d.style)))]
        else []) := by
  intro order unit compiled invalid
  obtain ⟨hg, hdefault⟩ := hbuilt.settled
  have hfree := feedFree_of_paths hg (hdefault ▸ hversion) hdefines hpaths
  have hlinked := linked_iff hg p.key.stage hfree
  obtain ⟨hbuild, hreports⟩ := reports_compile (j := ⟨d, []⟩) hp hd
  have hinvalid : invalid ↔ r.errorsOf p ≠ [] := by
    rw [ne_eq, ← hlinked]
    show (((r.compile id).play ⟨d, []⟩).1.program? id).map (·.build) = some .invalid ↔ _
    rw [hbuild]
    split
    · next h => exact iff_of_false nofun fun hn => hn h
    · next h => exact iff_of_true rfl h
  refine ⟨⟨nodup_order r.graph p.entry, fun a => mem_order_iff.trans hg.reaches_iff⟩, ⟨_, rfl, ?_⟩,
    hinvalid.trans (errorsOf_ne_nil_iff hg p), fun hbound => ?_⟩
  · exact (List.cons.inj (map_label_resolveProgram r p)).2
  · show ((r.compile id).reports ⟨d, []⟩).filterMap Diagnostic.compileLog? = _
    have hlog : unit.localizeLog ((Compiler.compile p.key.stage unit.text).log d.style) =
        String.join ((r.errorsOf p).map (report d.style)) := by
      rw [errorsOf_eq hg]
      exact localizeLog_assemble hfree hbound p.key.stage d.style
    rw [hreports, hlog]
    by_cases herrors : r.errorsOf p = []
    · rw [if_pos (hlinked.mpr herrors), if_neg fun h => hinvalid.mp h herrors]
    · rw [if_neg fun h => herrors (hlinked.mp h), if_pos (hinvalid.mpr herrors)]

/-- Two files, the second included by the first, with an `#error` line of its own. -/
def brokenFiles : Storage := .memory { texts := ⟨[
  ("a.frag", "#version 450\r\n#include \"b.glsl\"\r\nvoid main() \x7b\x7d\r\n"),
  ("b.glsl", "float x;\r\n\r\n  #error not here\r\n")]⟩ }

/-- A program of these files, under a header that is an `#error` line too. -/
def brokenProgram : Program := { key := keyOf "a.frag" .fragment [], entry := ⟨0⟩ }

def brokenDepot : Depot :=
  { create { sharedHeader := "#error no header" } with
    graph := (intern brokenFiles { defaultVersion := "450 core" } "a.frag").value.2
    programs := #[brokenProgram] }

theorem order_brokenDepot : (brokenDepot.graph.order ⟨0⟩).value = [⟨1⟩, ⟨0⟩] := by
  have hranks : (brokenDepot.graph.visit [] ⟨0⟩ {}).value.ranks.entries = [(⟨0⟩, 0), (⟨1⟩, 1)] := by
    decide +kernel
  show (List.mergeSort _ _).map _ = _
  rw [hranks]
  simp [List.mergeSort]

theorem compile_localized_brokenDepot :
    ((brokenDepot.compile ⟨0⟩ { style := .terse }).value.1.program? ⟨0⟩).map (·.build) = some .invalid ∧
      (brokenDepot.compile ⟨0⟩ { style := .terse }).diagnostics.filterMap Diagnostic.compileLog? =
        [(.fragment, "a.frag", "0(2) : error C0000: #error no header\n" ++
          "At: line 2 in version, header and macros\n" ++
          "0(6) : error C0000: #error not here\n" ++ "At: line 3 in b.glsl\n")] := by
  have hbuilt : Built brokenDepot.settings.defaultVersion brokenDepot.graph := .load .empty (.intern ..)
  have hpaths : ∀ f ∈ brokenDepot.graph.files.toList, '\n' ∉ f.path.toList := by decide +kernel
  have hunit : (brokenDepot.resolveProgram brokenProgram).value = assemble "450" "#error no header" []
      ([⟨1⟩, ⟨0⟩].map fun id => (brokenDepot.graph.pathOf id, brokenDepot.graph.textOf id)) := by
    rw [resolveProgram_eq, sectionsOf]
    show assemble (brokenDepot.graph.versionOf ⟨0⟩) _ _ ((brokenDepot.graph.order ⟨0⟩).value.map _) = _
    rw [order_brokenDepot]
    decide +kernel
  have hbound : (brokenDepot.resolveProgram brokenProgram).value.text.length < lineBound := by
    rw [hunit]
    decide +kernel
  have hlog : String.join ((brokenDepot.errorsOf brokenProgram).map (report .terse)) =
      "0(2) : error C0000: #error no header\n" ++ "At: line 2 in version, header and macros\n" ++
        "0(6) : error C0000: #error not here\n" ++ "At: line 3 in b.glsl\n" := by
    rw [errorsOf, hunit, sourceErrors]
    show String.join ((locate _ (_ :: (brokenDepot.graph.order ⟨0⟩).value.map _)).map _) = _
    rw [order_brokenDepot]
    decide +kernel
  obtain ⟨-, -, hinvalid, hreports⟩ := compile_localized brokenDepot ⟨0⟩ brokenProgram
    { style := .terse } hbuilt rfl rfl (by decide) (fun e he => nomatch he)
    (fun a f hf => hpaths f (Array.mem_toList_iff.mpr (Array.mem_of_getElem? hf)))
  have hheader := hinvalid.mpr (.inl ⟨"#error no header".toList, by decide, by decide⟩)
  refine ⟨hheader, ?_⟩
  rw [hreports hbound, if_pos hheader, hlog]
  rfl

end Depot

end ShaderDepot
