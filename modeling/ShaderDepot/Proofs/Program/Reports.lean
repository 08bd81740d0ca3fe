import ShaderDepot.Program
import ShaderDepot.Proofs.Device.Creation

/-!
# What a compile reports

A compile on a device that does not refuse reports nothing if the text links.  If not, it reports the
localized log, once, and the numbered text if that was asked for (`reports_compile`).
-/

namespace ShaderDepot

variable {α β : Type}

/-! ## Reports -/

namespace Traced

theorem diagnostics_bind (x : Traced α) (f : α → Traced β) :
    (x >>= f).diagnostics = x.diagnostics ++ (f x.value).diagnostics := List.filterMap_append

theorem diagnostics_pure (a : α) : (pure a : Traced α).diagnostics = [] := rfl

theorem diagnostics_foldlM {P : Diagnostic → Prop} {f : β → α → Traced β}
    (hf : ∀ b a, ∀ e ∈ (f b a).diagnostics, P e) (l : List α) (b : β) :
    ∀ e ∈ (l.foldlM f b).diagnostics, P e := by
  induction l generalizing b with
  | nil => exact fun e he => nomatch he
  | cons a l ih =>
    rw [List.foldlM_cons, diagnostics_bind]
    intro e he
    rcases List.mem_append.mp he with he | he
    · exact hf b a e he
    · exact ih _ e he

end Traced

namespace DeviceM

/-- What a computation reports, begun on the device of a journal. -/
def reports (x : DeviceM α) (j : Journal) : List Diagnostic := (x j.device).diagnostics

variable {j : Journal}

theorem reports_bind (x : DeviceM α) (f : α → DeviceM β) (j : Journal) :
    (x >>= f).reports j = x.reports j ++ (f (x.play j).1).reports (x.play j).2 :=
  Traced.diagnostics_bind (x j.device) fun r => f r.1 r.2

@[simp] theorem reports_pure (a : α) (j : Journal) : (pure a : DeviceM α).reports j = [] := rfl

@[simp] theorem reports_note (r : LogRecord) (j : Journal) : (note r).reports j = [] := rfl

@[simp] theorem reports_report (d : Diagnostic) (j : Journal) : (report d).reports j = [d] := rfl

@[simp] theorem reports_get (j : Journal) : (get : DeviceM Device).reports j = [] := rfl

theorem reports_ofTraced (x : Traced α) (j : Journal) : (ofTraced x).reports j = x.diagnostics :=
  (Traced.diagnostics_bind x fun a => pure (a, j.device)).trans (List.append_nil _)

theorem reports_foldlM (f : β → α → DeviceM β) (hf : ∀ b a j, (f b a).reports j = []) (l : List α)
    (b : β) (j : Journal) : (l.foldlM f b).reports j = [] := by
  induction l generalizing b j with
  | nil => rfl
  | cons a l ih => rw [List.foldlM_cons, reports_bind, hf, ih, List.append_nil]

theorem reports_forM (f : α → DeviceM PUnit) (hf : ∀ a j, (f a).reports j = []) (l : List α)
    (j : Journal) : (l.forM f).reports j = [] := by
  induction l generalizing j with
  | nil => rfl
  | cons a l ih => rw [List.forM, reports_bind, hf, ih, List.append_nil]

end DeviceM

namespace Device

open DeviceM

theorem reports_deleteProgram (h : ProgramHandle) (j : Journal) :
    (deleteProgram h).reports j = [] := by
  rw [reports, deleteProgram]
  split <;> rfl

theorem outlook_deleteProgram (h : ProgramHandle) (j : Journal) :
    ((deleteProgram h).play j).2.device.programRefusal? = j.device.programRefusal? ∧
      ((deleteProgram h).play j).2.device.style = j.device.style := by
  rw [play, deleteProgram]
  split <;> exact ⟨rfl, rfl⟩

theorem reports_createProgram (stage : Stage) (source : String) (label : Option String)
    (j : Journal) : (createProgram stage source label).reports j = [] := by
  unfold reports createProgram
  cases j.device.programRefusal? <;> rfl

/-- An object that was made has the result of its text. -/
theorem isLinked_addProgram (d : Device) (stage : Stage) (source : String) :
    (d.addProgram stage source).isLinked d.nextProgramHandle =
      (Compiler.compile stage source).linked := by
  rw [isLinked, addProgram, Table.get?_insert, if_pos rfl]
  rfl

theorem infoLog_addProgram (d : Device) (stage : Stage) (source : String) :
    (d.addProgram stage source).infoLog d.nextProgramHandle =
      (Compiler.compile stage source).log d.style := by
  rw [infoLog, addProgram, Table.get?_insert, if_pos rfl]
  rfl

theorem reports_setUniform (h : ProgramHandle) (location : UniformLocation) (value : UniformValue)
    (j : Journal) : (setUniform h location value).reports j = [] := by
  unfold reports setUniform
  cases (j.device.programs.get? h).filter (·.result.linked) <;> rfl

end Device

/-! ## A compile -/

namespace Program

open Device DeviceM

variable {p : Program} {j : Journal} {h : ProgramHandle}

theorem reports_forward (p : Program) (h : ProgramHandle) (name : String) (value : UniformValue)
    (inactive : LogRecord) (j : Journal) :
    (p.forward h name value inactive).reports j = [] := by
  have hlocation : (p.location name).reports j = [] := by
    unfold location
    cases p.usable? with
    | none => rfl
    | some h =>
      cases p.locations.get? name with
      | some known => rfl
      | none => exact (reports_bind ..).trans rfl
  unfold forward
  rw [reports_bind, hlocation]
  simp only
  cases ((p.location name).play j).1.1 with
  | none => exact (reports_bind ..).trans rfl
  | some location =>
    simp only
    rw [reports_bind, reports_setUniform, reports_pure]
    rfl

theorem build_forward (p : Program) (h : ProgramHandle) (name : String) (value : UniformValue)
    (inactive : LogRecord) (j : Journal) :
    ((p.forward h name value inactive).play j).1.build = p.build := by
  have hlocation : ((p.location name).play j).1.2.build = p.build := by
    unfold location
    cases p.usable? with
    | none => rw [play_pure]
    | some h =>
      cases p.locations.get? name with
      | some known =>
        simp only
        rw [play_pure]
      | none =>
        simp only
        rw [play_bind, play_pure]
  unfold forward
  rw [play_bind]
  generalize (p.location name).play j = r at hlocation
  obtain ⟨⟨location, p'⟩, j'⟩ := r
  cases location <;> simp only [play_bind, play_note, play_pure] <;> exact hlocation

theorem reports_replay (p : Program) (h : ProgramHandle) (j : Journal) :
    (p.replay h).reports j = [] := by
  unfold replay
  rw [reports_bind, reports_foldlM _ (fun b a j => reports_forward ..), reports_bind,
    reports_forM _ (fun a j => rfl), reports_bind, reports_forM _ (fun a j => rfl)]
  rfl

theorem build_replay (p : Program) (h : ProgramHandle) (j : Journal) :
    ((p.replay h).play j).1.build = p.build := by
  unfold replay
  simp only [play_bind, play_pure]
  exact play_foldlM (motive := fun _ (p' : Program) _ => p'.build = p.build) _ _ rfl
    fun e _ p' j' hb => (build_forward ..).trans hb

/-- What giving up an object leaves of the program and the device. -/
theorem play_retire (p : Program) (j : Journal) :
    (p.retire.play j).1 = { p with
        build := .compiling, compileCount := p.compileCount + 1, workGroup := .zero,
        handle? := none } ∧
      (p.retire.play j).2.device.programRefusal? = j.device.programRefusal? ∧
      (p.retire.play j).2.device.style = j.device.style ∧ p.retire.reports j = [] := by
  unfold retire release
  cases p.handle? with
  | none => exact ⟨by rw [play_pure], by rw [play_pure], by rw [play_pure], rfl⟩
  | some h =>
    simp only [play_bind, play_pure, reports_bind, reports_deleteProgram, reports_pure]
    obtain ⟨hrefusal, hstyle⟩ := outlook_deleteProgram h j
    exact ⟨trivial, hrefusal, hstyle, rfl⟩

/-- What a compile on a device that does not refuse leaves and reports. -/
theorem reports_compile (hd : j.device.programRefusal? = none) (unit : CompileUnit)
    (listOnError : Bool) :
    ((p.compile unit listOnError).play j).1.build =
        (if (Compiler.compile p.key.stage unit.text).linked then .valid else .invalid) ∧
      (p.compile unit listOnError).reports j =
        if (Compiler.compile p.key.stage unit.text).linked then []
        else .compileFailed p.key.stage p.key.path (unit.localizeLog
            ((Compiler.compile p.key.stage unit.text).log j.device.style)) ::
          if listOnError then [.listing unit.listing] else [] := by
  obtain ⟨hretired, hrefusal, hstyle, hsilent⟩ := play_retire p j
  unfold compile
  rw [play_bind, reports_bind, hsilent, List.nil_append]
  generalize p.retire.play j = r at hretired hrefusal hstyle
  obtain ⟨p₁, j₁⟩ := r
  simp only at hretired hrefusal hstyle ⊢
  subst hretired
  have hf : j₁.device.programRefusal? = none := hrefusal.trans hd
  rw [play_bind, reports_bind, reports_createProgram, List.nil_append, play_createProgram _ _ _ hf]
  simp only [play_bind, play_get, reports_bind, reports_get, List.nil_append, Journal.push]
  rw [isLinked_addProgram]
  cases hl : (Compiler.compile p.key.stage unit.text).linked with
  | true =>
    simp only [if_true, play_bind, play_note, play_pure, reports_bind, reports_replay, reports_note,
      reports_pure, build_replay]
    exact ⟨rfl, rfl⟩
  | false =>
    simp only [Bool.false_eq_true, if_false, play_bind, play_report, reports_bind,
      reports_deleteProgram, reports_report, List.nil_append, List.singleton_append, infoLog_addProgram, hstyle]
    cases listOnError with
    | true =>
      simp only [if_true, play_bind, play_report, play_pure, reports_bind, reports_report, reports_pure]
      exact ⟨trivial, rfl⟩
    | false =>
      simp only [Bool.false_eq_true, if_false, play_pure, reports_pure]
      exact ⟨trivial, trivial⟩

end Program

end ShaderDepot
