import ShaderDepot.Proofs.Device.Numbers
import ShaderDepot.Proofs.Device.Objects

/-!
# A device that fits its calls

The calls that reached a device tell which objects it has, and as long as no number was given to two
objects they are lawful (`Journal.Sound`).  An operation that leaves the objects as they are keeps this as
long as it is used as the protocol has it (`Journal.Quiet`).  While all numbers are distinct it has to be;
once one was given out again, nothing is asked of it any more.
-/

namespace ShaderDepot

/-- The two kinds of blocks that are given bindings. -/
inductive BlockKind
  | uniform
  | storage
  deriving DecidableEq, Repr

def Device.bindBlock : BlockKind → ProgramHandle → String → Nat → DeviceM Unit
  | .uniform => bindUniformBlock
  | .storage => bindStorageBlock

/-- The calls tell what the device has, and they are lawful, if the numbers of its objects are distinct. -/
structure Journal.Sound (j : Journal) : Prop where
  alive : ∀ t, Alive j.calls t ↔ j.device.Knows t
  honest : j.device.Honest
  archived : ∀ h result, j.device.archive.get? h = some result → j.Issued (.program h)
  numbered : j.Numbered
  /-- A device that refused no program has not come to the number that it keeps back. -/
  granted : j.device.refusedPrograms = 0 → j.device.programRequests + 1 < UInt32.size
  named : ∀ c ∈ j.calls, ∀ t ∈ c.needs, j.Distinct t.kind → j.Issued t
  lawful : (∀ kind, j.Distinct kind) → Lawful j.device.archive j.calls

namespace Journal

variable {j : Journal}

theorem sound_create (style : LogStyle) : Journal.Sound ⟨Device.create style, []⟩ where
  alive t := by
    constructor
    · rintro ⟨before, c, after, h, -⟩
      cases before <;> cases h
    · intro h
      cases t <;> cases h
  honest _ _ h := nomatch h
  archived _ _ h := nomatch h
  numbered kind := List.nil_sublist _
  granted _ := show 0 + 1 < UInt32.size by decide
  named c hc := nomatch hc
  lawful _ before c after h := by cases before <;> cases h

theorem Sound.issued_of_knows (hj : j.Sound) {t : LabelTarget} (ht : j.device.Knows t) : j.Issued t :=
  ((hj.alive t).mpr ht).created

theorem Sound.distinct_of_granted (hj : j.Sound) (h : j.device.refusedPrograms = 0) :
    j.Distinct .program := hj.numbered.distinct (Nat.le_of_lt (Nat.lt_of_succ_lt (hj.granted h)))

theorem Sound.sameObjects (hj : j.Sound) {d : Device} (h : Device.SameObjects j.device d) :
    Journal.Sound ⟨d, j.calls⟩ where
  alive t := (hj.alive t).trans (h.knows_iff t).symm
  honest := h.honest hj.honest
  archived p result hp := by
    rw [h.archive] at hp
    exact hj.archived p result hp
  numbered := hj.numbered.of_le fun kind => Nat.le_of_eq (h.requests kind).symm
  granted hrefused := by
    have hrequests : d.programRequests = j.device.programRequests := h.requests .program
    rw [hrequests]
    exact hj.granted (h.refusedPrograms.symm.trans hrefused)
  named := hj.named
  lawful hd := by
    rw [h.archive]
    exact hj.lawful hd

/-! ## One more call -/

/-- A call that does to the objects what it says, and is permitted if all numbers are distinct. -/
theorem Sound.push (hj : j.Sound) {c : DeviceCall} {d : Device}
    (hknows : ∀ t, d.Knows t ↔ c.creates? = some t ∨ j.device.Knows t ∧ c.deletes? ≠ some t)
    (hhonest : d.Honest)
    (harchived : ∀ h result, d.archive.get? h = some result → (j.push c d).Issued (.program h))
    (hnumbered : (j.push c d).Numbered)
    (hgranted : d.refusedPrograms = 0 → d.programRequests + 1 < UInt32.size)
    (hneeds : ∀ t ∈ c.needs, j.Distinct t.kind → j.device.Knows t)
    (hlawful : (∀ kind, (j.push c d).Distinct kind) → Permitted j.device.archive j.calls c ∧
      ∀ h result, j.device.archive.get? h = some result → d.archive.get? h = some result) :
    (j.push c d).Sound where
  alive t := by
    show Alive (j.calls ++ [c]) t ↔ d.Knows t
    rw [hknows t, ← hj.alive t]
    exact alive_append_singleton
  honest := hhonest
  archived := harchived
  numbered := hnumbered
  granted := hgranted
  named c' hc' t ht hd := by
    rw [issued_push]
    rcases List.mem_append.mp hc' with hc' | hc'
    · exact .inl (hj.named c' hc' t ht hd.of_push)
    · rw [List.mem_singleton.mp hc'] at ht
      exact .inl (hj.issued_of_knows (hneeds t ht hd.of_push))
  lawful hd := by
    obtain ⟨hpermitted, harchive⟩ := hlawful hd
    exact (hj.lawful fun kind => (hd kind).of_push).append_singleton harchive hpermitted

/-- What a call asks for that makes nothing: it names what is there, uses what linked, and writes where
there is something to be written to.  It is asked for only while the numbers are distinct. -/
structure Fits (c : DeviceCall) (j : Journal) : Prop where
  creates : c.creates? = none
  needs : ∀ t ∈ c.needs, j.Distinct t.kind → j.device.Knows t
  uses : j.Distinct .program → ∀ h, c.uses? = some h → j.device.isLinked h
  writes : j.Distinct .program → ∀ h location, c.writes? = some (h, location) →
    ∃ name, j.device.location? h name = some location

theorem Fits.permitted {c : DeviceCall} (hc : Fits c j) (hj : j.Sound)
    (hd : ∀ kind, j.Distinct kind) : Permitted j.device.archive j.calls c where
  fresh t ht := by
    rw [hc.creates] at ht
    cases ht
  alive t ht := (hj.alive t).mpr (hc.needs t ht (hd _))
  linked h hh := by
    obtain ⟨o, ho, hlinked⟩ := Device.isLinked_iff.mp (hc.uses (hd _) h hh)
    exact ⟨o.result, (hj.honest h o ho).2, hlinked⟩
  located h location hh := by
    obtain ⟨name, hn⟩ := hc.writes (hd _) h location hh
    rw [Device.location?_eq] at hn
    obtain ⟨o, ho, hl⟩ := Option.bind_eq_some_iff.mp hn
    exact ⟨o.result, name, (hj.honest h o ho).2, hl⟩

/-- A call that makes nothing leaves the numbers and the archive as they are. -/
theorem Sound.push_of_fits (hj : j.Sound) {c : DeviceCall} {d : Device} (hc : Fits c j)
    (hknows : ∀ t, d.Knows t ↔ j.device.Knows t ∧ c.deletes? ≠ some t) (hhonest : d.Honest)
    (harchive : d.archive = j.device.archive)
    (hrequests : ∀ kind, d.requests kind = j.device.requests kind)
    (hrefused : d.refusedPrograms = j.device.refusedPrograms) : (j.push c d).Sound := by
  refine hj.push (fun t => ?_) hhonest (fun h result hr => ?_)
    (hj.numbered.push_of_none hc.creates hrequests) (fun hzero => ?_) hc.needs fun hd => ⟨?_, ?_⟩
  · rw [hknows, hc.creates]
    exact (or_iff_right nofun).symm
  · rw [harchive] at hr
    exact issued_push.mpr (.inl (hj.archived h result hr))
  · rw [show d.programRequests = j.device.programRequests from hrequests .program]
    exact hj.granted (hrefused.symm.trans hzero)
  · exact hc.permitted hj fun kind => (hd kind).of_push
  · rw [harchive]
    exact fun _ _ hr => hr

theorem Sound.quiet (hj : j.Sound) {c : DeviceCall} {d : Device}
    (h : Device.SameObjects j.device d) (hc : Fits c j) (hdeletes : c.deletes? = none) :
    (j.push c d).Sound := by
  refine hj.push_of_fits hc (fun t => ?_) (h.honest hj.honest) h.archive h.requests h.refusedPrograms
  rw [h.knows_iff, hdeletes]
  exact (and_iff_left nofun).symm

/-- What follows leaves the objects as they are and the calls lawful. -/
structure Quiet (j j' : Journal) : Prop where
  same : Device.SameObjects j.device j'.device
  calls : j.calls <+: j'.calls
  issues : ∀ kind, j'.issues kind = j.issues kind
  sound : j'.Sound

theorem Quiet.refl (hj : j.Sound) : Quiet j j := ⟨.refl _, List.prefix_rfl, fun _ => rfl, hj⟩

theorem Quiet.trans {j' j'' : Journal} (h : Quiet j j') (h' : Quiet j' j'') : Quiet j j'' :=
  ⟨h.same.trans h'.same, h.calls.trans h'.calls, fun kind => (h'.issues kind).trans (h.issues kind),
    h'.sound⟩

end Journal

namespace Device

open Journal

variable {j : Journal} {h : ProgramHandle}

/-! ## Operations that leave the objects as they are -/

theorem knows_program_of_isLinked {d : Device} (hl : d.isLinked h) : d.Knows (.program h) := by
  obtain ⟨o, ho, -⟩ := isLinked_iff.mp hl
  rw [Knows, ho]
  rfl

/-- A call that names one program, which linked. -/
theorem fits_use {c : DeviceCall} (hc : c.creates? = none) (hneeds : c.needs = [.program h])
    (huses : c.uses? = some h) (hl : j.Distinct .program → j.device.isLinked h)
    (hwrites : j.Distinct .program → ∀ location, c.writes? = some (h, location) →
      ∃ name, j.device.location? h name = some location)
    (honly : ∀ p location, c.writes? = some (p, location) → p = h) : Fits c j where
  creates := hc
  needs t ht hd := by
    rw [hneeds, List.mem_singleton] at ht
    subst ht
    exact knows_program_of_isLinked (hl hd)
  uses hd p hp := by
    rw [huses] at hp
    rw [← Option.some.inj hp]
    exact hl hd
  writes hd p location hp := by
    obtain rfl := honly p location hp
    exact hwrites hd location hp

/-- A call that names some objects, uses no program, and writes nothing. -/
theorem fits_mention {c : DeviceCall} (hc : c.creates? = none) (huses : c.uses? = none)
    (hwrites : c.writes? = none) (hneeds : ∀ t ∈ c.needs, j.Distinct t.kind → j.device.Knows t) :
    Fits c j where
  creates := hc
  needs := hneeds
  uses _ p hp := by
    rw [huses] at hp
    cases hp
  writes _ p location hp := by
    rw [hwrites] at hp
    cases hp

theorem quiet_push (hj : j.Sound) {c : DeviceCall} {d : Device} (same : SameObjects j.device d)
    (hc : Fits c j) (hdeletes : c.deletes? = none) : Quiet j (j.push c d) :=
  ⟨same, prefix_push j c d, issues_push_of_none hc.creates d, hj.quiet same hc hdeletes⟩

theorem quiet_askLocation (hj : j.Sound) (hl : j.Distinct .program → j.device.isLinked h)
    (name : String) : Quiet j ((askLocation h name).play j).2 :=
  quiet_push hj (.refl _) (fits_use rfl rfl rfl hl (fun _ _ => nofun) fun _ _ => nofun) rfl

theorem quiet_bindBlock (hj : j.Sound) (hl : j.Distinct .program → j.device.isLinked h)
    (kind : BlockKind) (block : String) (n : Nat) :
    Quiet j ((bindBlock kind h block n).play j).2 := by
  cases kind <;>
    exact quiet_push hj (.refl _) (fits_use rfl rfl rfl hl (fun _ _ => nofun) fun _ _ => nofun) rfl

theorem play_setUniform (h : ProgramHandle) (location : UniformLocation) (value : UniformValue)
    (j : Journal) : ∃ d, SameObjects j.device d ∧
      ((setUniform h location value).play j).2 = j.push (.setUniform h location value) d := by
  cases hp : (j.device.programs.get? h).filter (·.result.linked) with
  | none =>
    -- The device drops the value, but the call has reached it.
    refine ⟨j.device, .refl _, ?_⟩
    simp only [DeviceM.play, setUniform, hp]
    rfl
  | some p =>
    refine ⟨_, sameObjects_store (Option.filter_eq_some_iff.mp hp).1 location value, ?_⟩
    simp only [DeviceM.play, setUniform, hp]
    rfl

theorem quiet_setUniform (hj : j.Sound) (hl : j.Distinct .program → j.device.isLinked h) {name : String}
    {location : UniformLocation}
    (hn : j.Distinct .program → j.device.location? h name = some location) (value : UniformValue) :
    Quiet j ((setUniform h location value).play j).2 := by
  obtain ⟨d, same, hd⟩ := play_setUniform h location value j
  rw [hd]
  refine quiet_push hj same (fits_use rfl rfl rfl hl (fun hd l hp => ?_) fun p l hp => ?_) rfl
  · obtain ⟨-, rfl⟩ := Prod.mk.inj (Option.some.inj hp)
    exact ⟨name, hn hd⟩
  · exact (Prod.mk.inj (Option.some.inj hp)).1.symm

theorem quiet_setLabel (hj : j.Sound) {t : LabelTarget} (ht : j.Distinct t.kind → j.device.Knows t)
    (label : String) : Quiet j ((setLabel t label).play j).2 := by
  have same : SameObjects j.device { j.device with labels := j.device.labels.insert t label } :=
    ⟨fun _ => rfl, rfl, rfl, fun kind => by cases kind <;> rfl, rfl⟩
  refine quiet_push hj same (fits_mention rfl rfl rfl fun t' ht' => ?_) rfl
  rwa [List.mem_singleton.mp ht']

theorem quiet_bindPipeline (hj : j.Sound) {p : PipelineHandle}
    (hp : j.Distinct .pipeline → j.device.Knows (.pipeline p)) :
    Quiet j ((bindPipeline p).play j).2 := by
  have same : SameObjects j.device { j.device with bound := some p } :=
    ⟨fun _ => rfl, rfl, rfl, fun kind => by cases kind <;> rfl, rfl⟩
  refine quiet_push hj same (fits_mention rfl rfl rfl fun t ht => ?_) rfl
  rwa [List.mem_singleton.mp ht]

theorem quiet_dispatchCompute (hj : j.Sound) (groups : Extent) :
    Quiet j ((dispatchCompute groups).play j).2 :=
  quiet_push hj (.refl _) (fits_mention rfl rfl rfl fun _ ht => nomatch ht) rfl

end Device

end ShaderDepot
