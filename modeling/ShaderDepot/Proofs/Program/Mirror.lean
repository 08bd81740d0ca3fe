import ShaderDepot.Proofs.Device.Contents
import ShaderDepot.Proofs.Program.Compile
import ShaderDepot.Proofs.Table
import ShaderDepot.Proofs.Uniform

/-!
# The device mirrors what was set on a program

What was set on a program is kept by the program, and its object holds the same: the values of the active
uniforms, up to equality of numbers, and the bindings of the blocks (`Retained.Mirrored`).  Setting and
binding keep this, though an equal value is not handed on, and a compile brings it about for the new
object (`follows_compile`).
-/

namespace ShaderDepot

/-- What was set on a program. -/
structure Retained where
  uniforms : Table String UniformValue := ∅
  uniformBlocks : Table String Nat := ∅
  storageBlocks : Table String Nat := ∅

namespace Retained

open Journal

def blocks (t : Retained) : BlockKind → Table String Nat
  | .uniform => t.uniformBlocks
  | .storage => t.storageBlocks

def setUniform (t : Retained) (name : String) (value : UniformValue) : Retained :=
  { t with uniforms := t.uniforms.insert name value }

def bindBlock (t : Retained) (kind : BlockKind) (block : String) (n : Nat) : Retained :=
  match kind with
  | .uniform => { t with uniformBlocks := t.uniformBlocks.insert block n }
  | .storage => { t with storageBlocks := t.storageBlocks.insert block n }

variable {t : Retained} {j j' : Journal} {h : ProgramHandle}

@[simp] theorem uniforms_bindBlock (t : Retained) (kind : BlockKind) (block : String) (n : Nat) :
    (t.bindBlock kind block n).uniforms = t.uniforms := by
  cases kind <;> rfl

theorem blocks_bindBlock (t : Retained) (kind kind' : BlockKind) (block : String) (n : Nat) :
    (t.bindBlock kind block n).blocks kind' =
      if kind = kind' then (t.blocks kind').insert block n else t.blocks kind' := by
  cases kind <;> cases kind' <;> rfl

/-- Each name was set to one value, and each block to one binding. -/
structure Unique (t : Retained) : Prop where
  uniforms : t.uniforms.Unique
  blocks : ∀ kind, (t.blocks kind).Unique

theorem unique_empty : ({} : Retained).Unique where
  uniforms := Table.unique_empty
  blocks kind := by cases kind <;> exact Table.unique_empty

theorem Unique.setUniform (h : t.Unique) (name : String) (value : UniformValue) :
    (t.setUniform name value).Unique where
  uniforms := h.uniforms.insert name value
  blocks := h.blocks

theorem Unique.bindBlock (h : t.Unique) (kind : BlockKind) (block : String) (n : Nat) :
    (t.bindBlock kind block n).Unique where
  uniforms := by
    rw [uniforms_bindBlock]
    exact h.uniforms
  blocks kind' := by
    rw [blocks_bindBlock]
    split
    · exact (h.blocks kind').insert block n
    · exact h.blocks kind'

/-- The device holds of a program what was set on it. -/
structure Mirrored (t : Retained) (j : Journal) (h : ProgramHandle) : Prop where
  value : ∀ name, (j.device.location? h name).isSome →
    Option.Rel UniformValue.Matches (j.device.value? h name) (t.uniforms.get? name)
  binding : ∀ kind block, j.binding? kind h block = (t.blocks kind).get? block

theorem Mirrored.untouched (hm : t.Mirrored j h) (hu : Untouched h j j') : t.Mirrored j' h where
  value name hn := by
    rw [hu.location?] at hn
    rw [hu.value?]
    exact hm.value name hn
  binding kind block := (hu.binding kind block).trans (hm.binding kind block)

/-- What the object has of a value equals any value that equals it. -/
theorem Mirrored.setUniform_of_equal (hm : t.Mirrored j h) {name : String} {value : UniformValue}
    (hprev : (t.uniforms.get? name).any (·.equal value) = true) :
    (t.setUniform name value).Mirrored j h where
  value name' hactive := by
    have hvalue := hm.value name' hactive
    rw [setUniform, Table.get?_insert]
    split
    · next e =>
      obtain ⟨previous, hget, hequal⟩ := (Option.any_eq_true _ _).mp hprev
      rw [← e] at hvalue ⊢
      rw [hget] at hvalue
      generalize j.device.value? h name = held at hvalue ⊢
      cases hvalue with
      | some hmatches => exact .some (hmatches.trans_equal hequal)
    · exact hvalue
  binding := hm.binding

theorem Mirrored.setUniform_of_written (hm : t.Mirrored j h) {name : String} {value : UniformValue}
    (hw : Device.Written h name value j j')
    (hlocation : ∀ name', (j'.device.location? h name').isSome = (j.device.location? h name').isSome) :
    (t.setUniform name value).Mirrored j' h where
  value name' hactive := by
    rw [hlocation] at hactive
    rw [hw.value name' hactive, setUniform, Table.get?_insert]
    split
    · exact .some (.inl rfl)
    · exact hm.value name' hactive
  binding kind block := (hw.binding kind block).trans (hm.binding kind block)

end Retained

namespace Program

open Device Journal DeviceM

variable {p p' : Program} {j j' : Journal} {h : ProgramHandle} {t : Retained}

def retained (p : Program) : Retained := ⟨p.uniforms, p.uniformBlocks, p.storageBlocks⟩

/-- A program becomes another on which `t` was set.  Its object holds that, and nothing that the device
had of other programs became another, as long as the numbers of programs are distinct. -/
structure Follows (p : Program) (j : Journal) (t : Retained) (p' : Program) (j' : Journal) : Prop where
  retained : p'.retained = t
  mirrored : j'.Distinct .program → ∀ h, p'.handle? = some h → t.Mirrored j' h
  others : j'.Distinct .program → ∀ h, j.Issued (.program h) → p.handle? ≠ some h → Untouched h j j'

/-- Without an object there is nothing to hold what was set. -/
theorem Follows.of_none (hretained : p'.retained = t) (hn : p'.handle? = none)
    (hothers : j'.Distinct .program → ∀ h, j.Issued (.program h) → p.handle? ≠ some h →
      Untouched h j j') : Follows p j t p' j' where
  retained := hretained
  mirrored _ h hh := by
    rw [hn] at hh
    cases hh
  others := hothers

/-! ## Locations and values -/

/-- A question for a location changes nothing that was set and nothing on the device. -/
theorem untouched_location (p : Program) (name : String) (j : Journal) :
    ((p.location name).play j).1.2.retained = p.retained ∧
      ((p.location name).play j).1.2.handle? = p.handle? ∧
      ∀ h, Untouched h j ((p.location name).play j).2 := by
  unfold location
  cases p.usable? with
  | none =>
    rw [play_pure]
    exact ⟨rfl, rfl, fun h => .refl h j⟩
  | some h =>
    cases p.locations.get? name with
    | some known =>
      simp only
      rw [play_pure]
      exact ⟨rfl, rfl, fun h => .refl h j⟩
    | none =>
      simp only
      rw [play_bind, play_pure]
      exact ⟨rfl, rfl, fun h' => untouched_askLocation h h' name j⟩

theorem follows_location
    (hm : j.Distinct .program → ∀ h, p.handle? = some h → p.retained.Mirrored j h) (name : String) :
    Follows p j p.retained ((p.location name).play j).1.2 ((p.location name).play j).2 := by
  obtain ⟨hretained, hhandle, huntouched⟩ := untouched_location p name j
  refine ⟨hretained, fun hd h hh => ?_, fun _ h _ _ => huntouched h⟩
  rw [hhandle] at hh
  exact (hm (hd.of_initial (prefix_play ..)) h hh).untouched (huntouched h)

theorem retained_forward (p : Program) (h : ProgramHandle) (name : String) (value : UniformValue)
    (inactive : LogRecord) (j : Journal) :
    ((p.forward h name value inactive).play j).1.retained = p.retained := by
  obtain ⟨hretained, -⟩ := untouched_location p name j
  unfold forward
  rw [play_bind]
  generalize (p.location name).play j = r at hretained
  obtain ⟨⟨location, p'⟩, j'⟩ := r
  cases location <;> simp only [play_bind, play_note, play_pure] <;> exact hretained

/-- Forwarding a value to the object that a program holds writes it, if the uniform is active. -/
theorem written_forward (hj : j.Sound) (hp : p.Settled j) (hu : p.usable? = some h)
    (hold : p.Holds j.device h) (name : String) (value : UniformValue) (inactive : LogRecord) :
    Written h name value j ((p.forward h name value inactive).play j).2 := by
  obtain ⟨hused, hfound⟩ := used_location hj hp name
  obtain ⟨-, -, huntouched⟩ := untouched_location p name j
  have hfound := hfound h hu hold
  unfold forward
  rw [play_bind]
  generalize (p.location name).play j = r at hused hfound huntouched
  obtain ⟨⟨location, p'⟩, j'⟩ := r
  simp only at hused hfound huntouched
  cases location with
  | none =>
    simp only [play_bind, play_note, play_pure]
    refine ⟨fun h' _ => huntouched h', fun name' hactive => ?_, (huntouched h).binding⟩
    -- The name of an active uniform is another.
    rw [(huntouched h).value?, if_neg]
    rintro rfl
    rw [← hfound] at hactive
    cases hactive
  | some location =>
    simp only [play_bind, play_pure]
    have hlocation : j'.device.location? h name = some location := by
      rw [(huntouched h).location?, ← hfound]
    have hw := written_setUniform (hused.holds h hold).linked hlocation value
    refine ⟨fun h' hne => (huntouched h').trans (hw.others h' hne), fun name' hactive => ?_,
      fun kind block => (hw.binding kind block).trans ((huntouched h).binding kind block)⟩
    rw [← (huntouched h).location?] at hactive
    rw [hw.value name' hactive, (huntouched h).value?]

theorem isSome_location?_of_used (hu : Used p j p' j') (h : ProgramHandle) (name : String) :
    (j'.device.location? h name).isSome = (j.device.location? h name).isSome := by
  rw [location?_eq, location?_eq, hu.quiet.same.made]

/-- A value that is set is held by the object, or one that equals it. -/
theorem follows_setUniform (hj : j.Sound) (hp : p.Settled j)
    (hm : j.Distinct .program → ∀ h, p.handle? = some h → p.retained.Mirrored j h) (name : String)
    (value : UniformValue) :
    Follows p j (p.retained.setUniform name value) ((p.setUniform name value).play j).1
      ((p.setUniform name value).play j).2 := by
  unfold setUniform
  by_cases hprev : (p.uniforms.get? name).any (·.equal value) = true
  · -- The value is not handed on.
    simp only [hprev, if_true]
    rw [play_pure]
    exact ⟨rfl, fun hd h hh => (hm hd h hh).setUniform_of_equal hprev, fun _ h _ _ => .refl h j⟩
  · simp only [hprev, Bool.false_eq_true, if_false]
    have hset : Used p j { p with uniforms := p.uniforms.insert name value } j :=
      used_quiet (.refl hj) rfl rfl rfl rfl rfl
    have hsettled := hset.settled hp
    cases hu : usable? { p with uniforms := p.uniforms.insert name value } with
    | none =>
      -- There is no object yet.
      simp only [play_pure]
      rw [hsettled.usable?_eq] at hu
      exact .of_none rfl hu fun _ h _ _ => .refl h j
    | some h =>
      simp only
      have hused := used_forward hj hsettled hu name value (inactiveRecord p.key name value)
      have hhandle : p.handle? = some h := (usable?_eq_some.mp hu).1
      have hw : j.Distinct .program → Written h name value j _ := fun hd =>
        written_forward hj hsettled hu (hsettled.holds hd h hhandle) name value
          (inactiveRecord p.key name value)
      refine ⟨retained_forward .., fun hd h' hh => ?_, fun hd h' _ hne => ?_⟩
      · rw [hused.handle] at hh
        obtain rfl : h = h' := Option.some.inj (hhandle.symm.trans hh)
        have hd := hd.of_initial hused.quiet.calls
        exact (hm hd h hhandle).setUniform_of_written (hw hd) (isSome_location?_of_used hused h)
      · refine (hw (hd.of_initial hused.quiet.calls)).others h' ?_
        rintro rfl
        exact hne hhandle

/-! ## Bindings -/

theorem retained_withBinding (p : Program) (kind : BlockKind) (block : String) (n : Nat) :
    (p.withBinding kind block n).retained = p.retained.bindBlock kind block n := by
  cases kind <;> rfl

theorem follows_bindBlock (hp : p.Settled j)
    (hm : j.Distinct .program → ∀ h, p.handle? = some h → p.retained.Mirrored j h) (kind : BlockKind)
    (block : String) (n : Nat) :
    Follows p j (p.retained.bindBlock kind block n) ((p.bindBlock kind block n).play j).1
      ((p.bindBlock kind block n).play j).2 := by
  have hhandle : (p.withBinding kind block n).handle? = p.handle? := by cases kind <;> rfl
  rw [play_bindBlock, hp.usable?_eq]
  cases hh : p.handle? with
  | none =>
    exact .of_none (retained_withBinding ..) (hhandle.trans hh) fun _ h _ _ => .refl h j
  | some h =>
    rw [hh] at hhandle
    refine ⟨retained_withBinding .., fun hd h' hh' => ?_,
      fun _ h' _ hne => untouched_bindBlock kind block n ?_ j⟩
    · obtain rfl : h = h' := Option.some.inj (hhandle.symm.trans hh')
      have hmirrored := hm (hd.of_initial (prefix_play ..)) h hh
      refine ⟨fun name hactive => ?_, fun kind' block' => ?_⟩
      · rw [Option.elim_some, device_bindBlock] at hactive ⊢
        rw [Retained.uniforms_bindBlock]
        exact hmirrored.value name hactive
      · rw [Option.elim_some, binding?_bindBlock, hmirrored.binding, Retained.blocks_bindBlock]
        by_cases hk : kind = kind'
        · rw [if_pos hk, Table.get?_insert]
          exact if_congr ⟨fun e => e.2.2, fun e => ⟨hk, rfl, e⟩⟩ rfl rfl
        · rw [if_neg hk, if_neg fun e => hk e.1]
    · rintro rfl
      exact hne hh

end Program

end ShaderDepot
