import ShaderDepot.Program
import ShaderDepot.Proofs.Device.Sound

/-!
# Using a program

Between two compiles a program keeps its object.  A valid program holds an object that linked, and
remembers locations that the object has (`Program.Holds`); any other has none.  Asking for
locations and setting uniforms and bindings keeps this (`Program.Used`).
-/

namespace ShaderDepot

namespace Program

open Device Journal DeviceM

/-- The program's object linked, and the locations that the program knows are the object's. -/
structure Holds (p : Program) (d : Device) (h : ProgramHandle) : Prop where
  handle : p.handle? = some h
  linked : d.isLinked h = true
  located : ∀ name found, p.locations.get? name = some found → found = d.location? h name

/-- A program has an object exactly when it is valid, and holds it while the numbers of programs are
distinct. -/
structure Settled (p : Program) (j : Journal) : Prop where
  isSome_handle? : p.handle?.isSome = p.isValid
  holds : j.Distinct .program → ∀ h, p.handle? = some h → p.Holds j.device h

/-- What using a program leaves of it and of the device. -/
structure Used (p : Program) (j : Journal) (p' : Program) (j' : Journal) : Prop where
  key : p'.key = p.key
  entry : p'.entry = p.entry
  handle : p'.handle? = p.handle?
  build : p'.build = p.build
  quiet : Quiet j j'
  holds : ∀ h, p.Holds j.device h → p'.Holds j'.device h

variable {p p' p'' : Program} {j j' j'' : Journal} {d d' : Device} {h : ProgramHandle}

/-- What a program holds depends on its object only. -/
theorem Holds.congr (hp : p.Holds d h) (hm : d'.made? h = d.made? h) : p.Holds d' h where
  handle := hp.handle
  linked := by
    rw [isLinked_eq, hm, ← isLinked_eq]
    exact hp.linked
  located name found hf := by
    rw [location?_eq, hm, ← location?_eq]
    exact hp.located name found hf

theorem Settled.congr (hp : p.Settled j) (hcalls : j.calls <+: j'.calls)
    (hm : j'.Distinct .program → ∀ h, p.handle? = some h → j'.device.made? h = j.device.made? h) :
    p.Settled j' where
  isSome_handle? := hp.isSome_handle?
  holds hd h hh := (hp.holds (hd.of_initial hcalls) h hh).congr (hm hd h hh)

/-- A program that holds an object and is valid. -/
theorem Holds.settled (hp : p.Holds j.device h) (hv : p.build = .valid) : p.Settled j where
  isSome_handle? := by
    rw [hp.handle, isValid, decide_eq_true hv]
    rfl
  holds _ h' hh := by
    obtain rfl := Option.some.inj (hp.handle.symm.trans hh)
    exact hp

theorem settled_of_none (hv : p.build ≠ .valid) (hn : p.handle? = none) : p.Settled j where
  isSome_handle? := by
    rw [hn, isValid, decide_eq_false hv]
    rfl
  holds _ h hh := by
    rw [hn] at hh
    cases hh

theorem Settled.isValid_iff (hp : p.Settled j) (hd : j.Distinct .program) :
    p.isValid = true ↔ ∃ h, p.handle? = some h ∧ j.device.isLinked h = true := by
  rw [← hp.isSome_handle?, Option.isSome_iff_exists]
  exact exists_congr fun h => (and_iff_left_of_imp fun hh => (hp.holds hd h hh).linked).symm

theorem Settled.knows (hp : p.Settled j) (hd : j.Distinct .program) (hh : p.handle? = some h) :
    j.device.Knows (.program h) :=
  knows_program_of_isLinked (hp.holds hd h hh).linked

theorem usable?_eq_some : p.usable? = some h ↔ p.handle? = some h ∧ p.build = .valid := by
  rw [usable?, Option.filter_eq_some_iff, isValid, decide_eq_true_iff]

theorem bind_usable?_eq (q : Option Program) :
    q.bind usable? = (q.filter (·.isValid)).bind (·.handle?) := by
  cases q with
  | none => rfl
  | some p =>
    rw [Option.bind_some, Option.filter_some, usable?]
    cases p.isValid with
    | true =>
      rw [if_pos rfl, Option.bind_some]
      cases p.handle? <;> rfl
    | false =>
      rw [if_neg Bool.false_ne_true, Option.bind_none]
      cases p.handle? <;> rfl

theorem Used.refl (p : Program) (hj : j.Sound) : Used p j p j :=
  ⟨rfl, rfl, rfl, rfl, .refl hj, fun _ h => h⟩

theorem Used.trans (h : Used p j p' j') (h' : Used p' j' p'' j'') : Used p j p'' j'' where
  key := h'.key.trans h.key
  entry := h'.entry.trans h.entry
  handle := h'.handle.trans h.handle
  build := h'.build.trans h.build
  quiet := h.quiet.trans h'.quiet
  holds a ha := h'.holds a (h.holds a ha)

/-- What is set on a program, and what the device hears of it, leaves the program's object. -/
theorem used_quiet (hq : Quiet j j') (key : p'.key = p.key) (entry : p'.entry = p.entry)
    (handle : p'.handle? = p.handle?) (build : p'.build = p.build)
    (locations : p'.locations = p.locations) : Used p j p' j' where
  key := key
  entry := entry
  handle := handle
  build := build
  quiet := hq
  holds h hp := by
    -- The object is as it was, and so is what is known of its locations.
    obtain ⟨hh, hl, hloc⟩ := hp.congr (hq.same.made h)
    exact ⟨handle.trans hh, hl, by rwa [locations]⟩

theorem Used.settled (hu : Used p j p' j') (hp : p.Settled j) : p'.Settled j' where
  isSome_handle? := by
    rw [hu.handle, hp.isSome_handle?, isValid, isValid, hu.build]
  holds hd h hh := hu.holds h (hp.holds (hd.of_initial hu.quiet.calls) h (hu.handle.symm.trans hh))

/-- The object of a settled program is at its disposal. -/
theorem Settled.usable?_eq (hp : p.Settled j) : p.usable? = p.handle? := by
  have hsome := hp.isSome_handle?
  rw [usable?]
  cases hh : p.handle? with
  | none => rfl
  | some h =>
    rw [hh] at hsome
    rw [Option.filter_some, ← hsome]
    rfl

/-! ## Locations and values -/

/-- A location that a program hands out is that of the object that it holds. -/
theorem used_location (hj : j.Sound) (hp : p.Settled j) (name : String) :
    Used p j ((p.location name).play j).1.2 ((p.location name).play j).2 ∧
      ∀ h, p.usable? = some h → p.Holds j.device h →
        ((p.location name).play j).1.1 = j.device.location? h name := by
  unfold location
  cases hu : p.usable? with
  | none =>
    rw [play_pure]
    exact ⟨.refl p hj, fun h hh => nomatch hh⟩
  | some h =>
    have hhandle := (usable?_eq_some.mp hu).1
    cases hl : p.locations.get? name with
    | some known =>
      -- A location asked for before is remembered, and the object is still the same.
      rw [play_pure]
      exact ⟨.refl p hj, fun h' _ hold => hold.located name known hl⟩
    | none =>
      -- The device is asked, and its answer is remembered.
      rw [play_bind, play_pure]
      have hq := quiet_askLocation hj (fun hd => (hp.holds hd h hhandle).linked) name
      constructor
      · refine ⟨rfl, rfl, rfl, rfl, hq, fun h' hp' => ?_⟩
        obtain ⟨hh', hl', hloc'⟩ := hp'.congr (hq.same.made h')
        refine ⟨hh', hl', fun name' found hf => ?_⟩
        have hsame : h' = h := Option.some.inj (hh'.symm.trans hhandle)
        simp only [Table.get?_insert] at hf
        split at hf
        · next e =>
          rw [← e, hsame]
          exact (Option.some.inj hf).symm
        · exact hloc' name' found hf
      · intro h' hh _
        rw [← Option.some.inj hh]
        rfl

/-- The location that a valid program hands out is fit to be written to. -/
theorem used_forward (hj : j.Sound) (hp : p.Settled j) (hu : p.usable? = some h)
    (name : String) (value : UniformValue) (inactive : LogRecord) :
    Used p j ((p.forward h name value inactive).play j).1
      ((p.forward h name value inactive).play j).2 := by
  obtain ⟨hused, hloc⟩ := used_location hj hp name
  have hfound := hloc h hu
  have hhandle := (usable?_eq_some.mp hu).1
  unfold forward
  rw [play_bind]
  generalize (p.location name).play j = r at hused hfound
  obtain ⟨⟨location, p'⟩, j'⟩ := r
  cases location with
  | none =>
    -- The program has no such uniform: nothing is written.
    simp only
    rw [play_bind, play_note, play_pure]
    exact hused
  | some location =>
    simp only
    rw [play_bind, play_pure]
    have hhold : j'.Distinct .program → p.Holds j.device h := fun hd =>
      hp.holds (hd.of_initial hused.quiet.calls) h hhandle
    have hn : j'.Distinct .program → j'.device.location? h name = some location := by
      intro hd
      rw [location?_eq, hused.quiet.same.made h, ← location?_eq, ← hfound (hhold hd)]
    have hq := quiet_setUniform hused.quiet.sound (fun hd => (hused.holds h (hhold hd)).linked) hn value
    exact hused.trans (used_quiet hq rfl rfl rfl rfl rfl)

theorem used_setUniform (hj : j.Sound) (hp : p.Settled j) (name : String)
    (value : UniformValue) :
    Used p j ((p.setUniform name value).play j).1 ((p.setUniform name value).play j).2 := by
  unfold setUniform
  have hset : Used p j { p with uniforms := p.uniforms.insert name value } j :=
    used_quiet (.refl hj) rfl rfl rfl rfl rfl
  -- A value that was set before is not written again.
  by_cases hprev : (p.uniforms.get? name).any (·.equal value) = true
  · simp only [hprev, if_true]
    rw [play_pure]
    exact hset
  · simp only [hprev, Bool.false_eq_true, if_false]
    cases hu : usable? { p with uniforms := p.uniforms.insert name value } with
    | none =>
      simp only [play_pure]
      exact hset
    | some h =>
      exact hset.trans (used_forward hj (hset.settled hp) hu name value _)

/-! ## Bindings -/

def bindBlock (p : Program) : BlockKind → String → Nat → DeviceM Program
  | .uniform => p.bindUniformBlock
  | .storage => p.bindStorageBlock

/-- A program that remembers a binding. -/
def withBinding (p : Program) (kind : BlockKind) (block : String) (n : Nat) : Program :=
  match kind with
  | .uniform => { p with uniformBlocks := p.uniformBlocks.insert block n }
  | .storage => { p with storageBlocks := p.storageBlocks.insert block n }

theorem play_bindBlock (p : Program) (kind : BlockKind) (block : String) (n : Nat) (j : Journal) :
    (p.bindBlock kind block n).play j =
      (p.withBinding kind block n,
        p.usable?.elim j fun h => ((Device.bindBlock kind h block n).play j).2) := by
  cases kind with
  | uniform =>
    show (p.bindUniformBlock block n).play j = _
    unfold bindUniformBlock
    cases p.usable? with
    | none => exact play_pure ..
    | some h =>
      simp only [play_bind, play_pure]
      rfl
  | storage =>
    show (p.bindStorageBlock block n).play j = _
    unfold bindStorageBlock
    cases p.usable? with
    | none => exact play_pure ..
    | some h =>
      simp only [play_bind, play_pure]
      rfl

theorem used_bindBlock (hj : j.Sound) (hp : p.Settled j) (kind : BlockKind) (block : String) (n : Nat) :
    Used p j ((p.bindBlock kind block n).play j).1 ((p.bindBlock kind block n).play j).2 := by
  have hquiet : Quiet j ((p.bindBlock kind block n).play j).2 := by
    rw [play_bindBlock]
    cases hu : p.usable? with
    | none => exact .refl hj
    | some h =>
      exact quiet_bindBlock hj (fun hd => (hp.holds hd h (usable?_eq_some.mp hu).1).linked) kind block n
  rw [play_bindBlock] at hquiet ⊢
  cases kind <;> exact used_quiet hquiet rfl rfl rfl rfl rfl

end Program

end ShaderDepot
