import ShaderDepot.Proofs.Device.Creation

/-!
# What an operation leaves alone

An operation leaves a part of the device alone if this part is seen unchanged after it, whatever the
device was before (`DeviceM.Leaves`).  Such operations compose.  What carries a label is another matter:
a device is tidy if all that carries one is there (`Device.Tidy`), and it stays tidy because an object
takes its label along when it goes.
-/

namespace ShaderDepot

variable {α β γ : Type}

namespace DeviceM

/-- What `look` sees of the device is the same after the operation. -/
def Leaves (look : Device → γ) (x : DeviceM α) : Prop :=
  ∀ j : Journal, look (x.play j).2.device = look j.device

section

variable {look : Device → γ}

theorem leaves_pure (a : α) : Leaves look (pure a) := fun j => by rw [play_pure]

theorem leaves_note (r : LogRecord) : Leaves look (note r) := fun j => by rw [play_note]

theorem Leaves.bind {x : DeviceM α} {f : α → DeviceM β} (hx : Leaves look x)
    (hf : ∀ a, Leaves look (f a)) : Leaves look (x >>= f) := fun j => by
  rw [play_bind]
  exact (hf _ _).trans (hx j)

theorem leaves_foldlM {f : β → α → DeviceM β} (hf : ∀ b a, Leaves look (f b a)) (l : List α) (b : β) :
    Leaves look (l.foldlM f b) := fun j =>
  play_foldlM (motive := fun _ _ j' => look j'.device = look j.device) f l rfl
    fun a _ b' j' h => (hf b' a j').trans h

theorem leaves_forM {f : α → DeviceM PUnit} (hf : ∀ a, Leaves look (f a)) (l : List α) :
    Leaves look (l.forM f) := fun j =>
  play_forM (motive := fun j' => look j'.device = look j.device) f l rfl
    fun a _ j' h => (hf a j').trans h

end

end DeviceM

namespace Device

open Journal DeviceM

/-! ## All but the programs -/

/-- A device as it is seen by who does not look at its programs. -/
def besidePrograms (d : Device) : Device := { d with programs := ∅ }

theorem leaves_askLocation (h : ProgramHandle) (name : String) :
    Leaves besidePrograms (askLocation h name) := fun _ => rfl

theorem leaves_setUniform (h : ProgramHandle) (location : UniformLocation) (value : UniformValue) :
    Leaves besidePrograms (setUniform h location value) := fun j => by
  cases hp : (j.device.programs.get? h).filter (·.result.linked) with
  | none =>
    simp only [play, setUniform, hp]
  | some p =>
    simp only [play, setUniform, hp]
    rfl

theorem leaves_bindBlock (kind : BlockKind) (h : ProgramHandle) (block : String) (n : Nat) :
    Leaves besidePrograms (bindBlock kind h block n) := fun _ => by cases kind <;> rfl

/-- The work groups that a device reports for a program are those that the compiler found. -/
theorem workGroup_eq (d : Device) (h : ProgramHandle) :
    d.workGroup h = ((d.made? h).map fun o =>
      if o.stage = .compute then o.result.workGroup else .zero).getD .zero := by
  rw [workGroup, made?]
  cases d.programs.get? h <;> rfl

theorem workGroup_of_make {d : Device} {h : ProgramHandle} {text : String}
    (ho : d.programs.get? h = some (.make .compute text)) :
    d.workGroup h = (Compiler.compile .compute text).workGroup := by
  rw [workGroup, ho]
  rfl

/-! ## Labels -/

/-- All that carries a label is there. -/
def Tidy (d : Device) : Prop := ∀ t, (d.labels.get? t).isSome → d.Knows t

variable {d d' : Device}

theorem Tidy.congr (h : d.Tidy) (hlabels : d'.labels = d.labels) (hknows : ∀ t, d.Knows t → d'.Knows t) :
    d'.Tidy := by
  intro t ht
  rw [hlabels] at ht
  exact hknows t (h t ht)

theorem Tidy.setLabel (h : d.Tidy) {t : LabelTarget} (ht : d.Knows t) (label : String) :
    Tidy { d with labels := d.labels.insert t label } := by
  intro t' ht'
  have hknows : d.Knows t' → Knows { d with labels := d.labels.insert t label } t' := by
    cases t' <;> exact id
  apply hknows
  rw [Table.get?_insert] at ht'
  split at ht'
  · next e => rwa [← e]
  · exact h t' ht'

theorem Tidy.addProgram (h : d.Tidy) (stage : Stage) (source : String) :
    (d.addProgram stage source).Tidy :=
  h.congr rfl fun t ht => (knows_addProgram stage source t).mpr (.inr ht)

theorem Tidy.afterDelete (h : d.Tidy) (a : ProgramHandle) : (d.afterDelete a).Tidy := by
  intro t ht
  rw [knows_afterDelete]
  unfold Device.afterDelete at ht
  split at ht
  · have hget : ((d.labels.erase (.program a)).get? t).isSome := ht
    rw [Table.get?_erase] at hget
    split at hget
    · cases hget
    · next hne => exact ⟨h t hget, hne⟩
  · next hnot =>
    -- What is not there carries no label.
    refine ⟨h t ht, ?_⟩
    rintro rfl
    rw [contains_programs_eq] at hnot
    exact hnot (h _ ht)

theorem Tidy.addPipeline (h : d.Tidy) : d.addPipeline.Tidy :=
  h.congr rfl fun t ht => (knows_addPipeline t).mpr (.inr ht)

theorem Tidy.dropPipeline (h : d.Tidy) (a : PipelineHandle) : (d.dropPipeline a).Tidy := by
  intro t ht
  have hget : ((d.labels.erase (.pipeline a)).get? t).isSome := ht
  rw [Table.get?_erase] at hget
  split at hget
  · cases hget
  · next hne => exact (knows_dropPipeline a t).mpr ⟨h t hget, hne⟩

end Device

end ShaderDepot
