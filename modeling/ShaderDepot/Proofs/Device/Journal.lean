import ShaderDepot.Device

/-!
# A device with the calls that reached it

A computation on a device is followed here by what it leaves behind: its value, the device, and the
calls so far (`DeviceM.play`).  Playing commutes with sequencing, so a computation is played step by
step, and a loop is played by an invariant (`play_foldlM`, `play_forM`).
-/

namespace ShaderDepot

/-- A device and every call that has reached it, the first of them first. -/
structure Journal where
  device : Device
  calls : List DeviceCall

variable {α β : Type}

/-- What a computation leaves behind. -/
def DeviceM.play (x : DeviceM α) (j : Journal) : α × Journal :=
  ((x j.device).value.1, ⟨(x j.device).value.2, j.calls ++ (x j.device).calls⟩)

def Journal.push (j : Journal) (c : DeviceCall) (d : Device) : Journal := ⟨d, j.calls ++ [c]⟩

/-! ## Silent computations -/

namespace Traced

@[simp] theorem calls_pure (a : α) : (pure a : Traced α).calls = [] := rfl

@[simp] theorem calls_bind (x : Traced α) (f : α → Traced β) :
    (x >>= f).calls = x.calls ++ (f x.value).calls := List.filterMap_append

@[simp] theorem calls_after (es : List Event) (x : Traced α) :
    (x.after es).calls = es.filterMap Event.call? ++ x.calls := List.filterMap_append

@[simp] theorem calls_map (f : α → β) (x : Traced α) : (f <$> x).calls = x.calls := by
  rw [map_eq_pure_bind, calls_bind, calls_pure, List.append_nil]

theorem calls_foldlM (f : β → α → Traced β) (l : List α) (b : β)
    (hf : ∀ b a, (f b a).calls = []) : (l.foldlM f b).calls = [] := by
  induction l generalizing b with
  | nil => rfl
  | cons a l ih => rw [List.foldlM_cons, calls_bind, hf, ih, List.append_nil]

end Traced

/-! ## Playing step by step -/

namespace DeviceM

@[simp] theorem play_pure (a : α) (j : Journal) : (pure a : DeviceM α).play j = (a, j) := by
  show (a, (⟨j.device, j.calls ++ []⟩ : Journal)) = (a, j)
  rw [List.append_nil]

@[simp] theorem play_bind (x : DeviceM α) (f : α → DeviceM β) (j : Journal) :
    (x >>= f).play j = (f (x.play j).1).play (x.play j).2 := by
  have h : ((x >>= f) j.device).calls =
      (x j.device).calls ++ (f (x j.device).value.1 (x j.device).value.2).calls :=
    List.filterMap_append
  show (_, (⟨_, j.calls ++ ((x >>= f) j.device).calls⟩ : Journal)) = _
  rw [h, ← List.append_assoc]
  rfl

@[simp] theorem play_map (f : α → β) (x : DeviceM α) (j : Journal) :
    (f <$> x).play j = (f (x.play j).1, (x.play j).2) := by
  rw [map_eq_pure_bind, play_bind, play_pure]

@[simp] theorem play_discard (x : DeviceM α) (j : Journal) :
    (discard x : DeviceM PUnit).play j = (⟨⟩, (x.play j).2) := by
  show (Function.const α PUnit.unit <$> x : DeviceM PUnit).play j = _
  rw [play_map]

@[simp] theorem play_get (j : Journal) : (get : DeviceM Device).play j = (j.device, j) := by
  show (j.device, (⟨j.device, j.calls ++ []⟩ : Journal)) = _
  rw [List.append_nil]

@[simp] theorem play_note (r : LogRecord) (j : Journal) : (note r).play j = ((), j) := by
  show ((), (⟨j.device, j.calls ++ []⟩ : Journal)) = _
  rw [List.append_nil]

@[simp] theorem play_report (d : Diagnostic) (j : Journal) : (report d).play j = ((), j) := by
  show ((), (⟨j.device, j.calls ++ []⟩ : Journal)) = _
  rw [List.append_nil]

theorem play_ofTraced {x : Traced α} (hx : x.calls = []) (j : Journal) :
    (ofTraced x).play j = (x.value, j) := by
  have h : (ofTraced x j.device).calls = [] := by
    show (x >>= fun a => pure (a, j.device)).calls = []
    rw [Traced.calls_bind, hx, Traced.calls_pure, List.append_nil]
  show (x.value, (⟨j.device, j.calls ++ (ofTraced x j.device).calls⟩ : Journal)) = _
  rw [h, List.append_nil]

/-- What every round keeps, in view of the rounds to come, holds after the loop. -/
theorem play_foldlM {motive : List α → β → Journal → Prop} (f : β → α → DeviceM β) (l : List α)
    {b : β} {j : Journal} (h₀ : motive l b j)
    (hf : ∀ a rest b j, motive (a :: rest) b j →
      motive rest ((f b a).play j).1 ((f b a).play j).2) :
    motive [] ((l.foldlM f b).play j).1 ((l.foldlM f b).play j).2 := by
  induction l generalizing b j with
  | nil => rw [List.foldlM_nil, play_pure]; exact h₀
  | cons a l ih =>
    rw [List.foldlM_cons, play_bind]
    exact ih (hf a l b j h₀)

theorem play_forM {motive : Journal → Prop} (f : α → DeviceM PUnit) (l : List α) {j : Journal}
    (h₀ : motive j) (hf : ∀ a ∈ l, ∀ j, motive j → motive ((f a).play j).2) :
    motive ((l.forM f).play j).2 := by
  induction l generalizing j with
  | nil => rw [List.forM, play_pure]; exact h₀
  | cons a l ih =>
    rw [List.forM, play_bind]
    exact ih (hf a (List.mem_cons_self ..) j h₀) fun a' ha' => hf a' (List.mem_cons_of_mem _ ha')

end DeviceM

end ShaderDepot
