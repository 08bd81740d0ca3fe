import ShaderDepot.Device.Call
import ShaderDepot.Diagnostic

/-!
# Traced values

A computation's value together with the events on the way to it, in their order: reads of the storage,
diagnostics, log records and calls to the device.
-/

namespace ShaderDepot

inductive Event
  /-- The storage was asked for what stands under a path. -/
  | read (path : String)
  | diagnostic (diagnostic : Diagnostic)
  | log (record : LogRecord)
  | call (call : DeviceCall)
  deriving DecidableEq, Repr

namespace Event

def read? : Event → Option String
  | read path => some path
  | _ => none

def diagnostic? : Event → Option Diagnostic
  | diagnostic d => some d
  | _ => none

def call? : Event → Option DeviceCall
  | call c => some c
  | _ => none

/-- The records of a log, of which diagnostics are part when they go there too. -/
def record? (takesDiagnostics : Bool) : Event → Option LogRecord
  | diagnostic d => if takesDiagnostics then some d.record else none
  | log r => some r
  | read _ | call _ => none

end Event

structure Traced (α : Type) where
  value : α
  events : List Event := []

namespace Traced

variable {α β : Type}

def after (earlier : List Event) (x : Traced α) : Traced α := ⟨x.value, earlier ++ x.events⟩

instance : Monad Traced where
  pure a := ⟨a, []⟩
  bind x f := (f x.value).after x.events

def report (d : Diagnostic) : Traced Unit := ⟨(), [.diagnostic d]⟩

def note (r : LogRecord) : Traced Unit := ⟨(), [.log r]⟩

def calling (c : DeviceCall) : Traced Unit := ⟨(), [.call c]⟩

/-- The paths that the storage was asked for, in turn. -/
def reads (x : Traced α) : List String := x.events.filterMap Event.read?

def diagnostics (x : Traced α) : List Diagnostic := x.events.filterMap Event.diagnostic?

def calls (x : Traced α) : List DeviceCall := x.events.filterMap Event.call?

@[simp] theorem value_pure (a : α) : (pure a : Traced α).value = a := rfl

@[simp] theorem events_pure (a : α) : (pure a : Traced α).events = [] := rfl

@[simp] theorem value_bind (x : Traced α) (f : α → Traced β) :
    (x >>= f).value = (f x.value).value := rfl

@[simp] theorem events_bind (x : Traced α) (f : α → Traced β) :
    (x >>= f).events = x.events ++ (f x.value).events := rfl

@[simp] theorem value_after (es : List Event) (x : Traced α) : (x.after es).value = x.value := rfl

@[simp] theorem events_after (es : List Event) (x : Traced α) :
    (x.after es).events = es ++ x.events := rfl

theorem ext_iff {x y : Traced α} : x = y ↔ x.value = y.value ∧ x.events = y.events := by
  cases x; cases y; simp

instance : LawfulMonad Traced :=
  LawfulMonad.mk' Traced
    (fun _ => by rw [ext_iff]; exact ⟨rfl, List.append_nil _⟩)
    (fun _ _ => rfl)
    (fun _ _ _ => by rw [ext_iff]; exact ⟨rfl, List.append_assoc ..⟩)

end Traced

end ShaderDepot
