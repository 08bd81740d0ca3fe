import Mathlib.Tactic.Common
import ShaderDepot.Device.Call
import ShaderDepot.Device.Compiler
import ShaderDepot.Table

/-!
# The protocol of a device

What a device may expect of those who call it: an object is named only between the call that makes it
and the call that gives it back, a program is used only if it linked, and a value is written only to a
location that the program has.  A sequence of calls is lawful when each call is permitted after those
before it, so every beginning of a lawful sequence is lawful.
-/

namespace ShaderDepot

namespace DeviceCall

def creates? : DeviceCall → Option LabelTarget
  | createProgram h _ => some (.program h)
  | createPipeline h => some (.pipeline h)
  | _ => none

def deletes? : DeviceCall → Option LabelTarget
  | deleteProgram h => some (.program h)
  | deletePipeline h => some (.pipeline h)
  | _ => none

/-- Whether a call makes an object of a kind. -/
def makes (kind : ObjectKind) (c : DeviceCall) : Bool := c.creates?.any (·.kind = kind)

def needs : DeviceCall → List LabelTarget
  | createProgram .. | createPipeline _ | dispatchCompute _ => []
  | uniformLocation h _ | setUniform h _ _ | bindUniformBlock h _ _ | bindStorageBlock h _ _
  | deleteProgram h => [.program h]
  | attachStage h _ p => [.pipeline h, .program p]
  | bindPipeline h | deletePipeline h => [.pipeline h]
  | setLabel t _ => [t]

/-- The program that a call needs to have linked. -/
def uses? : DeviceCall → Option ProgramHandle
  | uniformLocation h _ | setUniform h _ _ | bindUniformBlock h _ _ | bindStorageBlock h _ _
  | attachStage _ _ h => some h
  | _ => none

/-- The program, and the location on it, that a call writes to. -/
def writes? : DeviceCall → Option (ProgramHandle × UniformLocation)
  | setUniform h location _ => some (h, location)
  | _ => none

end DeviceCall

/-- The calls made the object, and have not given it back since. -/
def Alive (calls : List DeviceCall) (t : LabelTarget) : Prop :=
  ∃ before c after, calls = before ++ c :: after ∧ c.creates? = some t ∧
    ∀ c' ∈ after, c'.deletes? ≠ some t

/-- A call is in order after the calls before it.  The archive knows what the compiler made of each
program. -/
structure Permitted (archive : Table ProgramHandle CompileResult) (before : List DeviceCall)
    (c : DeviceCall) : Prop where
  /-- No handle is given out twice. -/
  fresh : ∀ t, c.creates? = some t → ∀ c' ∈ before, c'.creates? ≠ some t
  alive : ∀ t ∈ c.needs, Alive before t
  linked : ∀ h, c.uses? = some h → ∃ result, archive.get? h = some result ∧ result.linked
  located : ∀ h location, c.writes? = some (h, location) →
    ∃ result name, archive.get? h = some result ∧ result.location? name = some location

/-- Every call is in order after the calls before it. -/
def Lawful (archive : Table ProgramHandle CompileResult) (calls : List DeviceCall) : Prop :=
  ∀ before c after, calls = before ++ c :: after → Permitted archive before c

/-! ## One more call -/

/-- A member of a list with one more at its end is that one, or was there before. -/
theorem append_singleton_eq {α : Type} {l before after : List α} {a c : α}
    (h : l ++ [a] = before ++ c :: after) :
    (before = l ∧ c = a ∧ after = []) ∨ ∃ after', after = after' ++ [a] ∧ l = before ++ c :: after' := by
  rcases List.eq_nil_or_concat after with rfl | ⟨after', x, rfl⟩
  · -- The member is the last one.
    obtain ⟨rfl, e⟩ := List.append_inj' h rfl
    exact .inl ⟨rfl, (List.singleton_inj.mp e).symm, rfl⟩
  · rw [List.concat_eq_append] at h ⊢
    have h' : l ++ [a] = (before ++ c :: after') ++ [x] := by
      rw [h, List.append_assoc]
      rfl
    obtain ⟨rfl, e⟩ := List.append_inj' h' rfl
    rw [List.singleton_inj.mp e]
    exact .inr ⟨after', rfl, rfl⟩

theorem alive_append_singleton {calls : List DeviceCall} {c : DeviceCall} {t : LabelTarget} :
    Alive (calls ++ [c]) t ↔ c.creates? = some t ∨ Alive calls t ∧ c.deletes? ≠ some t := by
  constructor
  · rintro ⟨before, c', after, h, hc, hafter⟩
    -- The call that made the object is the new one, or one of those before it.
    rcases append_singleton_eq h with ⟨-, rfl, -⟩ | ⟨after', rfl, hcalls⟩
    · exact .inl hc
    · refine .inr ⟨⟨before, c', after', hcalls, hc, fun x hx => ?_⟩, ?_⟩
      · exact hafter x (List.mem_append_left _ hx)
      · exact hafter c (List.mem_append_right _ (List.mem_singleton_self c))
  · rintro (h | ⟨⟨before, c', after, rfl, hc, hafter⟩, hd⟩)
    · exact ⟨calls, c, [], rfl, h, fun x hx => nomatch hx⟩
    · refine ⟨before, c', after ++ [c], by rw [List.append_assoc]; rfl, hc, fun x hx => ?_⟩
      rcases List.mem_append.mp hx with hx | hx
      · exact hafter x hx
      · rwa [List.mem_singleton.mp hx]

theorem Alive.created {calls : List DeviceCall} {t : LabelTarget} (h : Alive calls t) :
    ∃ c ∈ calls, c.creates? = some t := by
  obtain ⟨before, c, after, rfl, hc, -⟩ := h
  exact ⟨c, List.mem_append_right _ (List.mem_cons_self ..), hc⟩

theorem Permitted.mono {archive archive' : Table ProgramHandle CompileResult}
    {before : List DeviceCall} {c : DeviceCall} (h : Permitted archive before c)
    (ha : ∀ p result, archive.get? p = some result → archive'.get? p = some result) :
    Permitted archive' before c where
  fresh := h.fresh
  alive := h.alive
  linked p hp := by
    obtain ⟨result, hr, hl⟩ := h.linked p hp
    exact ⟨result, ha p result hr, hl⟩
  located p location hp := by
    obtain ⟨result, name, hr, hl⟩ := h.located p location hp
    exact ⟨result, name, ha p result hr, hl⟩

theorem Lawful.append_singleton {archive archive' : Table ProgramHandle CompileResult}
    {calls : List DeviceCall} {c : DeviceCall} (h : Lawful archive calls)
    (ha : ∀ p result, archive.get? p = some result → archive'.get? p = some result)
    (hc : Permitted archive calls c) : Lawful archive' (calls ++ [c]) := by
  intro before c' after he
  -- What the archive knows of a program it never forgets, so the calls before are lawful as they were.
  rcases append_singleton_eq he with ⟨rfl, rfl, -⟩ | ⟨after', -, hcalls⟩
  · exact hc.mono ha
  · exact (h before c' after' hcalls).mono ha

/-! ## Handles -/

/-- In a lawful sequence no handle is given out twice. -/
theorem Lawful.nodup_creates {archive : Table ProgramHandle CompileResult}
    {calls : List DeviceCall} (h : Lawful archive calls) :
    (calls.filterMap DeviceCall.creates?).Nodup := by
  rw [List.Nodup, List.pairwise_filterMap, List.pairwise_iff_getElem]
  intro i k hi hk hik t ht t' ht' e
  subst e
  have hpermitted := h (calls.take k) calls[k] (calls.drop (k + 1)) (by
    rw [List.getElem_cons_drop, List.take_append_drop])
  exact hpermitted.fresh t ht' calls[i] (List.mem_take_iff_getElem.mpr ⟨i, by omega, rfl⟩) ht

end ShaderDepot
