import Mathlib.Data.List.Nodup
import ShaderDepot.Proofs.Device.Journal
import ShaderDepot.Proofs.Device.Protocol

/-!
# The numbers of objects

The objects that the calls made have, in their order, numbers that requests took (`Journal.Numbered`).  A
counter takes each of its values once before it takes one again, so the first `2 ^ 32` requests for objects
of a kind bring no object a number that another one had (`Journal.Distinct`).  What follows from this of a
journal follows of every later one, as long as it has room.
-/

namespace ShaderDepot

/-- The object of a kind that has a number. -/
def ObjectKind.target : ObjectKind → UInt32 → LabelTarget
  | .program, n => .program ⟨n.toNat⟩
  | .pipeline, n => .pipeline ⟨n.toNat⟩

theorem ObjectKind.target_injective (kind : ObjectKind) : Function.Injective kind.target := by
  intro m n h
  apply UInt32.toNat_inj.mp
  cases kind with
  | program => exact congrArg ProgramHandle.number (LabelTarget.program.inj h)
  | pipeline => exact congrArg PipelineHandle.number (LabelTarget.pipeline.inj h)

namespace Device

/-- The objects that have the numbers of the first requests for objects of a kind. -/
def taken (kind : ObjectKind) (requests : Nat) : List LabelTarget :=
  (List.range requests).map fun n => kind.target (numberAfter n)

theorem taken_succ (kind : ObjectKind) (requests : Nat) :
    taken kind (requests + 1) = taken kind requests ++ [kind.target (numberAfter requests)] := by
  rw [taken, List.range_succ, List.map_append]
  rfl

/-- A counter comes to all its values before it wraps around to one of them. -/
theorem nodup_taken (kind : ObjectKind) {requests : Nat} (h : requests ≤ UInt32.size) :
    (taken kind requests).Nodup := by
  refine List.Nodup.map_on (fun m hm n hn heq => ?_) List.nodup_range
  have hnumber := congrArg UInt32.toNat (kind.target_injective heq)
  rw [numberAfter, numberAfter, UInt32.toNat_ofNat', UInt32.toNat_ofNat'] at hnumber
  rw [List.mem_range] at hm hn
  have hsize : UInt32.size = 2 ^ 32 := rfl
  omega

/-- The requests for objects of a kind have not taken a number twice. -/
def Roomy (d : Device) (kind : ObjectKind) : Prop := d.requests kind ≤ UInt32.size

instance (d : Device) (kind : ObjectKind) : Decidable (d.Roomy kind) :=
  inferInstanceAs (Decidable (_ ≤ _))

end Device

namespace Journal

variable {j : Journal} {c : DeviceCall} {d : Device} {kind : ObjectKind} {t : LabelTarget}

/-- Some call made the object. -/
def Issued (j : Journal) (t : LabelTarget) : Prop := ∃ c ∈ j.calls, c.creates? = some t

/-- The objects of a kind that the calls made, in their order. -/
def issues (j : Journal) (kind : ObjectKind) : List LabelTarget :=
  (j.calls.filterMap DeviceCall.creates?).filter (·.kind = kind)

/-- No two objects of a kind were given one number. -/
def Distinct (j : Journal) (kind : ObjectKind) : Prop := (j.issues kind).Nodup

def Numbered (j : Journal) : Prop :=
  ∀ kind, (j.issues kind).Sublist (Device.taken kind (j.device.requests kind))

theorem mem_issues : t ∈ j.issues kind ↔ j.Issued t ∧ t.kind = kind := by
  rw [issues, List.mem_filter, List.mem_filterMap, decide_eq_true_iff]
  rfl

theorem issues_push (j : Journal) (c : DeviceCall) (d : Device) (kind : ObjectKind) :
    (j.push c d).issues kind = j.issues kind ++ (c.creates?.filter (·.kind = kind)).toList := by
  rw [issues, push, List.filterMap_append, List.filter_append, ← issues, List.filterMap_cons]
  cases c.creates? with
  | none => rfl
  | some t =>
    show _ ++ [t].filter _ = _
    rw [List.filter_cons, Option.filter_some]
    split <;> rfl

theorem issues_push_of_none (hc : c.creates? = none) (d : Device) (kind : ObjectKind) :
    (j.push c d).issues kind = j.issues kind := by
  rw [issues_push, hc, Option.filter_none, Option.toList_none, List.append_nil]

theorem countP_makes (j : Journal) (kind : ObjectKind) :
    j.calls.countP (DeviceCall.makes kind) = (j.issues kind).length := by
  rw [issues, ← List.countP_eq_length_filter, List.countP_filterMap]
  congr 1
  funext c
  rw [DeviceCall.makes]
  cases c.creates? <;> rfl

theorem issued_push : (j.push c d).Issued t ↔ j.Issued t ∨ c.creates? = some t := by
  simp only [Issued, push, List.mem_append, List.mem_singleton, or_and_right, exists_or,
    exists_eq_left]

/-! ## Calls that follow -/

theorem Distinct.of_initial {j' : Journal} (h : j'.Distinct kind) (hcalls : j.calls <+: j'.calls) :
    j.Distinct kind := h.sublist ((hcalls.sublist.filterMap _).filter _)

theorem Distinct.of_push (h : (j.push c d).Distinct kind) : j.Distinct kind :=
  h.of_initial (List.prefix_append ..)

theorem Issued.of_initial {j' : Journal} (h : j.Issued t) (hcalls : j.calls <+: j'.calls) :
    j'.Issued t := by
  obtain ⟨c, hc, ht⟩ := h
  exact ⟨c, hcalls.subset hc, ht⟩

theorem prefix_push (j : Journal) (c : DeviceCall) (d : Device) : j.calls <+: (j.push c d).calls :=
  List.prefix_append ..

theorem prefix_play {α : Type} (x : DeviceM α) (j : Journal) : j.calls <+: (x.play j).2.calls :=
  List.prefix_append ..

/-- An object that was just made has a number that no other had. -/
theorem Distinct.not_issued (h : (j.push c d).Distinct t.kind) (hc : c.creates? = some t) :
    ¬j.Issued t := by
  intro ht
  rw [Distinct, issues_push, hc, Option.filter_some, decide_eq_true rfl, if_pos rfl,
    Option.toList_some] at h
  exact List.disjoint_of_nodup_append h (mem_issues.mpr ⟨ht, rfl⟩) (List.mem_singleton_self t)

/-! ## Numbers -/

theorem Numbered.distinct (h : j.Numbered) (hroomy : j.device.Roomy kind) : j.Distinct kind :=
  (Device.nodup_taken kind hroomy).sublist (h kind)

theorem Numbered.distinct_all (h : j.Numbered) (hprograms : j.device.Roomy .program)
    (hpipelines : j.device.Roomy .pipeline) : ∀ kind, j.Distinct kind
  | .program => h.distinct hprograms
  | .pipeline => h.distinct hpipelines

/-- More numbers may be taken than are given out. -/
theorem Numbered.of_le (h : j.Numbered) {d : Device}
    (hle : ∀ kind, j.device.requests kind ≤ d.requests kind) : Numbered ⟨d, j.calls⟩ := fun kind =>
  (h kind).trans ((List.range_sublist.mpr (hle kind)).map _)

theorem Numbered.push_of_none (h : j.Numbered) (hc : c.creates? = none)
    (hd : ∀ kind, d.requests kind = j.device.requests kind) : (j.push c d).Numbered := by
  intro kind
  rw [issues_push_of_none hc]
  show (j.issues kind).Sublist (Device.taken kind (d.requests kind))
  rw [hd]
  exact h kind

/-- The object that a call makes has the number that the request took. -/
theorem Numbered.push_of_some (h : j.Numbered)
    (hc : c.creates? = some (t.kind.target (Device.numberAfter (j.device.requests t.kind))))
    (hd : ∀ kind, d.requests kind = j.device.requests kind + if t.kind = kind then 1 else 0) :
    (j.push c d).Numbered := by
  intro kind
  rw [issues_push, hc]
  show List.Sublist _ (Device.taken kind (d.requests kind))
  rw [hd]
  have htarget : ∀ n, (t.kind.target n).kind = t.kind := by
    intro n
    cases t <;> rfl
  split
  · next e =>
    subst e
    rw [Device.taken_succ, Option.filter_some, decide_eq_true (htarget _), if_pos rfl]
    exact (h t.kind).append (.refl _)
  · next e =>
    rw [Option.filter_some, decide_eq_false (by rwa [htarget])]
    rw [if_neg Bool.false_ne_true, Option.toList_none, List.append_nil]
    exact h kind

end Journal

end ShaderDepot
