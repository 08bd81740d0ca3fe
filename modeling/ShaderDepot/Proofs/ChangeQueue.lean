import ShaderDepot.ChangeQueue

/-!
# What a queue of changed files holds

A queue that is open holds what was told and not taken: to tell of a path adds its normal form, unless this
is empty, and to drain the queue gives each path once and leaves none.
-/

namespace ShaderDepot.ChangeQueue

variable {q : ChangeQueue} {path told : String}

theorem notify_ne_closed (h : q ≠ .closed) (path : String) : (q.notify path).2 ≠ .closed := by
  unfold notify
  simp only
  split
  · exact h
  · split
    · exact nofun
    · next hc => exact absurd rfl h

theorem mem_pending_notify (h : q ≠ .closed) :
    told ∈ (q.notify path).2.pending ↔ told ∈ q.pending ∨ told = Path.normalize path ∧ told ≠ "" := by
  unfold notify
  simp only [String.isEmpty_iff]
  split
  · next he =>
    rw [he]
    constructor
    · exact .inl
    · rintro (hp | ⟨hp, hne⟩)
      · exact hp
      · exact absurd hp hne
  · next he =>
    cases q with
    | «open» paths =>
      show told ∈ paths ++ [Path.normalize path] ↔ told ∈ paths ∨ _
      rw [List.mem_append, List.mem_singleton]
      constructor
      · rintro (hp | rfl)
        · exact .inl hp
        · exact .inr ⟨rfl, he⟩
      · rintro (hp | ⟨hp, -⟩)
        · exact .inl hp
        · exact .inr hp
    | closed => exact absurd rfl h

theorem mem_distinct {paths : List String} : path ∈ distinct paths ↔ path ∈ paths := by
  rw [distinct, List.mem_eraseDups, List.mem_mergeSort]

theorem mem_drain : path ∈ q.drain.1 ↔ path ∈ q.pending := by
  cases q with
  | «open» paths => exact mem_distinct
  | closed => exact Iff.rfl

/-- A queue that listens is empty after it was drained. -/
theorem drain_of_ne_closed (h : q ≠ .closed) : q.drain.2 = .empty := by
  cases q with
  | «open» paths => rfl
  | closed => exact absurd rfl h

/-- From an empty queue nothing is taken. -/
theorem drain_of_isEmpty (h : q.isEmpty = true) : q.drain = ([], q) := by
  cases q with
  | «open» paths =>
    obtain rfl : paths = [] := List.isEmpty_iff.mp h
    rw [drain, distinct, List.mergeSort_nil]
    rfl
  | closed => rfl

end ShaderDepot.ChangeQueue
