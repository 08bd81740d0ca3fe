import ShaderDepot.Proofs.Depot.Listed

/-!
# Which programs a change concerns

A change concerns a program if the program's file is, or includes directly or through others, a file that
had a place before the change was taken in.  Files that get a place only while changes are taken in may
be read again as well, but concern no further program: who reaches one of them also reaches an older file
that was read again (`Reloaded.reaches_old`).  So an update compiles the programs that are concerned, each
once (`mem_affected_iff`, `nodup_affected`).
-/

namespace ShaderDepot

namespace IncludeGraph

variable {s : Storage} {start g : IncludeGraph} {seeds : List FileId}

/-- An old file that reaches a file read again reaches an old one. -/
theorem Reloaded.reaches_old (h : Reloaded s start g seeds) (hstart : start.WellFormed) {a b : FileId}
    (ha : a.index < start.size) (hb : b ∈ seeds) (hr : g.Reaches a b) :
    ∃ c ∈ seeds, c.index < start.size ∧ g.Reaches a c := by
  induction hr using Relation.ReflTransGen.head_induction_on with
  | refl => exact ⟨b, hb, ha, .refl g b⟩
  | @head a a' hd _ ih =>
    by_cases hread : a ∈ seeds
    · exact ⟨a, hread, ha, .refl g a⟩
    · -- What was not read again includes what it did before, and that is old.
      have hnot : ¬(a ∈ seeds ∨ start.size ≤ a.index) := fun h => h.elim hread (Nat.not_le.mpr ha)
      have hsame : g.dependencies a = start.dependencies a := h.grows.dependencies a ha hnot
      have hd' : a' ∈ start.dependencies a := hsame ▸ hd
      obtain ⟨c, hc, hlt, hreach⟩ := ih (hstart.closed a a' hd')
      exact ⟨c, hc, hlt, .head hd hreach⟩

end IncludeGraph

namespace Depot

open IncludeGraph Device Journal DeviceM

variable {r : Depot} {j : Journal} {id : ProgramId}

/-! ## The programs that are compiled again -/

/-- A change that the depot was told of concerns a program, in a graph of after the change. -/
def Concerns (r : Depot) (g : IncludeGraph) (id : ProgramId) : Prop :=
  ∃ p, r.program? id = some p ∧ ∃ path ∈ r.changes.pending, ∃ file,
    r.graph.find? path = some file ∧ g.Reaches p.entry file

theorem nodup_programIds (r : Depot) : r.programIds.Nodup :=
  List.nodup_range.map fun _ _ e => congrArg ProgramId.index e

theorem nodup_affected (s : Storage) (r : Depot) : (r.affected s).Nodup := (nodup_programIds r).filter _

theorem exists_entry_of_mem_programsFrom (hl : r.Listed) {files : List FileId}
    (h : id ∈ r.programsFrom files) : ∃ p, r.program? id = some p ∧ p.entry ∈ files := by
  obtain ⟨file, hfile, hid⟩ := List.mem_flatMap.mp (of_decide_eq_true (List.mem_filter.mp h).2)
  obtain ⟨p, hp, rfl⟩ := Option.map_eq_some_iff.mp (hl.users file id hid)
  exact ⟨p, hp, hfile⟩

theorem mem_affected_iff (h : r.InOrder j [] []) (hl : r.Listed) (s : Storage) :
    id ∈ r.affected s ↔ r.Concerns (r.reread s).graph id := by
  obtain ⟨hr, hnamed⟩ := reloaded_reloadFiles s h.indexed.graph r.changes.drain.1
  constructor
  · intro hid
    obtain ⟨p, hp, hfile⟩ := exists_entry_of_mem_programsFrom hl hid
    have hentry := h.indexed.graph.lt_size_of_lookup? (h.indexed.entry id p hp)
    obtain ⟨b, hb, hreach⟩ := (mem_includersClosure hr.settled.toWellFormed
      (Nat.lt_of_lt_of_le hentry hr.grows.size)).mp hfile
    obtain ⟨c, hc, hlt, hreach⟩ := hr.reaches_old h.indexed.graph.toWellFormed hentry hb hreach
    obtain ⟨path, hpath, hfind⟩ := (mem_reloadFiles_iff h.indexed.graph s _ hlt).mp hc
    exact ⟨p, hp, path, ChangeQueue.mem_drain.mp hpath, c, hfind, hreach⟩
  · rintro ⟨p, hp, path, hpath, file, hfind, hreach⟩
    exact mem_affected h s hp (hnamed path (ChangeQueue.mem_drain.mpr hpath) file hfind) hreach

end Depot

end ShaderDepot
