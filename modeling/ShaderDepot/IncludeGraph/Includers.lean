import ShaderDepot.IncludeGraph

/-!
# Who includes a file

The files that a change of some files may concern: these files, and every file that includes one of
them, directly or through others.
-/

namespace ShaderDepot.IncludeGraph

def unseen (g : IncludeGraph) (seen : List FileId) : Nat := g.ids.countP (· ∉ seen)

theorem mem_ids {g : IncludeGraph} {id : FileId} : id ∈ g.ids ↔ id.index < g.size := by
  simp only [ids, List.mem_map, List.mem_range]
  exact ⟨fun ⟨_, h, e⟩ => e ▸ h, fun h => ⟨_, h, rfl⟩⟩

/-- Seeing a file leaves one file less unseen. -/
theorem unseen_cons_lt {g : IncludeGraph} {seen : List FileId} {id : FileId}
    (hid : id.index < g.size) (hs : id ∉ seen) : g.unseen (id :: seen) < g.unseen seen := by
  refine countP_lt_countP (fun a _ ha => ?_) (mem_ids.2 hid) (decide_eq_true hs) (by simp)
  have ha := of_decide_eq_true ha
  exact decide_eq_true fun hseen => ha (List.mem_cons_of_mem _ hseen)

/-- How many includes are noted at the files that are included. -/
def edgeCount (g : IncludeGraph) : Nat := (g.files.toList.flatMap (·.includers)).length

theorem length_includers_le (g : IncludeGraph) (id : FileId) :
    (g.includers id).length ≤ g.edgeCount := by
  unfold includers
  cases hf : g.file? id with
  | none => exact Nat.zero_le _
  | some f =>
    have hmem : f ∈ g.files.toList := Array.mem_toList_iff.mpr (Array.mem_of_getElem? hf)
    have hsub := List.mem_map_of_mem hmem (f := SourceFile.includers)
    exact (List.sublist_flatten_of_mem hsub).length_le

/-- A bound on what a queue can still take: a file that is seen puts its includers into it. -/
def backlog (g : IncludeGraph) (seen queue : List FileId) : Nat :=
  g.unseen seen * (g.edgeCount + 1) + queue.length

theorem backlog_cons_lt {g : IncludeGraph} {seen queue : List FileId} {id : FileId}
    (hid : id.index < g.size) (hs : id ∉ seen) :
    g.backlog (id :: seen) (queue ++ g.includers id) < g.backlog seen (id :: queue) := by
  have hlen := length_includers_le g id
  -- What the file puts into the queue is no more than what it weighed unseen.
  have hmul := Nat.mul_le_mul_right (g.edgeCount + 1) (Nat.succ_le_of_lt (unseen_cons_lt hid hs))
  rw [Nat.succ_mul] at hmul
  simp only [backlog, List.length_append, List.length_cons]
  omega

/-- Sees what waits in a queue, and the includers of all that is seen.  The latest seen stands
first. -/
def seeIncluders (g : IncludeGraph) (seen queue : List FileId) : List FileId :=
  match queue with
  | [] => seen
  | id :: queue =>
    if _ : id.index < g.size ∧ id ∉ seen then
      g.seeIncluders (id :: seen) (queue ++ g.includers id)
    -- It has no place, or it has been seen.
    else g.seeIncluders seen queue
termination_by g.backlog seen queue
decreasing_by
  · rename_i h
    exact backlog_cons_lt h.1 h.2
  · exact Nat.lt_succ_self _

/-- The files with a path of includes to one of the given files, these included, in ascending
order. -/
def includersClosure (g : IncludeGraph) (seeds : List FileId) : List FileId :=
  let seen := g.seeIncluders [] seeds
  g.ids.filter (· ∈ seen)

end ShaderDepot.IncludeGraph
