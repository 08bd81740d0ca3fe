import ShaderDepot.IncludeGraph.Includers

/-!
# The order of a file and its includes

For a compile the files that an entry file includes are put into an order in which a file comes after
what it includes.  A walk down the includes gives each file the rank of the longest trail on which it
was met; the order is by falling rank, and among equal ranks the order of discovery.  An include that
closes a cycle is reported once and not followed.
-/

namespace ShaderDepot.IncludeGraph

structure Walk where
  /-- The ranks of the files met, in the order of discovery. -/
  ranks : Table FileId Nat := ∅
  /-- The includes that were reported to close a cycle. -/
  reported : List (Option FileId × FileId) := []

def Walk.raise (w : Walk) (id : FileId) (rank : Nat) : Walk :=
  { w with ranks := w.ranks.insert id (max ((w.ranks.get? id).getD 0) rank) }

/-- Reports an include that closes a cycle, unless it has been reported. -/
def Walk.closeCycle (g : IncludeGraph) (includer : Option FileId) (id : FileId) (w : Walk) :
    Traced Walk :=
  if (includer, id) ∈ w.reported then pure w
  else ⟨{ w with reported := w.reported ++ [(includer, id)] },
    [.diagnostic (.includeCycle (g.pathOf id))]⟩

/-- Walks down from a file, met at the end of a trail of files that each include the one before; the
latest stands first.  What lies below a file that was met on a trail as long need not be ranked
again. -/
def visit (g : IncludeGraph) (trail : List FileId) (id : FileId) (w : Walk) : Traced Walk :=
  -- A file that is on its own trail is ranked, but what lies below it is not walked again.
  if _ : id ∈ trail then (w.raise id trail.length).closeCycle g trail.head? id
  else if (w.ranks.get? id).any (trail.length ≤ ·) then pure (w.raise id trail.length)
  else if _ : id.index < g.size then
    (g.dependencies id).foldlM (fun w d => visit g (id :: trail) d w) (w.raise id trail.length)
  else pure (w.raise id trail.length)
termination_by g.unseen trail
decreasing_by exact unseen_cons_lt ‹_› ‹_›

def Walk.order (w : Walk) : List FileId :=
  -- The sort is stable, so equal ranks keep the order of discovery.
  (w.ranks.entries.mergeSort fun a b => b.2 ≤ a.2).map (·.1)

/-- The entry file and all that it includes, in the order of a compile. -/
def order (g : IncludeGraph) (entry : FileId) : Traced (List FileId) := do
  return (← g.visit [] entry {}).order

end ShaderDepot.IncludeGraph
