import ShaderDepot.CompileUnit
import ShaderDepot.IncludeGraph.Load
import ShaderDepot.Proofs.Device.Journal

/-!
# A graph makes no calls

Reading files, following includes and resolving units report and note things, but the device hears
nothing of them.
-/

namespace ShaderDepot.IncludeGraph

theorem call?_eq_none_of_calls {α : Type} {x : Traced α} (h : x.calls = []) :
    x.events.filterMap Event.call? = [] := h

theorem calls_takeIn (g : IncludeGraph) (id : FileId) (given : Except ReadError String) :
    (g.takeIn id given).calls = [] := by
  cases given with
  | error cause => rfl
  | ok text =>
    show List.filterMap Event.call? (List.map Event.diagnostic _) = []
    rw [List.filterMap_map]
    exact List.filterMap_eq_nil_iff.mpr fun _ _ => rfl

@[simp] theorem calls_readFile (s : Storage) (g : IncludeGraph) (id : FileId) :
    (readFile s g id).calls = [] :=
  calls_takeIn g id _

@[simp] theorem calls_perform (s : Storage) (g : IncludeGraph) (t : Task) :
    (perform s g t).calls = [] := by
  cases t with
  | finish id => rfl
  | follow includer key =>
    cases h : g.lookup? key with
    | some id =>
      simp only [perform, h]
      rfl
    | none =>
      simp only [perform, h]
      exact calls_readFile ..

@[simp] theorem calls_settle (s : Storage) (g : IncludeGraph) (tasks : List Task)
    (h : Grounded s tasks) : (settle s g tasks h).calls = [] := by
  induction g, tasks, h using settle.induct s with
  | case1 g h => rw [settle]; rfl
  | case2 g t rest h _ ih =>
    rw [settle, Traced.calls_after, ih, call?_eq_none_of_calls (calls_perform s g t)]
    rfl

@[simp] theorem calls_load (s : Storage) (g : IncludeGraph) (id : FileId) :
    (load s g id).calls = [] := by
  rw [load, Traced.calls_after, calls_settle, call?_eq_none_of_calls (calls_readFile s g id)]
  rfl

theorem calls_intern (s : Storage) (g : IncludeGraph) (path : String) :
    (intern s g path).calls = [] := by
  unfold intern
  split
  · rfl
  · rw [Traced.calls_bind, calls_load, Traced.calls_pure]
    rfl

theorem calls_reload (s : Storage) (g : IncludeGraph) (id : FileId) : (reload s g id).calls = [] :=
  calls_load ..

theorem calls_closeCycle (g : IncludeGraph) (includer : Option FileId) (id : FileId) (w : Walk) :
    (w.closeCycle g includer id).calls = [] := by
  unfold Walk.closeCycle
  split <;> rfl

theorem calls_visit (g : IncludeGraph) (trail : List FileId) (id : FileId) (w : Walk) :
    (g.visit trail id w).calls = [] := by
  induction trail, id, w using visit.induct g with
  | case1 trail id w h =>
    rw [visit, dif_pos h]
    exact calls_closeCycle ..
  | case2 trail id w h hr =>
    rw [visit, dif_neg h, if_pos hr]
    rfl
  | case3 trail id w h hr hs ih =>
    rw [visit, dif_neg h, if_neg hr, dif_pos hs]
    exact Traced.calls_foldlM _ _ _ fun w d => ih w d
  | case4 trail id w h hr hs =>
    rw [visit, dif_neg h, if_neg hr, dif_neg hs]
    rfl

theorem calls_resolve (g : IncludeGraph) (entry : FileId) (header : String)
    (defines : List Define) : (g.resolve entry header defines).calls = [] := by
  rw [resolve, order, Traced.calls_bind, Traced.calls_bind, calls_visit]
  rfl

end ShaderDepot.IncludeGraph
