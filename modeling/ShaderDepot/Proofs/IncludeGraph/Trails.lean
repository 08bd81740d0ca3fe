import ShaderDepot.Proofs.IncludeGraph.Order

/-!
# Trails and closed cycles

The walk down from an entry file comes to each file by a trail of files that each include the next.
Where a trail comes back to one of its own files, the include is reported.  So what a walk reports are
includes that close a cycle, each once and in the order of its events (`exists_reports_visit`).
-/

namespace ShaderDepot.IncludeGraph

variable {g : IncludeGraph} {entry id a : FileId} {trail : List FileId} {w : Walk} {x : Traced Walk}

/-- The files above a file on one way down from the entry, the latest first; each includes the one
before it, and the first includes the file. -/
inductive Trail (g : IncludeGraph) (entry : FileId) : List FileId → FileId → Prop
  | start : Trail g entry [] entry
  | step {trail : List FileId} {a b : FileId} (h : Trail g entry trail a)
      (hb : b ∈ g.dependencies a) : Trail g entry (a :: trail) b

namespace Trail

theorem reaches (h : g.Trail entry trail id) : g.Reaches entry id := by
  induction h with
  | start => exact .refl g entry
  | step _ hb ih => exact Relation.ReflTransGen.tail ih hb

/-- Each file of the trail leads on to the file at its end. -/
theorem reaches_of_mem (h : g.Trail entry trail id) (ha : a ∈ trail) :
    ∃ b ∈ g.dependencies a, g.Reaches b id := by
  induction h with
  | start => cases ha
  | step _ hb ih =>
    rcases List.mem_cons.mp ha with rfl | ha
    · exact ⟨_, hb, .refl g _⟩
    · obtain ⟨c, hc, hr⟩ := ih ha
      exact ⟨c, hc, Relation.ReflTransGen.tail hr hb⟩

end Trail

/-! ## Reports -/

/-- An include, from the first file to the second, below the entry and on a cycle. -/
structure ClosesCycle (g : IncludeGraph) (entry : FileId) (e : FileId × FileId) : Prop where
  reached : g.Reaches entry e.1
  included : e.2 ∈ g.dependencies e.1
  back : g.Reaches e.2 e.1

/-- The event that tells of an include that closes a cycle. -/
def cycleEvent (g : IncludeGraph) (e : FileId × FileId) : Event :=
  .diagnostic (.includeCycle (g.pathOf e.2))

namespace Walk

/-- From one walk to the next just some includes are reported, and told of in their order. -/
structure Reports (g : IncludeGraph) (entry : FileId) (w : Walk) (x : Traced Walk)
    (cuts : List (FileId × FileId)) : Prop where
  reported : x.value.reported = w.reported ++ cuts.map fun e => (some e.1, e.2)
  events : x.events = cuts.map g.cycleEvent
  closing : ∀ e ∈ cuts, g.ClosesCycle entry e
  nodup : w.reported.Nodup → x.value.reported.Nodup

theorem reports_nil (hreported : x.value.reported = w.reported) (hevents : x.events = []) :
    Reports g entry w x [] where
  reported := hreported.trans (List.append_nil _).symm
  events := hevents
  closing _ he := nomatch he
  nodup hn := hreported ▸ hn

theorem exists_reports_foldlM {f : Walk → FileId → Traced Walk} {l : List FileId}
    (hf : ∀ d ∈ l, ∀ w, ∃ cuts, Reports g entry w (f w d) cuts) (w : Walk) :
    ∃ cuts, Reports g entry w (l.foldlM f w) cuts := by
  induction l generalizing w with
  | nil => exact ⟨[], reports_nil rfl rfl⟩
  | cons d l ih =>
    rw [List.foldlM_cons]
    obtain ⟨cuts, hfirst⟩ := hf d (List.mem_cons_self ..) w
    obtain ⟨more, hrest⟩ := ih (fun d hd => hf d (List.mem_cons_of_mem _ hd)) (f w d).value
    refine ⟨cuts ++ more, ?_, ?_, ?_, fun hn => hrest.nodup (hfirst.nodup hn)⟩
    · rw [Traced.value_bind, hrest.reported, hfirst.reported, List.map_append, List.append_assoc]
    · rw [Traced.events_bind, hrest.events, hfirst.events, List.map_append]
    · exact List.forall_mem_append.mpr ⟨hfirst.closing, hrest.closing⟩

/-- An include that leads back to its own trail is reported, unless it has been. -/
theorem exists_reports_closeCycle (ht : g.Trail entry trail id) (hm : id ∈ trail) (w : Walk) :
    ∃ cuts, Reports g entry w (w.closeCycle g trail.head? id) cuts := by
  cases ht with
  | start => cases hm
  | step h hb =>
    next trail u =>
    unfold closeCycle
    split
    · exact ⟨[], reports_nil rfl rfl⟩
    · next hn =>
      refine ⟨[(u, id)], rfl, rfl, fun e he => ?_, fun hw => ?_⟩
      · obtain rfl := List.mem_singleton.mp he
        refine ⟨h.reaches, hb, ?_⟩
        rcases List.mem_cons.mp hm with rfl | hm
        · exact .refl g id
        · obtain ⟨c, hc, hr⟩ := h.reaches_of_mem hm
          exact .head hc hr
      · exact List.Nodup.append hw (List.nodup_singleton _) (List.disjoint_singleton.mpr hn)

end Walk

open Walk

theorem exists_reports_visit (ht : g.Trail entry trail id) (w : Walk) :
    ∃ cuts, Reports g entry w (g.visit trail id w) cuts := by
  induction trail, id, w using visit.induct g with
  | case1 trail id w hm =>
    rw [visit, dif_pos hm]
    obtain ⟨cuts, h⟩ := exists_reports_closeCycle ht hm (w.raise id trail.length)
    exact ⟨cuts, h.reported, h.events, h.closing, h.nodup⟩
  | case2 trail id w hm hr =>
    rw [visit, dif_neg hm, if_pos hr]
    exact ⟨[], reports_nil rfl rfl⟩
  | case3 trail id w hm hr hs ih =>
    rw [visit, dif_neg hm, if_neg hr, dif_pos hs]
    obtain ⟨cuts, h⟩ := exists_reports_foldlM (fun d hd w => ih w d (ht.step hd))
      (w.raise id trail.length)
    exact ⟨cuts, h.reported, h.events, h.closing, h.nodup⟩
  | case4 trail id w hm hr hs =>
    rw [visit, dif_neg hm, if_neg hr, dif_neg hs]
    exact ⟨[], reports_nil rfl rfl⟩

end ShaderDepot.IncludeGraph
