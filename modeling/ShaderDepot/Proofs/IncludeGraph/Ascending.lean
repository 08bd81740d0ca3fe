import ShaderDepot.Proofs.IncludeGraph.Built

/-!
# Includers stand in ascending order

In a graph that was built by calls each file lists its includers in strictly ascending order
(`Built.ascending`), so their list is known when it is known which they are.
-/

namespace ShaderDepot

namespace SourceFile

theorem pairwise_insertAscending {a : FileId} {l : List FileId}
    (h : l.Pairwise (·.index < ·.index)) :
    (insertAscending a l).Pairwise (·.index < ·.index) := by
  induction l with
  | nil => exact List.pairwise_singleton ..
  | cons b l ih =>
    obtain ⟨hb, hl⟩ := List.pairwise_cons.mp h
    rw [insertAscending]
    split
    · next hlt =>
      refine List.pairwise_cons.mpr ⟨fun c hc => ?_, h⟩
      rcases List.mem_cons.mp hc with rfl | hc
      · exact hlt
      · exact Nat.lt_trans hlt (hb c hc)
    · next hle =>
      split
      · exact h
      · next hne =>
        -- The new place belongs further down.
        refine List.pairwise_cons.mpr ⟨fun c hc => ?_, ih hl⟩
        rcases mem_insertAscending.mp hc with rfl | hc
        · have hindex : b.index ≠ c.index := fun e => hne (FileId.index_inj.mp e)
          omega
        · exact hb c hc

end SourceFile

namespace IncludeGraph

variable {s : Storage} {g g' : IncludeGraph} {defaultVersion : String}

def Ascending (g : IncludeGraph) : Prop := ∀ a, (g.includers a).Pairwise (·.index < ·.index)

theorem ascending_empty (defaultVersion : String) : Ascending { defaultVersion } := by
  intro a
  rw [includers_of_size_le (Nat.zero_le _)]
  exact List.Pairwise.nil

theorem Ascending.push (h : g.Ascending) (key : String) : (g.push key).Ascending := by
  intro a
  rw [includers_push]
  exact h a

/-- A change of one file keeps the order, if it keeps that of the file's own list. -/
theorem Ascending.update (h : g.Ascending) (id : FileId) {f : SourceFile → SourceFile}
    (hf : ∀ file : SourceFile, file.includers.Pairwise (·.index < ·.index) →
      (f file).includers.Pairwise (·.index < ·.index)) : (g.update id f).Ascending := by
  intro a
  have ha := h a
  rw [includers] at ha
  rw [includers, file?_update]
  split
  · cases hfile : g.file? a with
    | none => exact List.Pairwise.nil
    | some file =>
      rw [hfile] at ha
      exact hf file ha
  · exact ha

theorem Ascending.addEdge (h : g.Ascending) (a b : FileId) : (g.addEdge a b).Ascending := by
  rw [IncludeGraph.addEdge]
  refine Ascending.update (Ascending.update h a ?_) b ?_
  · exact fun _ hf => hf
  · exact fun _ hf => SourceFile.pairwise_insertAscending hf

theorem Ascending.readFile (h : g.Ascending) (s : Storage) (id : FileId) :
    (readFile s g id).value.1.Ascending := by
  intro a
  rw [includers_readFile]
  exact h a

theorem Ascending.dropEdges (h : g.Ascending) (id : FileId) : (g.dropEdges id).Ascending := by
  have hforget : ∀ (l : List FileId) {g : IncludeGraph}, g.Ascending → (g.forget id l).Ascending := by
    intro l
    induction l with
    | nil => exact fun h => h
    | cons d l ih => exact fun h => ih (h.update d fun _ hf => hf.filter _)
  exact hforget _ (h.update id fun _ hf => hf)

/-! ## Calls -/

theorem Ascending.place (h : g.Ascending) (t : Task) : (g.place t).1.Ascending := by
  cases t with
  | finish id => exact h
  | follow includer key =>
    cases hk : g.lookup? key with
    | some id =>
      simp only [IncludeGraph.place, hk]
      exact h.addEdge includer id
    | none =>
      simp only [IncludeGraph.place, hk]
      exact (h.push key).addEdge includer _

theorem Ascending.perform (h : g.Ascending) (t : Task) : (perform s g t).value.1.Ascending := by
  have hplace := h.place t
  rw [value_perform]
  cases (g.place t).2 with
  | none => exact hplace
  | some id => exact hplace.readFile s id

theorem Ascending.settle {tasks : List Task} (h : g.Ascending) (hs : Grounded s tasks) :
    (settle s g tasks hs).value.Ascending := by
  induction g, tasks, hs using IncludeGraph.settle.induct s with
  | case1 g hs =>
    rw [IncludeGraph.settle]
    exact h
  | case2 g t rest hs _ ih =>
    rw [IncludeGraph.settle, Traced.value_after]
    exact ih (h.perform t)

theorem Ascending.load (h : g.Ascending) (id : FileId) : (load s g id).value.Ascending :=
  (h.readFile s id).settle _

theorem Loads.ascending (h : Loads g g') (hg : g.Ascending) : g'.Ascending := by
  cases h with
  | intern s path =>
    unfold IncludeGraph.intern
    split
    · exact hg
    · exact (hg.push _).load _
  | reload s id _ => exact (hg.dropEdges id).load id

theorem Built.ascending (h : Built defaultVersion g) : g.Ascending := by
  induction h with
  | empty => exact ascending_empty defaultVersion
  | load _ hl ih => exact hl.ascending ih

end IncludeGraph

end ShaderDepot
