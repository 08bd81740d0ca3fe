import Mathlib.Data.List.Basic
import ShaderDepot.Proofs.IncludeGraph.Reach
import ShaderDepot.Proofs.IncludeGraph.UpToDate

/-!
# Files by the texts they were loaded from

In a settled graph a file is what its text says: its scanned text and its version come from the text that
was last read, and its dependencies are the files that lines of this text include.
-/

namespace ShaderDepot.IncludeGraph

variable {g : IncludeGraph} {a b : FileId}

/-- The text of a file as it was last read; nothing, if it could not be. -/
def sourceOf (g : IncludeGraph) (id : FileId) : String :=
  match (g.file? id).bind (·.lastRead) with
  | some (.ok source) => source
  | _ => ""

/-- A line in the text of the first file includes the second. -/
def Includes (g : IncludeGraph) (a b : FileId) : Prop :=
  ∃ path ∈ (ScannedText.ofSource (g.sourceOf a)).includes, g.find? path = some b

theorem sourceOf_eq (g : IncludeGraph) (id : FileId) :
    g.sourceOf id = match (g.body? id).bind (·.lastRead) with
      | some (.ok source) => source
      | _ => "" := by
  rw [sourceOf, body?]
  cases g.file? id <;> rfl

theorem sourceOf_of_body? {f : SourceFile} {given : Except ReadError String}
    (hf : g.body? a = some f) (hread : f.lastRead = some given) :
    g.sourceOf a = given.toOption.getD "" := by
  rw [sourceOf_eq, hf, Option.bind_some, hread]
  cases given <;> rfl

theorem sourceOf_of_none (h : g.body? a = none) : g.sourceOf a = "" := by
  rw [sourceOf_eq, h]
  rfl

/-- A reading that failed says what an empty text says. -/
theorem keysOfRead_eq (given : Except ReadError String) : SourceFile.keysOfRead given =
    (ScannedText.ofSource (given.toOption.getD "")).includes.map Path.normalize := by
  cases given <;> rfl

theorem text_ofRead (path defaultVersion : String) (given : Except ReadError String) :
    (SourceFile.ofRead path defaultVersion given).text =
      (ScannedText.ofSource (given.toOption.getD "")).text := by
  cases given <;> rfl

theorem version_ofRead (path defaultVersion : String) (given : Except ReadError String) :
    (SourceFile.ofRead path defaultVersion given).version =
      (ScannedText.ofSource (given.toOption.getD "")).version.getD defaultVersion := by
  cases given <;> rfl

namespace Settled

theorem textOf_eq_ofSource (hg : g.Settled) (a : FileId) :
    g.textOf a = (ScannedText.ofSource (g.sourceOf a)).text := by
  rw [textOf_eq]
  cases hf : g.body? a with
  | none =>
    rw [sourceOf_of_none hf]
    rfl
  | some f =>
    obtain ⟨given, hread, hgiven⟩ := hg.scanned a f hf
    rw [sourceOf_of_body? hf hread, Option.map_some, hgiven, text_ofRead]
    rfl

theorem versionOf_eq_ofSource (hg : g.Settled) (a : FileId) :
    g.versionOf a = (ScannedText.ofSource (g.sourceOf a)).version.getD g.defaultVersion := by
  rw [versionOf_eq]
  cases hf : g.body? a with
  | none =>
    rw [sourceOf_of_none hf]
    rfl
  | some f =>
    obtain ⟨given, hread, hgiven⟩ := hg.scanned a f hf
    rw [sourceOf_of_body? hf hread, Option.map_some, hgiven, version_ofRead]
    rfl

theorem mem_dependencies_iff (hg : g.Settled) : b ∈ g.dependencies a ↔ g.Includes a b := by
  cases hf : g.body? a with
  | none =>
    have hsize : g.size ≤ a.index := by
      rw [← Nat.not_lt, ← isSome_body?, hf]
      exact Bool.false_ne_true
    rw [dependencies_of_size_le hsize, Includes, sourceOf_of_none hf]
    exact iff_of_false List.not_mem_nil fun ⟨path, hm, _⟩ => List.not_mem_nil hm
  | some f =>
    obtain ⟨given, hread, -⟩ := hg.scanned a f hf
    have hkeys : f.includeKeys = (ScannedText.ofSource (g.sourceOf a)).includes.map Path.normalize := by
      rw [SourceFile.includeKeys, hread, sourceOf_of_body? hf hread]
      exact keysOfRead_eq given
    rw [← List.mem_map_of_injective fun _ _ => Option.some.inj, hg.edges a f hf, List.mem_eraseDups,
      hkeys, List.map_map, List.mem_map]
    rfl

/-- One file reaches another by the includes that their texts make. -/
theorem reaches_iff (hg : g.Settled) : g.Reaches a b ↔ Relation.ReflTransGen g.Includes a b := by
  have hsame : g.Includes = fun a b => b ∈ g.dependencies a := by
    funext a b
    exact propext hg.mem_dependencies_iff.symm
  rw [hsame]
  rfl

end Settled

end ShaderDepot.IncludeGraph
