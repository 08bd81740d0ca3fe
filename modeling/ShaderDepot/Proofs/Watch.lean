import ShaderDepot.Proofs.ChangeQueue
import ShaderDepot.Proofs.Storage.Components
import ShaderDepot.Storage

/-!
# What a watch makes of locations

A storage reads a source where its path leads from the folder of the sources.  The system may name the file
from the folder as it was given or from the folder's canonical form, and in both cases a watch of the folder
makes the path of it again (`inverts`).  A folder that is given by no text is not the one that its sources
are read from (`not_inverts_rawRoot`).
-/

namespace ShaderDepot.Watch

open Location ShaderDepot.Path Text

variable {base location : OsPath} {path : String} {roots : List OsPath}

/-! ## One spelling of the folder -/

theorem relativePath?_cons_of_not_below (h : ¬ Below base location) :
    relativePath? (base :: roots) location = relativePath? roots location := by
  rw [relativePath?, List.findSome?_cons, within?_eq_none_iff.mpr h, relativePath?]

theorem relativePath?_cons_of_append {below : List Component}
    (h : base.components ++ below = location.components) :
    relativePath? (base :: roots) location =
      let path := normalize (OsPath.ofUnits (joinWith '/' (below.map (·.text)))).text
      if path = "" then none else some path := by
  rw [relativePath?, List.findSome?_cons, within?_of_append h]

/-- What the system says of the folder itself is about no path. -/
theorem relativePath?_cons_of_same (h : Same base location) :
    relativePath? (base :: roots) location = none := by
  have hbelow : base.components ++ [] = location.components := by
    rw [List.append_nil]
    exact h
  rw [relativePath?_cons_of_append hbelow]
  rfl

/-- The path of a source is what is left of its location. -/
theorem relativePath?_cons_push (base : OsPath) (h : IsSource path) :
    relativePath? (base :: roots) (base.push path) = some path := by
  have hrest : OsPath.ofUnits (units path.toList) = path := OsPath.ofUnits_units (.ofString path)
  rw [relativePath?_cons_of_append (components_push base h).symm,
    map_text_filterMap_ofPiece h.meaningful_units, joinWith, List.intercalate_splitOn, hrest,
    OsPath.text_ofString, h.normalize]
  exact if_neg h.ne_empty

/-! ## Both spellings of the folder -/

/-- The canonical form of the watched folder, or the folder as it was given if there is none. -/
def canonicalRoot (canonical? : OsPath → Option OsPath) (root : OsPath) : OsPath :=
  (canonical? root).getD root

/-- The spellings of the watched folder from which the system may name a file. -/
def spellings (canonical? : OsPath → Option OsPath) (root : OsPath) : List OsPath :=
  [root, canonicalRoot canonical? root]

/-- A watch of a folder leads from the locations of the sources back to their paths. -/
structure Inverts (canonical? : OsPath → Option OsPath) (root : OsPath) : Prop where
  /-- The location at which a source is read is made into its path if the folder is given by a text. -/
  source : root = root.text → ∀ disk path, IsSource path →
    relativePath? (spellings canonical? root) ((Storage.folder disk root).sourceLocation path) = some path
  /-- If it is given by none, no source is read below it. -/
  elsewhere : root ≠ root.text → ∀ disk path,
    ¬ Below root ((Storage.folder disk root).sourceLocation path)
  /-- So is the location of the same file below the canonical form of the folder. -/
  canonical : ∀ path, IsSource path → ¬ Below root ((canonicalRoot canonical? root).push path) →
    relativePath? (spellings canonical? root) ((canonicalRoot canonical? root).push path) = some path
  /-- To tell of this path is to add it, and nothing else, to what was told. -/
  told : ∀ path, IsSource path → ∀ changes : ChangeQueue, changes ≠ .closed → ∀ told,
    told ∈ (changes.notify path).2.pending ↔ told ∈ changes.pending ∨ told = path
  outside : ∀ location, ¬ Below root location → ¬ Below (canonicalRoot canonical? root) location →
    relativePath? (spellings canonical? root) location = none
  itself : ∀ location, Same root location ∨ Same (canonicalRoot canonical? root) location →
    relativePath? (spellings canonical? root) location = none

theorem mem_pending_notify_of_isSource (h : IsSource path) {changes : ChangeQueue}
    (hopen : changes ≠ .closed) (told : String) :
    told ∈ (changes.notify path).2.pending ↔ told ∈ changes.pending ∨ told = path := by
  rw [ChangeQueue.mem_pending_notify hopen, h.normalize]
  constructor
  · rintro (hp | ⟨rfl, -⟩)
    · exact .inl hp
    · exact .inr rfl
  · rintro (hp | rfl)
    · exact .inl hp
    · exact .inr ⟨rfl, h.ne_empty⟩

/-- The canonical form of the folder lies below the folder only if it is the folder. -/
theorem same_canonicalRoot {canonical? : OsPath → Option OsPath} (h : Canonicalizes canonical?)
    {root : OsPath} (hbelow : Below root (canonicalRoot canonical? root)) :
    Same root (canonicalRoot canonical? root) := by
  rw [canonicalRoot] at hbelow ⊢
  cases hroot : canonical? root with
  | none => exact rfl
  | some canonical =>
    rw [hroot] at hbelow
    exact h root canonical hroot hbelow

/-- Below the folder of the sources a watch takes a location for the path whose source is there, by either
spelling of the folder, and elsewhere it takes a location for no path.  The folder may be any bytes, but
only of a text the sources are read below it. -/
theorem inverts {canonical? : OsPath → Option OsPath} (h : Canonicalizes canonical?) (root : OsPath) :
    Inverts canonical? root where
  source htext disk path hpath := by
    have hlocation : (root.push path).text = Location.join root.text path := root.text_push path
    have hpush : root.push path = Location.join root.text path := by
      rw [htext, OsPath.push_ofString, OsPath.text_ofString]
    rw [Storage.sourceLocation, hlocation, ← hpush]
    exact relativePath?_cons_push root hpath
  elsewhere htext _ _ hbelow := htext (eq_text_of_below hbelow)
  canonical path hpath hbelow := by
    rw [spellings, relativePath?_cons_of_not_below hbelow]
    exact relativePath?_cons_push _ hpath
  told path hpath changes hopen told := mem_pending_notify_of_isSource hpath hopen told
  outside location hroot hcanonical := by
    rw [spellings, relativePath?_cons_of_not_below hroot, relativePath?_cons_of_not_below hcanonical]
    rfl
  itself location hsame := by
    by_cases hbelow : Below root location
    · -- Both spellings are one, if the location of the canonical form lies below the folder.
      refine relativePath?_cons_of_same (hsame.elim id fun hcanonical => ?_)
      have hroot : Below root (canonicalRoot canonical? root) := hbelow.trans (Same.below hcanonical.symm)
      exact (same_canonicalRoot h hroot).trans hcanonical
    · rcases hsame with hroot | hcanonical
      · exact absurd hroot.below hbelow
      · rw [spellings, relativePath?_cons_of_not_below hbelow]
        exact relativePath?_cons_of_same hcanonical

/-- A disk on which the folder of the sources and one inside it stand in the working folder. -/
def nestedDisk : Disk where
  home := ["w".toList]
  entries := ⟨[(["w".toList], .folder), (["w".toList, "shaders".toList], .folder),
    (["w".toList, "shaders".toList, "lib".toList], .folder)]⟩

theorem inverts_nestedDisk :
    (Canonicalizes nestedDisk.canonical? ∧
      canonicalRoot nestedDisk.canonical? "shaders/./lib/.." = ("/w/shaders" : String) ∧
      IsSource "lib/a.glsl") ∧
      let roots := spellings nestedDisk.canonical? "shaders/./lib/.."
      relativePath? roots "shaders/./lib/../lib/a.glsl" = some "lib/a.glsl" ∧
        relativePath? roots "/w/shaders/lib/a.glsl" = some "lib/a.glsl" ∧
        relativePath? roots "/w/shaders/" = none ∧ relativePath? roots "/w/lib" = none := by
  have hroot : canonicalRoot nestedDisk.canonical? "shaders/./lib/.." = ("/w/shaders" : String) := by decide
  have hsource : IsSource "lib/a.glsl" := by
    have hnormal := normalize_eq_self_iff.mp (show normalize "lib/a.glsl" = "lib/a.glsl" by decide)
    exact ⟨by decide, hnormal.1, hnormal.2⟩
  have hinverts := inverts nestedDisk.canonicalizes "shaders/./lib/.."
  have hcanonical := hinverts.canonical "lib/a.glsl" hsource
  have houtside := hinverts.outside "/w/lib"
  have hitself := hinverts.itself "/w/shaders/"
  rw [hroot] at hcanonical houtside hitself
  exact ⟨⟨nestedDisk.canonicalizes, hroot, hsource⟩, hinverts.source (by decide) nestedDisk "lib/a.glsl" hsource,
    hcanonical (by decide), hitself (.inr (by decide)), houtside (by decide) (by decide)⟩

/-- The name of a folder in the working folder `/w` that is no text. -/
def rawRoot : OsPath := ⟨[0xFF]⟩

def rawCanonical? (location : OsPath) : Option OsPath :=
  if location = rawRoot then some ⟨encode "/w/".toList ++ rawRoot.bytes⟩ else none

/-- Its sources are read from another folder, and of their files the watch makes no path. -/
theorem not_inverts_rawRoot :
    Canonicalizes rawCanonical? ∧ IsSource "a.frag" ∧ ∀ disk,
      (Storage.folder disk rawRoot).sourceLocation "a.frag" = "\uFFFD/a.frag" ∧
      relativePath? (spellings rawCanonical? rawRoot)
        ((Storage.folder disk rawRoot).sourceLocation "a.frag") = none := by
  refine ⟨fun location canonical hcanonical hbelow => ?_, ?_, fun disk => ?_⟩
  · rw [rawCanonical?] at hcanonical
    split at hcanonical
    · next hroot =>
      obtain rfl := Option.some.inj hcanonical
      rw [hroot] at hbelow
      exact absurd hbelow (by decide)
    · cases hcanonical
  · have hnormal := normalize_eq_self_iff.mp (show normalize "a.frag" = "a.frag" by decide)
    exact ⟨by decide, hnormal.1, hnormal.2⟩
  · have hlocation : (rawRoot.push "a.frag").text = "\uFFFD/a.frag" := by decide
    rw [Storage.sourceLocation, hlocation]
    exact ⟨rfl, by decide⟩

end ShaderDepot.Watch
