import ShaderDepot.Proofs.Storage.Caches

/-!
# What writing leaves of a disk

To make folders and to write a file takes nothing away: a way that led to something still leads there,
folders are folders, and a file has other bytes only if it stands where the written location leads
(`Disk.keeps_write`).  So a source that was read before is read again as it was, or as what was written
last at its place (`Storage.read_of_keeps`).
-/

namespace ShaderDepot

namespace Disk

open Location

variable {d d' d'' : Disk} {location : String} {bytes : ByteArray} {p q : Place}
  {written written' : List (Place × ByteArray)}

/-- What is last written at a place, or else what was there before. -/
def lastWritten (written : List (Place × ByteArray)) (p : Place) (before : ByteArray) : ByteArray :=
  written.foldl (fun kept w => if w.1 = p then w.2 else kept) before

theorem lastWritten_cons (q : Place) (bytes : ByteArray) (written : List (Place × ByteArray))
    (p : Place) (before : ByteArray) :
    lastWritten ((q, bytes) :: written) p before =
      lastWritten written p (if q = p then bytes else before) := rfl

/-- One disk has all that another has, but for the bytes of the files that were written. -/
structure Keeps (written : List (Place × ByteArray)) (d d' : Disk) : Prop where
  home : d'.home = d.home
  folder : ∀ p, d.isFolder p → d'.isFolder p
  file : ∀ p bytes, d.lookup? p = some (.file bytes) →
    d'.lookup? p = some (.file (lastWritten written p bytes))

theorem Keeps.refl (d : Disk) : Keeps [] d d where
  home := rfl
  folder _ h := h
  file _ _ h := h

theorem Keeps.trans (h : Keeps written d d') (h' : Keeps written' d' d'') :
    Keeps (written ++ written') d d'' where
  home := h'.home.trans h.home
  folder p hp := h'.folder p (h.folder p hp)
  file p bytes hp := by
    rw [lastWritten, List.foldl_append]
    exact h'.file p _ (h.file p bytes hp)

/-! ## What is found on it -/

theorem isFolder_eq_true : d.isFolder p = true ↔ d.lookup? p = some .folder := decide_eq_true_iff

theorem Keeps.isSome (h : Keeps written d d') (hp : (d.lookup? p).isSome) :
    (d'.lookup? p).isSome := by
  obtain ⟨entry, hentry⟩ := Option.isSome_iff_exists.mp hp
  cases entry with
  | folder => rw [isFolder_eq_true.mp (h.folder p (isFolder_eq_true.mpr hentry))]; rfl
  | file bytes => rw [h.file p bytes hentry]; rfl

theorem step_of_isFolder {c : Component} (hp : d'.isFolder p) (h : d.step p c = .ok q) :
    d'.step p c = .ok q := by
  unfold step at h ⊢
  split at h
  · cases h
  · rw [if_neg (by rw [hp]; exact Bool.false_ne_true)]
    exact h

theorem isFolder_of_step {c : Component} (h : d.step p c = .ok q) : d.isFolder p = true := by
  unfold step at h
  split at h
  · cases h
  · next hp => simpa using hp

theorem Keeps.follow (h : Keeps written d d') {cs : List Component} (hq : d.follow p cs = .ok q) :
    d'.follow p cs = .ok q := by
  induction cs generalizing p with
  | nil => exact hq
  | cons c cs ih =>
    obtain ⟨next, hstep, hsome, hrest⟩ := follow_cons_eq_ok.mp hq
    have hstep' := step_of_isFolder (h.folder p (isFolder_of_step hstep)) hstep
    exact follow_cons_eq_ok.mpr ⟨next, hstep', h.isSome hsome, ih hrest⟩

theorem Keeps.start (h : Keeps written d d') (location : String) :
    d'.start location = d.start location := by
  simp only [Disk.start, h.home]

theorem Keeps.find (h : Keeps written d d') (hq : d.find location = .ok q) :
    d'.find location = .ok q := by
  obtain ⟨p, hstart, hfollow⟩ := find_eq_ok.mp hq
  exact find_eq_ok.mpr ⟨p, (h.start location).trans hstart, h.follow hfollow⟩

theorem read_eq_ok : d.read location = .ok bytes ↔
    ∃ q, d.find location = .ok q ∧ d.lookup? q = some (.file bytes) := by
  rw [read]
  cases d.find location with
  | error fault => simp [bind, Except.bind]
  | ok q =>
    simp only [bind, Except.bind, Except.ok.injEq, exists_eq_left']
    split
    · next b hb => simp [hb, pure, Except.pure]
    · next hno =>
      constructor
      · intro h
        cases h
      · intro hb
        exact absurd hb (hno bytes)

/-- A file that was read is read as what was written last where it stands. -/
theorem Keeps.read (h : Keeps written d d') (hread : d.read location = .ok bytes) :
    d'.read location = .ok (lastWritten written (placeFrom d.home location) bytes) := by
  obtain ⟨q, hfind, hfile⟩ := read_eq_ok.mp hread
  rw [← placeFrom_of_find hfind]
  exact read_eq_ok.mpr ⟨q, h.find hfind, h.file q bytes hfile⟩

/-! ## Folders that are made -/

theorem lookup?_insert (d : Disk) (entry : Entry) (hp : p ≠ []) (q : Place) :
    ({ d with entries := d.entries.insert p entry } : Disk).lookup? q =
      if p = q then some entry else d.lookup? q := by
  unfold lookup?
  by_cases hq : q = []
  · rw [if_pos hq, if_pos hq, if_neg (by rw [hq]; exact hp)]
  · rw [if_neg hq, if_neg hq, Table.get?_insert]

theorem ne_nil_of_lookup? (h : d.isFolder p = false) : p ≠ [] := by
  rintro rfl
  rw [isFolder, lookup?, if_pos rfl] at h
  exact absurd h (by decide)

theorem keeps_insert_folder (hp : d.lookup? p = none) :
    Keeps [] d { d with entries := d.entries.insert p .folder } := by
  have hne : p ≠ [] := ne_nil_of_lookup? (by rw [isFolder, hp]; decide)
  have hother {q : Place} (hq : d.lookup? q ≠ none) : p ≠ q := by
    rintro rfl
    exact hq hp
  refine ⟨rfl, fun q hq => ?_, fun q bytes hq => ?_⟩
  · rw [isFolder_eq_true] at hq ⊢
    rw [lookup?_insert d _ hne, if_neg (hother (by rw [hq]; exact nofun)), hq]
  · rw [lookup?_insert d _ hne, if_neg (hother (by rw [hq]; exact nofun)), hq]
    rfl

theorem keeps_makeFoldersFrom {cs : List Component} (h : d.makeFoldersFrom p cs = .ok d') :
    Keeps [] d d' := by
  induction cs generalizing d p with
  | nil =>
    rw [makeFoldersFrom] at h
    split at h
    · rw [← Except.ok.inj h]
      exact Keeps.refl d
    · cases h
  | cons c cs ih =>
    rw [makeFoldersFrom] at h
    cases hstep : d.step p c with
    | error fault => rw [hstep] at h; cases h
    | ok next =>
      rw [hstep] at h
      simp only [bind, Except.bind] at h
      split at h
      · exact ih h
      · next hnone =>
        have hnone : d.lookup? next = none := by simpa using hnone
        exact (keeps_insert_folder hnone).trans (ih h)

theorem keeps_makeFolders (h : d.makeFolders location = .ok d') : Keeps [] d d' := by
  rw [makeFolders] at h
  split at h
  · rw [← Except.ok.inj h]
    exact Keeps.refl d
  · cases hstart : d.start location with
    | error fault => rw [hstart] at h; cases h
    | ok p =>
      rw [hstart] at h
      exact keeps_makeFoldersFrom h

/-! ## Files that are written -/

theorem placeFrom_of_target (h : d.target location = .ok q) : q = placeFrom d.home location := by
  rw [target] at h
  cases hstart : d.start location with
  | error fault => rw [hstart] at h; cases h
  | ok p =>
    cases hfollow : d.follow p (steps location.toList).dropLast with
    | error fault => simp [hstart, hfollow, bind, Except.bind] at h
    | ok parent =>
      simp only [hstart, hfollow, bind, Except.bind] at h
      have hparent := foldl_move_of_follow hfollow
      rw [placeFrom, ← eq_of_start hstart]
      split at h
      · next c hc =>
        obtain ⟨front, hsteps⟩ := List.getLast?_eq_some_iff.mp hc
        rw [move_of_step h, hparent, hsteps, List.dropLast_concat, List.foldl_append]
        rfl
      · next hnone =>
        have hsteps : steps location.toList = [] := List.getLast?_eq_none_iff.mp hnone
        rw [← Except.ok.inj h, hparent, hsteps]
        rfl

theorem eq_of_write (h : d.write location bytes = .ok d') :
    ∃ q, d.target location = .ok q ∧ d.isFolder q = false ∧
      d' = { d with entries := d.entries.insert q (.file bytes) } := by
  rw [write] at h
  simp only [bind, Except.bind, throw, throwThe, MonadExceptOf.throw, pure, Except.pure] at h
  split at h
  · -- A location that ends in a slash is refused, one way or another.
    repeat' split at h
    all_goals cases h
  · split at h
    · cases h
    · next q hq =>
      split at h
      · cases h
      · next hfolder => exact ⟨q, hq, by simpa using hfolder, (Except.ok.inj h).symm⟩

theorem keeps_write (h : d.write location bytes = .ok d') :
    Keeps [(placeFrom d.home location, bytes)] d d' := by
  obtain ⟨q, htarget, hfolder, rfl⟩ := eq_of_write h
  rw [← placeFrom_of_target htarget]
  have hne : q ≠ [] := ne_nil_of_lookup? hfolder
  refine ⟨rfl, fun p hp => ?_, fun p before hp => ?_⟩
  · rw [isFolder_eq_true] at hp ⊢
    have hother : q ≠ p := by
      rintro rfl
      rw [isFolder, hp] at hfolder
      exact absurd hfolder (by decide)
    rw [lookup?_insert d _ hne, if_neg hother, hp]
  · rw [lookup?_insert d _ hne, hp, lastWritten, List.foldl_cons, List.foldl_nil]
    split <;> rfl

end Disk

/-! ## Sources next to written caches -/

namespace Storage

open Disk Location ShaderDepot.Path

variable {d d' : Disk} {root : OsPath} {file g text : String} {home : Place} {cache : String}
  {written : List (String × String)}

theorem fromUTF8?_toUTF8 (text : String) : String.fromUTF8? text.toUTF8 = some text :=
  dif_pos text.isValidUTF8

theorem read_folder_eq_ok : (folder d root).read file = .ok text ↔
    ∃ bytes, d.read (root.push file).text = .ok bytes ∧ String.fromUTF8? bytes = some text := by
  rw [read, readDisk]
  cases d.read (root.push file).text with
  | error fault => cases fault <;> simp
  | ok bytes =>
    simp only [decodeText, Except.ok.injEq, exists_eq_left']
    cases String.fromUTF8? bytes <;> simp

/-- The text of a source after the caches of some names were written, each with its text. -/
def textAfter (s : Storage) (home : Place) (cache : String) (written : List (String × String))
    (g text : String) : String :=
  written.foldl (fun kept w => if s.Meets home cache w.1 g then w.2 else kept) text

/-- The writing of caches, as files at their places. -/
def cacheFiles (s : Storage) (home : Place) (cache : String) (written : List (String × String)) :
    List (Place × ByteArray) :=
  written.map fun w => (s.cachePlace home cache w.1, w.2.toUTF8)

theorem textAfter_of_not_meets {s : Storage} (h : ∀ w ∈ written, ¬ s.Meets home cache w.1 g) :
    s.textAfter home cache written g text = text := by
  induction written generalizing text with
  | nil => rfl
  | cons w written ih =>
    rw [textAfter, List.foldl_cons, if_neg (h w (List.mem_cons_self ..))]
    exact ih fun w hw => h w (List.mem_cons_of_mem _ hw)

theorem fromUTF8?_lastWritten {s : Storage} {bytes : ByteArray}
    (h : String.fromUTF8? bytes = some text) :
    String.fromUTF8? (lastWritten (s.cacheFiles home cache written) (s.sourcePlace home g) bytes)
      = some (s.textAfter home cache written g text) := by
  induction written generalizing bytes text with
  | nil => exact h
  | cons w written ih =>
    rw [cacheFiles, List.map_cons, lastWritten_cons, textAfter, List.foldl_cons]
    by_cases hmeets : s.cachePlace home cache w.1 = s.sourcePlace home g
    · rw [if_pos hmeets, if_pos (show s.Meets home cache w.1 g from hmeets)]
      exact ih (fromUTF8?_toUTF8 w.2)
    · rw [if_neg hmeets, if_neg (show ¬ s.Meets home cache w.1 g from hmeets)]
      exact ih h

/-- A source that was read is read again, as the last cache that was written over it if there is
one. -/
theorem read_of_keeps
    (h : Keeps ((folder d root).cacheFiles d.home cache written) d d')
    (hread : (folder d root).read (normalize g) = .ok text) :
    (folder d' root).read (normalize g) =
      .ok ((folder d root).textAfter d.home cache written g text) := by
  obtain ⟨bytes, hbytes, htext⟩ := read_folder_eq_ok.mp hread
  exact read_folder_eq_ok.mpr ⟨_, h.read hbytes, fromUTF8?_lastWritten htext⟩

end Storage

end ShaderDepot
