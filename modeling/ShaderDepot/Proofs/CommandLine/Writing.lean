import ShaderDepot.CommandLine.Run
import ShaderDepot.Proofs.Storage.Overwriting

/-!
# What a run writes

A run changes its disk only where it writes the resolved texts of its files.  It writes them one after
the other, until one fails, each to the place of its cache; every source that could be read before is
read again, and has another text only if a cache was written over it (`CommandLine.run_writes`).
-/

namespace ShaderDepot.CommandLine

open Disk Location ShaderDepot.Path

variable {α β : Type}

namespace RunM

variable {x : RunM α} {f : α → RunM β} {w : Workshop} {post post' : Except Failure α → Workshop → Prop}
  {post₂ : Except Failure β → Workshop → Prop}

/-! ## How a part of a run ends -/

/-- However the device fares, the part ends in a result and a workshop as they are said to be. -/
def Ends (x : RunM α) (w : Workshop) (post : Except Failure α → Workshop → Prop) : Prop :=
  ∀ device, post (x.run w device).value.1.1 (x.run w device).value.1.2

theorem Ends.mono (h : Ends x w post) (himp : ∀ r w', post r w' → post' r w') : Ends x w post' :=
  fun device => himp _ _ (h device)

theorem ends_pure {a : α} (h : post (.ok a) w) : Ends (pure a) w post := fun _ => h

theorem ends_throw {e : Failure} (h : post (.error e) w) : Ends (throw e) w post := fun _ => h

theorem ends_get {post : Except Failure Workshop → Workshop → Prop} (h : post (.ok w) w) :
    Ends get w post := fun _ => h

theorem ends_modify {post : Except Failure Unit → Workshop → Prop} {change : Workshop → Workshop}
    (h : post (.ok ()) (change w)) : Ends (modify change) w post := fun _ => h

theorem ends_onDevice {action : DeviceM α} (h : ∀ a, post (.ok a) w) :
    Ends (onDevice action) w post := fun _ => h _

theorem ends_bind
    (h : Ends x w fun r w' => match r with
      | .ok a => Ends (f a) w' post₂
      | .error e => post₂ (.error e) w') :
    Ends (x >>= f) w post₂ := by
  intro device
  have hx := h device
  have hfirst := h device
  change post₂ (ExceptT.run (x >>= f) w device).value.1.1 (ExceptT.run (x >>= f) w device).value.1.2
  rw [ExceptT.run_bind]
  simp only [bind, StateT.bind, Traced.value_after]
  generalize ExceptT.run x w device = ended at hfirst ⊢
  obtain ⟨⟨⟨r, w'⟩, device'⟩, events⟩ := ended
  cases r with
  | ok a => exact hfirst device'
  | error e => exact hfirst

/-! ## Parts that only change the depot -/

/-- Only the depot is another one. -/
def OnlyDepot (w w' : Workshop) : Prop := ∃ depot, w' = { w with depot }

theorem OnlyDepot.refl (w : Workshop) : OnlyDepot w w := ⟨w.depot, rfl⟩

theorem OnlyDepot.trans {w w' w'' : Workshop} (h : OnlyDepot w w') (h' : OnlyDepot w' w'') :
    OnlyDepot w w'' := by
  obtain ⟨depot, rfl⟩ := h
  obtain ⟨depot', rfl⟩ := h'
  exact ⟨depot', rfl⟩

theorem ends_traced (action : Traced α) (w : Workshop) :
    Ends (traced action) w fun _ w' => w' = w := fun _ => rfl

theorem ends_onDepot (action : Storage → Depot → DeviceM (α × Depot)) (w : Workshop) :
    Ends (onDepot action) w fun _ w' => OnlyDepot w w' :=
  ends_bind <| ends_get <| ends_bind <| ends_onDevice fun p =>
    ends_bind <| ends_modify <| ends_pure ⟨p.2, rfl⟩

theorem ends_mapM {f : α → RunM β} (h : ∀ a w, Ends (f a) w fun _ w' => OnlyDepot w w')
    (l : List α) (w : Workshop) :
    Ends (l.mapM f) w fun r w' => OnlyDepot w w' ∧ ∀ bs, r = .ok bs → bs.length = l.length := by
  induction l generalizing w with
  | nil =>
    refine ends_pure ⟨OnlyDepot.refl w, ?_⟩
    rintro bs ⟨⟩
    rfl
  | cons a l ih =>
    rw [List.mapM_cons]
    refine ends_bind ((h a w).mono fun r w' hw' => ?_)
    cases r with
    | error e => exact ⟨hw', nofun⟩
    | ok b =>
      refine ends_bind ((ih w').mono fun r w'' hw'' => ?_)
      cases r with
      | error e => exact ⟨hw'.trans hw''.1, nofun⟩
      | ok bs =>
        refine ends_pure ⟨hw'.trans hw''.1, ?_⟩
        rintro _ ⟨⟩
        rw [List.length_cons, List.length_cons, hw''.2 bs rfl]

theorem ends_forM {f : α → RunM Unit} (h : ∀ a w, Ends (f a) w fun _ w' => w' = w) (l : List α)
    (w : Workshop) : Ends (l.forM f) w fun _ w' => w' = w := by
  induction l with
  | nil => exact ends_pure rfl
  | cons a l ih =>
    refine ends_bind ((h a w).mono fun r w' hw' => ?_)
    subst hw'
    cases r with
    | error e => rfl
    | ok _ => exact ih

theorem ends_loadPrograms (request : Request) (w : Workshop) :
    Ends (loadPrograms request) w fun r w' =>
      OnlyDepot w w' ∧ ∀ ids, r = .ok ids → ids.length = request.files.length := by
  refine ends_mapM (fun file w => ?_) request.files w
  split
  · exact ends_throw (OnlyDepot.refl w)
  · exact ends_onDepot _ w

theorem ends_report (programs : List ProgramId) (w : Workshop) :
    Ends (report programs) w fun _ w' => w' = w := by
  refine ends_bind (ends_get (ends_bind ((ends_forM (fun p w => ?_) _ w).mono fun r w' hw' => ?_)))
  · split <;> exact ends_traced _ w
  · subst hw'
    cases r with
    | error e => rfl
    | ok _ => exact ends_pure rfl

theorem ends_compile (request : Request) (w : Workshop) :
    Ends (compile request) w fun _ w' => OnlyDepot w w' := by
  refine ends_bind ((ends_loadPrograms request w).mono fun r w' hw' => ?_)
  cases r with
  | error e => exact hw'.1
  | ok ids =>
    refine ends_bind ((ends_report ids w').mono fun r w'' hw'' => ?_)
    subst hw''
    cases r with
    | error e => exact hw'.1
    | ok failed =>
      dsimp only
      split
      · exact ends_throw hw'.1
      · exact ends_pure hw'.1

theorem ends_startWatch (request : Request) (w : Workshop) :
    Ends (startWatch request) w fun _ w' => OnlyDepot w w' := by
  refine ends_bind ((ends_loadPrograms request w).mono fun r w' hw' => ?_)
  cases r with
  | error e => exact hw'.1
  | ok ids =>
    refine ends_bind ((ends_report ids w').mono fun r w'' hw'' => ?_)
    subst hw''
    cases r with
    | error e => exact hw'.1
    | ok failed =>
      refine ends_bind (ends_get ?_)
      dsimp only
      split
      · refine (ends_traced _ _).mono fun r w'' hw'' => ?_
        rw [hw'']
        exact hw'.1
      · refine ends_bind ((ends_onDepot _ _).mono fun r w'' hw'' => ?_)
        cases r with
        | error e => exact hw'.1.trans hw''
        | ok watched =>
          dsimp only
          split
          · exact ends_pure (hw'.1.trans hw'')
          · exact ends_throw (hw'.1.trans hw'')

/-! ## Parts that write caches -/

/-- Caches of the first of some files were written, each with its text: of all of them if the part
ended well, and then the texts were printed too, if they are printed as they are. -/
structure Wrote (files : List String) (plain : Prop) (w : Workshop) (r : Except Failure Unit)
    (w' : Workshop) (written : List (String × String)) : Prop where
  root : w'.root = w.root
  keeps : Keeps (w.storage.cacheFiles w.disk.home Storage.resolvedFolder written) w.disk w'.disk
  named : written.map Prod.fst <+: files
  complete : r = .ok () → written.map Prod.fst = files
  printed : r = .ok () → plain → w'.printed = w.printed ++ String.join (written.map Prod.snd)

variable {files files' : List String} {plain : Prop} {w' w'' : Workshop} {r : Except Failure Unit}
  {written written' : List (String × String)} {e : Failure}

theorem Wrote.error (h : Wrote files plain w (.error e) w' written) (files' : List String) :
    Wrote (files ++ files') plain w (.error e) w' written where
  root := h.root
  keeps := h.keeps
  named := h.named.trans (List.prefix_append ..)
  complete := nofun
  printed := nofun

theorem Wrote.trans (h : Wrote files plain w (.ok ()) w' written)
    (h' : Wrote files' plain w' r w'' written') :
    Wrote (files ++ files') plain w r w'' (written ++ written') where
  root := h'.root.trans h.root
  keeps := by
    have hplaces : w'.storage.cacheFiles w'.disk.home Storage.resolvedFolder written' =
        w.storage.cacheFiles w.disk.home Storage.resolvedFolder written' := by
      rw [h.keeps.home]
      unfold Workshop.storage
      rw [h.root]
      rfl
    have hkeeps := h.keeps.trans (hplaces ▸ h'.keeps)
    rwa [Storage.cacheFiles, Storage.cacheFiles, ← List.map_append] at hkeeps
  named := by
    rw [List.map_append, h.complete rfl]
    exact (List.prefix_append_right_inj _).mpr h'.named
  complete hr := by rw [List.map_append, h.complete rfl, h'.complete hr]
  printed hr hp := by
    rw [h'.printed hr hp, h.printed rfl hp, List.map_append, String.join_append,
      String.append_assoc]

theorem ends_forM_wrote {body : α → RunM Unit} {outputs : α → List String}
    (h : ∀ a w, Ends (body a) w fun r w' => ∃ written, Wrote (outputs a) plain w r w' written)
    (l : List α) (w : Workshop) :
    Ends (l.forM body) w fun r w' => ∃ written, Wrote (l.flatMap outputs) plain w r w' written := by
  induction l generalizing w with
  | nil =>
    refine ends_pure ⟨[], rfl, Keeps.refl _, List.prefix_rfl, fun _ => rfl, fun _ _ => ?_⟩
    exact (String.append_empty).symm
  | cons a l ih =>
    refine ends_bind ((h a w).mono fun r w' ⟨written, hw'⟩ => ?_)
    cases r with
    | error e => exact ⟨written, hw'.error _⟩
    | ok _ =>
      refine (ih w').mono fun r w'' ⟨written', hw''⟩ => ?_
      exact ⟨written ++ written', hw'.trans hw''⟩

theorem ends_onDisk {change : Disk → Except IoFault Disk} {aim : String}
    {post : Except Failure Unit → Workshop → Prop}
    (hok : ∀ disk, change w.disk = .ok disk → post (.ok ()) { w with disk })
    (herror : ∀ e, post (.error e) w) : Ends (onDisk change aim) w post := by
  refine ends_bind (ends_get ?_)
  dsimp only
  split
  · next disk h => exact ends_modify (hok disk h)
  · exact ends_throw (herror _)

/-- One cache was written at its place, or nothing was if the part failed. -/
def Placed (file text : String) (w : Workshop) (r : Except Failure Unit) (w' : Workshop) : Prop :=
  w'.root = w.root ∧ w'.printed = w.printed ∧
    match r with
    | .ok _ => Keeps (w.storage.cacheFiles w.disk.home Storage.resolvedFolder [(file, text)]) w.disk
        w'.disk
    | .error _ => Keeps [] w.disk w'.disk

theorem ends_writeResolved (file text : String) (w : Workshop) :
    Ends (writeResolved file text) w (Placed file text w) := by
  -- The file is written when the folders are there.
  have hwrite (disk : Disk) (hkeeps : Keeps [] w.disk disk) :
      Ends (do
          onDisk (·.write (w.storage.resolvedLocation file) text.toUTF8)
            s!"failed to write '{w.storage.resolvedLocation file}'"
          note .info s!"Wrote resolved text of {file} to {w.storage.resolvedLocation file}")
        { w with disk } (Placed file text w) := by
    refine ends_bind (ends_onDisk (fun disk' h => ?_) fun e => ⟨rfl, rfl, hkeeps⟩)
    refine ends_onDevice fun _ => ⟨rfl, rfl, ?_⟩
    have hwritten := hkeeps.trans (keeps_write h)
    rwa [hkeeps.home] at hwritten
  unfold writeResolved
  refine ends_bind (ends_get ?_)
  dsimp only
  split
  · refine ends_bind (ends_onDisk (fun disk h => ?_) fun e => ⟨rfl, rfl, Keeps.refl _⟩)
    exact hwrite disk (keeps_makeFolders h)
  · exact hwrite w.disk (Keeps.refl _)

theorem flatMap_zip_files {programs : List ProgramId} (h : programs.length = files.length)
    (write : Bool) :
    (files.zip programs).flatMap (fun p => if write then [p.1] else []) =
      if write then files else [] := by
  cases write with
  | false => simp
  | true =>
    have hzip := List.map_fst_zip (Nat.le_of_eq h.symm)
    simp only [if_true]
    rw [← List.map_eq_flatMap]
    exact hzip

theorem ends_resolve (request : Request) (numbered write : Bool) (w : Workshop) :
    Ends (resolve request numbered write) w fun r w' => ∃ written,
      Wrote (if write then request.files else []) (write = true ∧ numbered = false) w r w'
        written := by
  refine ends_bind ((ends_loadPrograms request w).mono fun r w' ⟨⟨depot, hw'⟩, hlength⟩ => ?_)
  subst hw'
  cases r with
  | error e => exact ⟨[], rfl, Keeps.refl w.disk, List.nil_prefix, nofun, nofun⟩
  | ok programs =>
    rw [← flatMap_zip_files (hlength programs rfl) write]
    refine (ends_forM_wrote (fun p w => ?_) _ _).mono fun r w' ⟨written, h⟩ =>
      ⟨written, h.root, h.keeps, h.named, h.complete, h.printed⟩
    obtain ⟨file, id⟩ := p
    refine ends_bind (ends_get (ends_bind ((ends_traced _ w).mono fun r w' hw' => ?_)))
    subst hw'
    cases r with
    | error e => exact ⟨[], rfl, Keeps.refl w'.disk, List.nil_prefix, nofun, nofun⟩
    | ok unit =>
      cases unit with
      | none => exact ends_throw ⟨[], rfl, Keeps.refl w'.disk, List.nil_prefix, nofun, nofun⟩
      | some unit =>
        refine ends_bind (ends_modify ?_)
        cases write with
        | false => exact ends_pure ⟨[], rfl, Keeps.refl w'.disk, List.prefix_rfl, fun _ => rfl, nofun⟩
        | true =>
          refine (ends_writeResolved file unit.text _).mono fun r w'' ⟨hroot, hprinted, hkeeps⟩ => ?_
          cases r with
          | error e => exact ⟨[], hroot, hkeeps, List.nil_prefix, nofun, nofun⟩
          | ok _ =>
            refine ⟨[(file, unit.text)], hroot, hkeeps, List.prefix_rfl, fun _ => rfl, ?_⟩
            rintro - ⟨-, rfl⟩
            rw [hprinted]
            rfl

end RunM

open RunM

/-! ## Whole runs -/

/-- The files of which a run writes the caches, if nothing fails. -/
def Arguments.cached (a : Arguments) : List String :=
  match a.command with
  | .resolve _ true => a.request.files
  | _ => []

theorem ends_perform (a : Arguments) (w : Workshop) :
    Ends (perform a) w fun r w' => ∃ written,
      Wrote a.cached (a.command = .resolve false true) w r w' written := by
  have hidle {x : RunM Unit} (hx : Ends x w fun _ w' => OnlyDepot w w') :
      Ends x w fun r w' => ∃ written, Wrote [] False w r w' written :=
    hx.mono fun r w' ⟨depot, hw'⟩ => by
      subst hw'
      exact ⟨[], rfl, Keeps.refl w.disk, List.prefix_rfl, fun _ => rfl, nofun⟩
  unfold perform Arguments.cached
  cases a.command with
  | resolve numbered write =>
    refine (ends_resolve a.request numbered write w).mono fun r w' ⟨written, h⟩ => ?_
    cases write with
    | false => exact ⟨written, h.root, h.keeps, h.named, h.complete, fun _ => nofun⟩
    | true =>
      refine ⟨written, h.root, h.keeps, h.named, h.complete, fun hr hplain => h.printed hr ?_⟩
      cases hplain
      exact ⟨rfl, rfl⟩
  | compile =>
    refine (hidle (ends_compile a.request w)).mono fun r w' ⟨written, h⟩ => ?_
    exact ⟨written, h.root, h.keeps, h.named, h.complete, fun _ => nofun⟩
  | watch pause passes =>
    refine (hidle (ends_startWatch a.request w)).mono fun r w' ⟨written, h⟩ => ?_
    exact ⟨written, h.root, h.keeps, h.named, h.complete, fun _ => nofun⟩

/-- What a run leaves of the sources on its disk, having written caches with their texts. -/
structure Leaves (disk : Disk) (root : String) (a : Arguments) (written : List (String × String))
    (o : Outcome) : Prop where
  /-- Caches are written in the order of the files, until one cannot be. -/
  named : written.map Prod.fst <+: a.cached
  complete : o.code = 0 → written.map Prod.fst = a.cached
  /-- Their texts are what is printed. -/
  printed : o.code = 0 → a.command = .resolve false true →
    o.printed = String.join (written.map Prod.snd)
  /-- A source has another text only if it lies where a cache was written. -/
  source : ∀ g text, (Storage.folder disk root).read (normalize g) = .ok text →
    (Storage.folder o.disk root).read (normalize g) = .ok
      ((Storage.folder disk root).textAfter disk.home Storage.resolvedFolder written g text)
  /-- While all names go down, only the sources in the folder of the caches can be changed. -/
  spared : (∀ f ∈ a.cached, ¬ Absolute f ∧ climbs f = 0) → ∀ g,
    ¬ (Storage.folder disk root).NamedInto disk.home Storage.resolvedFolder g → ∀ text,
    (Storage.folder disk root).read (normalize g) = .ok text →
    (Storage.folder o.disk root).read (normalize g) = .ok text

variable {disk : Disk} {a : Arguments} {settings : Settings} {root : String}

theorem leaves_of_wrote {w w' : Workshop} {r : Except Failure Unit} {o : Outcome}
    {written : List (String × String)}
    (h : Wrote a.cached (a.command = .resolve false true) w r w' written)
    (hw : w.printed = "") (hcode : o.code = 0 → r = .ok ()) (hprinted : o.printed = w'.printed)
    (hdisk : o.disk = w'.disk) : Leaves w.disk w.root a written o := by
  have hsource : ∀ g text, (Storage.folder w.disk w.root).read (normalize g) = .ok text →
      (Storage.folder o.disk w.root).read (normalize g) = .ok
        ((Storage.folder w.disk w.root).textAfter w.disk.home Storage.resolvedFolder written g
          text) := by
    rw [hdisk]
    exact fun g text => Storage.read_of_keeps h.keeps
  refine ⟨h.named, fun ho => h.complete (hcode ho), fun ho hplain => ?_, hsource, ?_⟩
  · rw [hprinted, h.printed (hcode ho) hplain, hw, String.empty_append]
  · intro hfiles g hg text hread
    have hspared : ∀ p ∈ written,
        ¬ (Storage.folder w.disk w.root).Meets w.disk.home Storage.resolvedFolder p.1 g := by
      intro p hp
      obtain ⟨hrelative, hdown⟩ := hfiles p.1 (h.named.subset (List.mem_map_of_mem hp))
      exact Storage.not_meets (.inl rfl) hrelative hdown hg
    rw [hsource g text hread, Storage.textAfter_of_not_meets hspared]

/-- A run is that of the part that its arguments ask for, in a new workshop. -/
theorem start_value (hs : (a.settings disk).value = .ok (settings, root)) :
    (Session.start disk a).value = .ok
      (Session.step ⟨a, { disk, root, depot := .create settings }, .create .labeled, .ok ()⟩
        (perform a)).value := by
  rw [Session.start, Traced.value_bind, hs]
  rfl

theorem step_value (s : Session) (x : RunM Unit) :
    (s.step x).value = { s with
      result := (x.run s.workshop s.device).value.1.1
      workshop := (x.run s.workshop s.device).value.1.2
      device := (x.run s.workshop s.device).value.2 } := rfl

theorem run_leaves {args : List String} (filter : Option String)
    (ha : Arguments.parse args = .ok a) (hs : (a.settings disk).value = .ok (settings, root)) :
    ∃ written, Leaves disk root a written (run disk filter args) := by
  obtain ⟨written, h⟩ :=
    ends_perform a { disk, root, depot := .create settings } (.create .labeled)
  simp only [run, ha, runRequest, start_value hs, step_value]
  generalize ((perform a).run _ _).value = ended at h ⊢
  obtain ⟨⟨r, w'⟩, device⟩ := ended
  cases r with
  | ok _ => exact ⟨written, leaves_of_wrote h rfl (fun _ => rfl) rfl rfl⟩
  | error e => exact ⟨written, leaves_of_wrote h rfl (fun hcode => by cases hcode) rfl rfl⟩

/-- Where the caches of a name lie next to the sources, and what a run that writes them leaves of
these. -/
theorem caches_meet {cache : String} (hc : Storage.IsCacheFolder cache) (s : Storage) (home : Place)
    (f : String) {args : List String} (filter : Option String) (ha : Arguments.parse args = .ok a)
    (hs : (a.settings disk).value = .ok (settings, root)) :
    s.Caching home cache f ∧ ∃ written, Leaves disk root a written (run disk filter args) :=
  ⟨s.caching home f hc, run_leaves filter ha hs⟩

/-- A disk with a file of one name in the folder of the sources and in the one above it. -/
def twiceSample : Disk where
  home := [['w']]
  entries := ⟨[
    ([['w']], .folder),
    ([['w'], "shaders".toList], .folder),
    ([['w'], "a.frag".toList], .file "void main() {}\n".toUTF8),
    ([['w'], "shaders".toList, "a.frag".toList], .file "int a;\n".toUTF8)]⟩

/-- The arguments that have the cache of one file written. -/
def writingSample (file : String) : Arguments where
  config := "Shaders.toml"
  root := none
  defaultVersion := none
  listOnError := false
  command := .resolve false true
  request := { files := [file] }

/-- A name that goes up meets a source, and a name that goes down leaves it as it was. -/
theorem caches_meet_twiceSample :
    (Storage.IsCacheFolder Storage.resolvedFolder ∧
      (Storage.folder twiceSample "shaders").Meets twiceSample.home Storage.resolvedFolder "../a.frag"
        "a.frag") ∧
    Arguments.parse ["resolve", "--write", "a.frag"] = .ok (writingSample "a.frag") ∧
    ((writingSample "a.frag").settings twiceSample).value = .ok ({}, "shaders") ∧
    (Storage.folder (run twiceSample none ["resolve", "--write", "a.frag"]).disk "shaders").read
      "a.frag" = .ok "int a;\n" := by
  have hcache : Storage.IsCacheFolder Storage.resolvedFolder := .inl rfl
  have hparse : Arguments.parse ["resolve", "--write", "a.frag"] = .ok (writingSample "a.frag") := rfl
  have hsettings : ((writingSample "a.frag").settings twiceSample).value = .ok ({}, "shaders") := rfl
  obtain ⟨hcaching, written, hleaves⟩ := caches_meet hcache (.folder twiceSample "shaders")
    twiceSample.home "../a.frag" none hparse hsettings
  refine ⟨⟨hcache, (hcaching.above (by decide) 0 (by decide) "a.frag").mpr (by decide)⟩, hparse,
    hsettings, ?_⟩
  have hnormal : normalize "a.frag" = "a.frag" := by decide
  have hdown : climbs "a.frag" = 0 := by decide
  have hnames : names "a.frag" = ["a.frag".toList] := by decide
  have hbeside : ¬ (Storage.folder twiceSample "shaders").NamedInto twiceSample.home
      Storage.resolvedFolder "a.frag" := by
    rintro ⟨rest, h⟩
    rw [hnormal, hdown, hnames, Nat.sub_zero, List.drop_length] at h
    exact absurd (List.cons.inj h).1 (by decide)
  have hread := hleaves.spared (by decide) "a.frag" hbeside "int a;\n"
  rw [hnormal] at hread
  exact hread (by decide)

/-- Writing the cache of a name that goes up overwrites a source of another name.  A name from the root
is the location of its own cache, and a memory does not keep caches from sources either. -/
theorem caches_overwrite :
    (Storage.folder twiceSample "shaders").read "a.frag" = .ok "int a;\n" ∧
    (run twiceSample none ["resolve", "--write", "../a.frag"]).code = 0 ∧
    (Storage.folder (run twiceSample none ["resolve", "--write", "../a.frag"]).disk "shaders").read
      "a.frag" = .ok (run twiceSample none ["resolve", "--write", "../a.frag"]).printed ∧
    (run twiceSample none ["resolve", "--write", "../a.frag"]).printed ≠ "int a;\n" ∧
    (Storage.folder twiceSample "shaders").cacheLocation Storage.resolvedFolder "/w/shaders/a.frag" =
      "/w/shaders/a.frag" ∧
    (Storage.memory {}).Meets [] Storage.resolvedFolder "../a.frag" "a.frag" ∧
    (Storage.memory {}).Meets [] Storage.compiledFolder "a.frag" "compiled/a.frag" := by
  decide +kernel

end ShaderDepot.CommandLine
