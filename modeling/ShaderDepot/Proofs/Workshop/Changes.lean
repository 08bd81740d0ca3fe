import ShaderDepot.Proofs.Workshop.Soundness

/-!
# Changes on their way

A file that was written is read again later, and until then something has to stand for it: first the writer
who owes a notice, then a path in the queue, then a path that the owner received, and at last the owner who
is about to read it.  A writer may come at any moment between these, and a file may get its place when a
path that leads to it is already under way.  What is kept all the same is that a file that says
something else than the storage is stood for (`Workshop.Reachable.attended`).
-/

namespace ShaderDepot

open IncludeGraph

namespace Work

/-- The paths that were received, less those of which the file has been looked up. -/
def taken : Work → List String
  | .draining got => got
  | .loading (.update todo _) _ _ => todo
  | .loading .source _ _ | .loading (.program ..) _ _ | .idle | .compiling _ => []

/-- The owner holds nothing that stands for a file. -/
def Free (work : Work) : Prop := work.taken = [] ∧ work.gap? = none

end Work

theorem ChangeQueue.leads_iff {path key : String} :
    Leads path key ↔ Path.normalize path ≠ "" ∧ Path.normalize (Path.normalize path) = key := by
  have hmem : ∀ told, told ∈ (empty.notify path).2.pending ↔
      told ∈ [] ∨ told = Path.normalize path ∧ told ≠ "" :=
    fun told => mem_pending_notify nofun
  simp only [List.not_mem_nil, false_or] at hmem
  constructor
  · rintro ⟨told, htold, rfl⟩
    obtain ⟨rfl, hne⟩ := (hmem told).mp htold
    exact ⟨hne, rfl⟩
  · rintro ⟨hne, hkey⟩
    exact ⟨_, (hmem _).mpr ⟨rfl, hne⟩, hkey⟩

namespace Workshop

variable {w w' : Workshop} {id : FileId}

/-- The storage now gives the file otherwise than it was read last, if it was read at all.  Why a file
cannot be read is of no account. -/
def Stale (w : Workshop) (id : FileId) : Prop :=
  ∃ f, w.depot.graph.file? id = some f ∧
    f.lastRead.map Except.toOption ≠ some (w.storage.read f.path).toOption

/-- Something stands for the file, so that it will be read. -/
inductive Awaits (w : Workshop) (id : FileId) : Prop
  | queued {path : String} (hp : path ∈ w.depot.changes.pending)
      (hfind : w.depot.graph.find? path = some id)
  /-- The owner received a path and has still to look up its file. -/
  | taken {path : String} (hp : path ∈ w.work.taken) (hfind : w.depot.graph.find? path = some id)
  /-- The owner is about to read the file. -/
  | next (hgap : w.work.gap? = some id)
  /-- A writer is about to tell of a path that leads to the file. -/
  | owed {path key : String} (hp : path ∈ w.owed) (hleads : ChangeQueue.Leads path key)
      (hkey : w.depot.graph.lookup? key = some id)

/-- Every file that says something else than the storage is stood for. -/
def Attended (w : Workshop) : Prop := ∀ id, w.Stale id → w.Awaits id

/-! ## Steps that let nothing drop -/

theorem stale_iff : w.Stale id ↔ ∃ f, w.depot.graph.body? id = some f ∧
    f.lastRead.map Except.toOption ≠ some (w.storage.read f.path).toOption := by
  constructor
  · rintro ⟨f, hf, hne⟩
    exact ⟨f.body, body?_of_file? hf, hne⟩
  · rintro ⟨f', hf', hne⟩
    obtain ⟨f, hf, rfl⟩ := Option.map_eq_some_iff.mp hf'
    exact ⟨f, hf, hne⟩

theorem Stale.congr (h : w'.Stale id) (hstorage : w'.storage = w.storage)
    (hbody : w'.depot.graph.body? id = w.depot.graph.body? id) : w.Stale id := by
  rw [stale_iff] at h ⊢
  rwa [hstorage, hbody] at h

/-- What stands for the file in `w` is there in `w'`, or what comes after it. -/
structure Heeds (w w' : Workshop) (id : FileId) : Prop where
  lookup : ∀ key, w.depot.graph.lookup? key = some id → w'.depot.graph.lookup? key = some id
  queued : ∀ path ∈ w.depot.changes.pending,
    path ∈ w'.depot.changes.pending ∨ path ∈ w'.work.taken
  taken : ∀ path ∈ w.work.taken, w.depot.graph.find? path = some id →
    path ∈ w'.work.taken ∨ w'.work.gap? = some id
  next : w.work.gap? = some id → w'.work.gap? = some id
  owed : ∀ path ∈ w.owed, path ∈ w'.owed

theorem Awaits.heeds (h : w.Awaits id) (hheeds : Heeds w w' id) : w'.Awaits id := by
  cases h with
  | queued hp hfind =>
    have hfind' := hheeds.lookup _ hfind
    cases hheeds.queued _ hp with
    | inl hp' => exact .queued hp' hfind'
    | inr hp' => exact .taken hp' hfind'
  | taken hp hfind =>
    cases hheeds.taken _ hp hfind with
    | inl hp' => exact .taken hp' (hheeds.lookup _ hfind)
    | inr hgap => exact .next hgap
  | next hgap => exact .next (hheeds.next hgap)
  | owed hp hleads hkey => exact .owed (hheeds.owed _ hp) hleads (hheeds.lookup _ hkey)

/-- A step that reads no file, if it lets none drop. -/
theorem Attended.heeds (h : w.Attended) (hstorage : w'.storage = w.storage)
    (hbody : ∀ id, w'.depot.graph.body? id = w.depot.graph.body? id ∨ w'.work.gap? = some id)
    (hheeds : ∀ id, Heeds w w' id) : w'.Attended := by
  intro id hstale
  cases hbody id with
  | inl hsame => exact (h id (hstale.congr hstorage hsame)).heeds (hheeds id)
  | inr hgap => exact .next hgap

/-- A step from where no file is to be read next. -/
theorem Heeds.of_gap (hgap : w.work.gap? = none)
    (hlookup : ∀ key, w.depot.graph.lookup? key = some id → w'.depot.graph.lookup? key = some id)
    (hqueued : ∀ path ∈ w.depot.changes.pending,
      path ∈ w'.depot.changes.pending ∨ path ∈ w'.work.taken)
    (htaken : ∀ path ∈ w.work.taken, w.depot.graph.find? path = some id →
      path ∈ w'.work.taken ∨ w'.work.gap? = some id)
    (howed : w'.owed = w.owed) : Heeds w w' id where
  lookup := hlookup
  queued := hqueued
  taken := htaken
  next hnext := by
    rw [hgap] at hnext
    cases hnext
  owed path hp := by rwa [howed]

theorem Heeds.of_free (hfree : w.work.Free)
    (hlookup : ∀ key, w.depot.graph.lookup? key = some id → w'.depot.graph.lookup? key = some id)
    (hpending : ∀ path ∈ w.depot.changes.pending, path ∈ w'.depot.changes.pending)
    (howed : w'.owed = w.owed) : Heeds w w' id := by
  refine .of_gap hfree.2 hlookup (fun path hp => .inl (hpending path hp)) (fun path hp => ?_) howed
  rw [hfree.1] at hp
  cases hp

/-- A step that has nothing to do with files. -/
theorem Attended.still (h : w.Attended) (hfree : w.work.Free) (hstill : w.depot.Still w'.depot)
    (hstorage : w'.storage = w.storage) (howed : w'.owed = w.owed) : w'.Attended := by
  refine h.heeds hstorage (fun id => .inl ?_) fun _ => .of_free hfree (fun key hk => ?_)
    (fun path hp => ?_) howed
  · rw [hstill.graph]
  · rwa [hstill.graph]
  · rwa [hstill.changes]

/-! ## The others -/

theorem Attended.write (h : w.Attended) (hs : w.Sound) {storage : Storage} {path : String}
    (hdiffers : w.storage.DiffersAt path storage) : (w.write storage path).Attended := by
  intro id hstale
  obtain ⟨f, hf, hne⟩ := stale_iff.mp hstale
  have hkey : w.depot.graph.lookup? f.path = some id :=
    (hs.amid.wellFormed.index f.path id).mpr ⟨f, hf, rfl⟩
  by_cases hsame : (storage.read f.path).toOption = (w.storage.read f.path).toOption
  · -- The file was stale before, or the writer changed nothing that it says.
    have hstale' : w.Stale id := stale_iff.mpr ⟨f, hf, by rw [← hsame]; exact hne⟩
    refine (h id hstale').heeds ⟨fun _ hk => hk, fun _ => .inl, fun _ hp _ => .inl hp, fun e => e, ?_⟩
    exact fun _ hp => List.mem_append_left _ hp
  · -- Its key is the normal form of a path, so the writer owes a notice of it.
    obtain ⟨name, hname⟩ := hs.normalized f.path id hkey
    have hleads : ChangeQueue.Leads path f.path := by
      rw [← hname] at hsame ⊢
      exact hdiffers name hsame
    exact .owed (List.mem_append_right _ (List.mem_singleton_self path)) hleads hkey

theorem Attended.notify (h : w.Attended) (hs : w.Sound) (path : String) :
    (w.notify path).Attended := by
  have hpending : ∀ told, told ∈ (w.depot.changes.notify path).2.pending ↔
      told ∈ w.depot.changes.pending ∨ told = Path.normalize path ∧ told ≠ "" :=
    fun told => ChangeQueue.mem_pending_notify hs.listens
  rw [notify_eq]
  generalize w.depot.changes.notify path = notified at hpending
  intro id hstale
  have hstale' : w.Stale id := hstale
  cases h id hstale' with
  | queued hp hfind => exact .queued ((hpending _).mpr (.inl hp)) hfind
  | taken hp hfind => exact .taken hp hfind
  | next hgap => exact .next hgap
  | @owed path' key hp hleads hkey =>
    by_cases hpath : path' = path
    · -- The notice is given: now the queue holds what leads to the file.
      obtain ⟨hne, hnormal⟩ := ChangeQueue.leads_iff.mp hleads
      rw [hpath] at hne hnormal
      refine .queued ((hpending _).mpr (.inr ⟨rfl, hne⟩)) ?_
      show w.depot.graph.lookup? (Path.normalize (Path.normalize path)) = some id
      rw [hnormal]
      exact hkey
    · exact .owed (List.mem_filter.mpr ⟨hp, decide_eq_true hpath⟩) hleads hkey

/-! ## A request -/

theorem Attended.intern (h : w.Attended) (hidle : w.work = .idle) (path : String)
    (errand : FileId → Errand) : (w.intern path errand).Attended := by
  have hfree : w.work.Free := hidle ▸ ⟨rfl, rfl⟩
  simp only [Workshop.intern]
  split
  · exact h.still hfree ⟨rfl, rfl⟩ rfl rfl
  · next hfind =>
    refine h.heeds rfl (fun id => ?_) fun _ =>
      .of_free hfree (fun _ hk => lookup?_push_of_lookup? hk hfind) (fun _ hp => hp) rfl
    show (w.depot.graph.push _).body? id = _ ∨ some (⟨w.depot.graph.size⟩ : FileId) = some id
    rw [body?_push]
    by_cases hnew : id = ⟨w.depot.graph.size⟩
    · exact .inr (congrArg some hnew.symm)
    · exact .inl (if_neg hnew)

theorem Attended.ask (h : w.Attended) (hs : w.Sound) (hidle : w.work = .idle) (request : Request) :
    (w.ask request).Attended := by
  have hfree : w.work.Free := hidle ▸ ⟨rfl, rfl⟩
  by_cases haside : request.isAside = true
  · rw [ask_of_isAside w haside]
    exact h.still hfree (Depot.still_run haside w.storage w.depot w.journal) rfl rfl
  · cases request with
    | source path => exact h.intern hidle path _
    | program path stage defines =>
      simp only [Workshop.ask]
      split
      · exact h
      · exact h.intern hidle _ _
    | notify path =>
      rw [ask_notify]
      have hpending : ∀ told ∈ w.depot.changes.pending,
          told ∈ (w.depot.changes.notify path).2.pending :=
        fun told hp => (ChangeQueue.mem_pending_notify hs.listens).mpr (.inl hp)
      generalize w.depot.changes.notify path = notified at hpending
      exact h.heeds rfl (fun _ => .inl rfl) fun _ => .of_free hfree (fun _ hk => hk) hpending rfl
    | update =>
      simp only [Workshop.ask]
      split
      · exact h
      · exact h.still hfree ⟨rfl, rfl⟩ rfl rfl
    | _ => exact absurd rfl haside

/-! ## A step of the owner -/

theorem Attended.receive (h : w.Attended) {got : List String} (hwork : w.work = .draining got) :
    (w.receive got).Attended := by
  have htaken : w.work.taken = got := by rw [hwork, Work.taken]
  have hgap : w.work.gap? = none := by rw [hwork, Work.gap?]
  simp only [Workshop.receive]
  split
  · next path changes hreceive =>
    have hpending : w.depot.changes.pending = path :: changes.pending := by
      cases hc : w.depot.changes with
      | «open» paths =>
        rw [hc] at hreceive
        cases paths <;> cases hreceive
        rfl
      | closed =>
        rw [hc] at hreceive
        cases hreceive
    refine h.heeds rfl (fun _ => .inl rfl) fun _ => .of_gap hgap (fun _ hk => hk) ?_ ?_ rfl
    · -- The oldest path goes over to the owner.
      intro path' hp
      rw [hpending] at hp
      rcases List.mem_cons.mp hp with rfl | hp
      · exact .inr (List.mem_append_right _ (List.mem_singleton_self _))
      · exact .inl hp
    · rw [htaken]
      exact fun _ hp _ => .inl (List.mem_append_left _ hp)
  · refine h.heeds rfl (fun _ => .inl rfl) fun _ =>
      .of_gap hgap (fun _ hk => hk) (fun _ => .inl) ?_ rfl
    rw [htaken]
    exact fun _ hp _ => .inl (ChangeQueue.mem_distinct.mpr hp)

theorem Attended.read (h : w.Attended) {errand : Errand} {id : FileId} {agenda : List Task}
    (hwork : w.work = .loading errand (some id) agenda) : (w.read errand id agenda).Attended := by
  have htaken : w.work.taken = (w.read errand id agenda).work.taken := by
    rw [hwork]
    cases errand <;> rfl
  have hgap : w.work.gap? = some id := by rw [hwork, Work.gap?]
  intro a hstale
  have hbody : (w.read errand id agenda).depot.graph.body? a = _ :=
    body?_readFile w.storage w.depot.graph id a
  by_cases ha : a = id
  · -- The file that was read says what the storage gives.
    obtain ⟨f, hf, hne⟩ := stale_iff.mp hstale
    rw [hbody, if_pos ha] at hf
    obtain ⟨f', -, rfl⟩ := Option.map_eq_some_iff.mp hf
    rw [SourceFile.lastRead_ofRead, SourceFile.path_ofRead] at hne
    exact absurd rfl hne
  · have hstale' : w.Stale a := hstale.congr rfl (hbody.trans (if_neg ha))
    refine (h a hstale').heeds ⟨fun key hk => ?_, fun _ => .inl, ?_, ?_, fun _ hp => hp⟩
    · exact (lookup?_readFile w.storage w.depot.graph id key).trans hk
    · rw [htaken]
      exact fun _ hp _ => .inl hp
    · rw [hgap]
      exact fun e => absurd (Option.some.inj e).symm ha

theorem Attended.place (h : w.Attended) {errand : Errand} {task : Task} {agenda : List Task}
    (hwork : w.work = .loading errand none (task :: agenda)) :
    (w.place errand task agenda).Attended := by
  have htaken : w.work.taken = (w.place errand task agenda).work.taken := by
    rw [hwork]
    cases errand <;> rfl
  have hgap : w.work.gap? = none := by rw [hwork, Work.gap?]
  refine h.heeds rfl (body?_place w.depot.graph task) fun id =>
    .of_gap hgap (fun _ => lookup?_place task) (fun _ => .inl) ?_ rfl
  rw [htaken]
  exact fun _ hp _ => .inl hp

theorem Attended.resume (h : w.Attended) {errand : Errand}
    (hwork : w.work = .loading errand none []) : (w.resume errand).Attended := by
  cases errand with
  | source =>
    have hfree : w.work.Free := hwork ▸ ⟨rfl, rfl⟩
    exact h.still hfree ⟨rfl, rfl⟩ rfl rfl
  | program key entry =>
    have hfree : w.work.Free := hwork ▸ ⟨rfl, rfl⟩
    have hstill := Depot.still_compile (w.depot.addProgram key entry) ⟨w.depot.programs.size⟩ w.journal
    exact h.still hfree ⟨hstill.graph, hstill.changes⟩ rfl rfl
  | update todo seeds =>
    cases todo with
    | nil =>
      have hfree : w.work.Free := hwork ▸ ⟨rfl, rfl⟩
      simp only [Workshop.resume]
      split
      · exact h.still hfree ⟨rfl, rfl⟩ rfl rfl
      · exact h.still hfree ⟨rfl, rfl⟩ rfl rfl
    | cons path todo =>
      have htaken : w.work.taken = path :: todo := by rw [hwork, Work.taken]
      have hgap : w.work.gap? = none := by rw [hwork, Work.gap?]
      simp only [Workshop.resume]
      split
      · next a hfind =>
        refine h.heeds rfl (fun id => .inl (body?_dropEdges ..)) fun id =>
          .of_gap hgap (fun key hk => (lookup?_dropEdges ..).trans hk) (fun _ => .inl) ?_ rfl
        rw [htaken]
        intro path' hp hfind'
        rcases List.mem_cons.mp hp with rfl | hp
        · -- The path leads to the file that is read next.
          exact .inr (hfind.symm.trans hfind')
        · exact .inl hp
      · next hnone =>
        refine h.heeds rfl (fun _ => .inl rfl) fun id =>
          .of_gap hgap (fun _ hk => hk) (fun _ => .inl) ?_ rfl
        rw [htaken]
        intro path' hp hfind'
        rcases List.mem_cons.mp hp with rfl | hp
        · -- A path that leads to no file stands for none.
          rw [hnone] at hfind'
          cases hfind'
        · exact .inl hp

theorem Attended.recompile (h : w.Attended) {id : ProgramId} {ids : List ProgramId}
    (hwork : w.work = .compiling (id :: ids)) : (w.recompile id ids).Attended := by
  have hfree : w.work.Free := hwork ▸ ⟨rfl, rfl⟩
  exact h.still hfree (Depot.still_recompile w.depot id w.journal) rfl rfl

theorem Attended.advance (h : w.Attended) : w.advance.Attended := by
  unfold Workshop.advance
  split
  · exact h
  · next hwork => exact h.receive hwork
  · next hwork => exact h.read hwork
  · next hwork => exact h.place hwork
  · next hwork => exact h.resume hwork
  · next hwork => exact h.recompile hwork
  · next hwork =>
    have hfree : w.work.Free := hwork ▸ ⟨rfl, rfl⟩
    exact h.still hfree ⟨rfl, rfl⟩ rfl rfl

/-- In every reachable state each file that says something else than the storage is stood for. -/
theorem Reachable.attended (hw : Reachable w) : w.Attended := by
  induction hw with
  | start settings storage style =>
    rintro id ⟨f, hf, -⟩
    cases hf
  | write storage path hdiffers hw ih => exact ih.write hw.sound hdiffers
  | notify path hw ih => exact ih.notify hw.sound path
  | obstruct obstacles _ ih =>
    exact ih.heeds rfl (fun _ => .inl rfl) fun _ =>
      ⟨fun _ hk => hk, fun _ => .inl, fun _ hp _ => .inl hp, fun e => e, fun _ hp => hp⟩
  | ask request hidle hw ih => exact ih.ask hw.sound hidle request
  | advance _ ih => exact ih.advance

end Workshop

end ShaderDepot
