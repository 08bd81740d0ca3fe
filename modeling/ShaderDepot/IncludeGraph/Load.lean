import ShaderDepot.IncludeGraph

/-!
# Loading files into the graph

A file is read when it first gets a place, and its includes are followed at once, each before the next.
What is still to do stands on an agenda whose first task is done first and puts its own tasks in front.
The agenda runs empty (`settle`): a file that gets a place is one that some text of the storage
includes, and there are only so many of those.
-/

namespace ShaderDepot

namespace Storage

/-- The keys that some text of the storage includes. -/
def includeKeys (s : Storage) : List String :=
  s.texts.flatMap fun text => (ScannedText.ofSource text).includes.map Path.normalize

/-- Asks for what stands under a path. -/
def fetch (s : Storage) (path : String) : Traced (Except ReadError String) :=
  ⟨s.read path, [.read path]⟩

end Storage

namespace IncludeGraph

inductive Task
  /-- Follow an include to a key. -/
  | follow (includer : FileId) (key : String)
  /-- Every include of a file has been followed. -/
  | finish (file : FileId)
  deriving DecidableEq, Repr

def loadedRecord (path : String) (includes : Nat) : LogRecord :=
  ⟨.trace, .graph, s!"Parsed shader source {path} ({includes} includes)"⟩

def versionFaults (path : String) (scanned : ScannedText) : List Diagnostic :=
  (if 1 < scanned.versionCount then [.repeatedVersion path] else [])
    ++ if scanned.version = none then [.missingVersion path] else []

/-- Takes in what a file says, but for its includes, which are left to do. -/
def takeIn (g : IncludeGraph) (id : FileId) :
    Except ReadError String → Traced (IncludeGraph × List Task)
  | .error cause =>
    ⟨(g.update id (·.emptied cause g.defaultVersion), []),
      [.diagnostic (.unreadable (g.pathOf id) cause)]⟩
  | .ok text =>
    let scanned := ScannedText.ofSource text
    ⟨(g.update id (·.filled text scanned g.defaultVersion),
        (scanned.includes.map fun p => .follow id (Path.normalize p)) ++ [.finish id]),
      (versionFaults (g.pathOf id) scanned).map .diagnostic⟩

def readFile (s : Storage) (g : IncludeGraph) (id : FileId) : Traced (IncludeGraph × List Task) := do
  g.takeIn id (← s.fetch (g.pathOf id))

/-- Does one task.  At most one file is read. -/
def perform (s : Storage) (g : IncludeGraph) : Task → Traced (IncludeGraph × List Task)
  | .finish id => ⟨(g, []), [.log (loadedRecord (g.pathOf id) (g.dependencies id).length)]⟩
  | .follow includer key =>
    match g.lookup? key with
    | some id => ⟨(g.addEdge includer id, []), []⟩
    -- The file has its place before it is read, so an include that leads back to it finds it.
    | none => readFile s ((g.push key).addEdge includer ⟨g.size⟩) ⟨g.size⟩

/-- The keys that texts of the storage include and that have no place yet. -/
def missing (s : Storage) (g : IncludeGraph) : Nat :=
  s.includeKeys.countP fun key => (g.lookup? key).isNone

/-- Every include on an agenda is one that a text of the storage makes. -/
def Grounded (s : Storage) (tasks : List Task) : Prop :=
  ∀ includer key, Task.follow includer key ∈ tasks → key ∈ s.includeKeys

theorem value_readFile (s : Storage) (g : IncludeGraph) (id : FileId) :
    (readFile s g id).value = (g.takeIn id (s.read (g.pathOf id))).value := rfl

theorem events_readFile (s : Storage) (g : IncludeGraph) (id : FileId) :
    (readFile s g id).events =
      .read (g.pathOf id) :: (g.takeIn id (s.read (g.pathOf id))).events := rfl

@[simp] theorem lookup?_readFile (s : Storage) (g : IncludeGraph) (id : FileId) (key : String) :
    (readFile s g id).value.1.lookup? key = g.lookup? key := by
  rw [value_readFile]
  cases s.read (g.pathOf id) <;> rfl

theorem grounded_readFile (s : Storage) (g : IncludeGraph) (id : FileId) :
    Grounded s (readFile s g id).value.2 := by
  intro includer key h
  rw [value_readFile] at h
  cases hr : s.read (g.pathOf id) with
  | error cause =>
    rw [hr] at h
    cases h
  | ok text =>
    simp only [hr, takeIn, List.mem_append, List.mem_map, Task.follow.injEq, List.mem_singleton,
      reduceCtorEq, or_false] at h
    obtain ⟨p, hp, -, rfl⟩ := h
    exact List.mem_flatMap.2 ⟨text, Storage.mem_texts_of_read hr, List.mem_map.2 ⟨p, hp, rfl⟩⟩

theorem Grounded.append {s : Storage} {ts us : List Task} (ht : Grounded s ts)
    (hu : Grounded s us) : Grounded s (ts ++ us) :=
  fun i k h => (List.mem_append.1 h).elim (ht i k) (hu i k)

theorem Grounded.tail {s : Storage} {t : Task} {ts : List Task} (h : Grounded s (t :: ts)) :
    Grounded s ts :=
  fun i k hk => h i k (List.mem_cons_of_mem _ hk)

theorem grounded_perform (s : Storage) (g : IncludeGraph) (t : Task) :
    Grounded s (perform s g t).value.2 := by
  cases t with
  | finish id => exact fun _ _ h => nomatch h
  | follow includer key =>
    simp only [perform]
    split
    · exact fun _ _ h => nomatch h
    · exact grounded_readFile _ _ _

/-- A task either gives a missing key its place or leaves no tasks. -/
theorem perform_progress (s : Storage) (g : IncludeGraph) (t : Task) (ts : List Task)
    (h : Grounded s (t :: ts)) :
    missing s (perform s g t).value.1 < missing s g ∨
      missing s (perform s g t).value.1 = missing s g ∧ (perform s g t).value.2 = [] := by
  cases t with
  | finish id => exact .inr ⟨rfl, rfl⟩
  | follow includer key =>
    simp only [perform]
    split
    · exact .inr ⟨by simp [missing], rfl⟩
    · -- The key was missing, and now it has its place.
      rename_i hn
      left
      simp only [missing, lookup?_readFile, lookup?_addEdge, lookup?_push]
      refine countP_lt_countP ?_ (h _ _ (List.mem_cons_self ..)) (by simp [hn]) (by simp)
      intro k _ hk
      split at hk
      · cases hk
      · exact hk

/-- A file leaves no more tasks than there are includes in the storage, and one to finish. -/
theorem length_readFile_le (s : Storage) (g : IncludeGraph) (id : FileId) :
    (readFile s g id).value.2.length ≤ s.includeKeys.length + 1 := by
  rw [value_readFile]
  cases hr : s.read (g.pathOf id) with
  | error cause => exact Nat.zero_le _
  | ok text =>
    have hmem := List.mem_map_of_mem (Storage.mem_texts_of_read hr)
      (f := fun text => (ScannedText.ofSource text).includes.map Path.normalize)
    have hlen : _ ≤ s.includeKeys.length := (List.sublist_flatten_of_mem hmem).length_le
    simp only [takeIn, List.length_append, List.length_map, List.length_singleton] at hlen ⊢
    omega

theorem length_perform_le (s : Storage) (g : IncludeGraph) (t : Task) :
    (perform s g t).value.2.length ≤ s.includeKeys.length + 1 := by
  cases t with
  | finish id => exact Nat.zero_le _
  | follow includer key =>
    simp only [perform]
    split
    · exact Nat.zero_le _
    · exact length_readFile_le ..

/-- A bound on what is left to do: a key without a place may put the includes of a file on the
agenda. -/
def workload (s : Storage) (g : IncludeGraph) (tasks : List Task) : Nat :=
  missing s g * (s.includeKeys.length + 2) + tasks.length

theorem workload_perform_lt (s : Storage) (g : IncludeGraph) (t : Task) (ts : List Task)
    (h : Grounded s (t :: ts)) :
    workload s (perform s g t).value.1 ((perform s g t).value.2 ++ ts) < workload s g (t :: ts) := by
  have hlen := length_perform_le s g t
  simp only [workload, List.length_append, List.length_cons]
  rcases perform_progress s g t ts h with hlt | ⟨heq, hnil⟩
  · -- What the new tasks weigh is no more than what the key weighed.
    have hmul := Nat.mul_le_mul_right (s.includeKeys.length + 2) (Nat.succ_le_of_lt hlt)
    rw [Nat.succ_mul] at hmul
    omega
  · rw [heq, hnil, List.length_nil]
    omega

def settle (s : Storage) (g : IncludeGraph) (tasks : List Task) (h : Grounded s tasks) :
    Traced IncludeGraph :=
  match tasks with
  | [] => pure g
  | t :: rest =>
    (settle s (perform s g t).value.1 ((perform s g t).value.2 ++ rest)
      ((grounded_perform s g t).append h.tail)).after (perform s g t).events
termination_by workload s g tasks
decreasing_by exact workload_perform_lt s g t rest h

def load (s : Storage) (g : IncludeGraph) (id : FileId) : Traced IncludeGraph :=
  (settle s (readFile s g id).value.1 (readFile s g id).value.2 (grounded_readFile s g id)).after
    (readFile s g id).events

/-- The place of the file that a path names; it is loaded when it is first asked for. -/
def intern (s : Storage) (g : IncludeGraph) (path : String) : Traced (FileId × IncludeGraph) :=
  match g.find? path with
  | some id => pure (id, g)
  | none => do
    let g' ← load s (g.push (Path.normalize path)) ⟨g.size⟩
    return (⟨g.size⟩, g')

def reload (s : Storage) (g : IncludeGraph) (id : FileId) : Traced IncludeGraph :=
  load s (g.dropEdges id) id

end IncludeGraph

end ShaderDepot
