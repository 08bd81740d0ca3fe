import ShaderDepot.Proofs.IncludeGraph.Loading
import ShaderDepot.Proofs.Session

/-!
# A depot at work

In a session a request is one step.  In a workshop it takes as many as the owner of the depot takes for it: a
path received from the queue, a file read, a program compiled.  Between any two of these steps others may
write and remove files and tell the queue of them, each in its own time.
-/

namespace ShaderDepot

namespace ChangeQueue

/-- Takes the oldest path out of the queue, if there is one. -/
def receive : ChangeQueue → Option (String × ChangeQueue)
  | .open (path :: paths) => some (path, .open paths)
  | .open [] | closed => none

/-- Told of the path, a queue holds one by which the file of the key is found.  Of the empty path no queue
is told. -/
def Leads (path key : String) : Prop :=
  ∃ told ∈ (empty.notify path).2.pending, Path.normalize told = key

end ChangeQueue

/-- Of the files that a graph may know, the path leads to each that has another text in `s'`, or has a
text in only one of the storages. -/
def Storage.DiffersAt (s : Storage) (path : String) (s' : Storage) : Prop :=
  ∀ name, (s'.read (Path.normalize name)).toOption ≠ (s.read (Path.normalize name)).toOption →
    ChangeQueue.Leads path (Path.normalize name)

/-- What files are loaded for. -/
inductive Errand
  | source
  | program (key : ProgramKey) (entry : FileId)
  /-- The files `seeds` were read again; the paths `todo` are still to be looked up. -/
  | update (todo : List String) (seeds : List FileId)
  deriving DecidableEq, Repr

/-- What the owner of the depot is about. -/
inductive Work
  | idle
  /-- The queue is drained; these paths were received, the latest one last. -/
  | draining (got : List String)
  /-- Files are loaded.  The file `gap`, if there is one, is read next. -/
  | loading (errand : Errand) (gap : Option FileId) (agenda : List IncludeGraph.Task)
  | compiling (ids : List ProgramId)
  deriving DecidableEq, Repr

structure Workshop extends Session where
  work : Work := .idle
  /-- The paths of files that were written or removed and not told of since. -/
  owed : List String := []

namespace Workshop

open IncludeGraph

def start (settings : Settings) (storage : Storage) (style : LogStyle) : Workshop :=
  { Session.start settings storage style with }

/-! ## The others -/

/-- Someone writes or removes the file of a path, and owes a notice of it. -/
def write (w : Workshop) (storage : Storage) (path : String) : Workshop :=
  { w with storage, owed := w.owed ++ [path] }

/-- Someone tells of a path, and so of all that was written to it before. -/
def notify (w : Workshop) (path : String) : Workshop :=
  { w with depot := (w.depot.notify path).2, owed := w.owed.filter (· ≠ path) }

/-! ## The owner of the depot -/

/-- The depot has another graph, and its owner goes on with other work. -/
def proceed (w : Workshop) (graph : IncludeGraph) (work : Work) : Workshop :=
  { w with depot := { w.depot with graph }, work }

/-- Looks up a file that is asked for; it is loaded if it has no place. -/
def intern (w : Workshop) (path : String) (errand : FileId → Errand) : Workshop :=
  let g := w.depot.graph
  match g.find? path with
  | some id => w.proceed g (.loading (errand id) none [])
  | none =>
    w.proceed (g.push (Path.normalize path)) (.loading (errand ⟨g.size⟩) (some ⟨g.size⟩) [])

/-- The idle owner sets about a request.  One that reads no files is done at once. -/
def ask (w : Workshop) : Request → Workshop
  | .source path => w.intern path fun _ => .source
  | .program path stage defines =>
    let key := Depot.keyOf path stage defines
    match w.depot.findKey? key with
    | some _ => w
    | none => w.intern key.path (.program key)
  | .update => if w.depot.changes.isEmpty then w else { w with work := .draining [] }
  | request => { w with toSession := w.toSession.step (.ask request) }

/-- Receives a path, or finds that there is none left. -/
def receive (w : Workshop) (got : List String) : Workshop :=
  match w.depot.changes.receive with
  | some (path, changes) =>
    { w with depot := { w.depot with changes }, work := .draining (got ++ [path]) }
  | none => { w with work := .loading (.update (ChangeQueue.distinct got) []) none [] }

def read (w : Workshop) (errand : Errand) (id : FileId) (agenda : List Task) : Workshop :=
  let (graph, tasks) := (readFile w.storage w.depot.graph id).value
  w.proceed graph (.loading errand none (tasks ++ agenda))

def place (w : Workshop) (errand : Errand) (task : Task) (agenda : List Task) : Workshop :=
  let (graph, gap) := w.depot.graph.place task
  w.proceed graph (.loading errand gap agenda)

/-- Goes on with an errand when there is nothing left to load. -/
def resume (w : Workshop) : Errand → Workshop
  | .source => { w with work := .idle }
  | .program key entry =>
    let (depot, journal) :=
      ((w.depot.addProgram key entry).compile ⟨w.depot.programs.size⟩).play w.journal
    { w with depot, journal, work := .idle }
  | .update (path :: todo) seeds =>
    let g := w.depot.graph
    match g.find? path with
    | some id => w.proceed (g.dropEdges id) (.loading (.update todo (seeds ++ [id])) (some id) [])
    | none => { w with work := .loading (.update todo seeds) none [] }
  | .update [] seeds =>
    if seeds.isEmpty then { w with work := .idle }
    else { w with work := .compiling (w.depot.programsFrom (w.depot.graph.includersClosure seeds)) }

def recompile (w : Workshop) (id : ProgramId) (ids : List ProgramId) : Workshop :=
  let (depot, journal) := (w.depot.recompile id).play w.journal
  { w with depot, journal, work := .compiling ids }

/-- The next step of the owner, if there is one. -/
def advance (w : Workshop) : Workshop :=
  match w.work with
  | .idle => w
  | .draining got => w.receive got
  | .loading errand (some id) agenda => w.read errand id agenda
  | .loading errand none (task :: agenda) => w.place errand task agenda
  | .loading errand none [] => w.resume errand
  | .compiling (id :: ids) => w.recompile id ids
  | .compiling [] => { w with work := .idle }

/-! ## What may happen -/

/-- The states of a workshop, whatever its owner and the others do and in whatever order. -/
inductive Reachable : Workshop → Prop
  | start (settings : Settings) (storage : Storage) (style : LogStyle) :
    Reachable (.start settings storage style)
  | write {w : Workshop} (storage : Storage) (path : String) :
    w.storage.DiffersAt path storage → Reachable w → Reachable (w.write storage path)
  | notify {w : Workshop} (path : String) : Reachable w → Reachable (w.notify path)
  | obstruct {w : Workshop} (obstacles : Session.Obstacles) : Reachable w →
    Reachable { w with toSession := w.toSession.step (.obstruct obstacles) }
  | ask {w : Workshop} (request : Request) : w.work = .idle → Reachable w → Reachable (w.ask request)
  | advance {w : Workshop} : Reachable w → Reachable w.advance

end Workshop

end ShaderDepot
