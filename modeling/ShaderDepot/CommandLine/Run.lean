import ShaderDepot.CommandLine.Arguments
import ShaderDepot.CommandLine.Console
import ShaderDepot.Depot

/-!
# Running a request

A request is run on a disk, with a new depot and a new device.  What it prints is collected, what it
notes is among the events, and what it writes is on the disk that it leaves.
-/

namespace ShaderDepot.CommandLine

structure Failure where
  message : String
  /-- What the system said, if that is why. -/
  cause : Option String := none
  deriving DecidableEq, Repr

def Failure.text (f : Failure) : String :=
  s!"Error: {f.message}" ++
    match f.cause with
    | some cause => s!"\n\nCaused by:\n    {cause}\n"
    | none => "\n"

def Failure.ofSettings : SettingsError → Failure
  | .unreadable location cause => ⟨(SettingsError.unreadable location cause).message, cause.message⟩
  | .malformed => ⟨SettingsError.malformed.message, none⟩

structure Workshop where
  disk : Disk
  /-- The folder of the sources. -/
  root : String
  depot : Depot
  printed : String := ""

def Workshop.storage (w : Workshop) : Storage := .folder w.disk w.root

/-- A step of a run.  One that fails leaves what was done before. -/
abbrev RunM := ExceptT Failure (StateT Workshop DeviceM)

def record (level : LogLevel) (message : String) : LogRecord := ⟨level, .commandLine, message⟩

namespace RunM

def onDevice {α : Type} (x : DeviceM α) : RunM α := liftM (m := StateT Workshop DeviceM) (liftM x)

def traced {α : Type} (x : Traced α) : RunM α := onDevice (DeviceM.ofTraced x)

def note (level : LogLevel) (message : String) : RunM Unit := traced (Traced.note (record level message))

def onDepot {α : Type} (f : Storage → Depot → DeviceM (α × Depot)) : RunM α := do
  let w ← get
  let (a, depot) ← onDevice (f w.storage w.depot)
  modify ({ · with depot })
  return a

def print (text : String) : RunM Unit := modify fun w => { w with printed := w.printed ++ text }

/-- Changes the disk; a fault is told with what was to be done. -/
def onDisk (change : Disk → Except IoFault Disk) (aim : String) : RunM Unit := do
  match change (← get).disk with
  | .ok disk => modify ({ · with disk })
  | .error cause => throw ⟨aim, some cause.message⟩

end RunM

open RunM

def loadPrograms (request : Request) : RunM (List ProgramId) :=
  request.files.mapM fun file => do
    match request.stage <|> Stage.ofPath? file with
    | none => throw ⟨s!"cannot guess the stage of '{file}', pass --stage", none⟩
    | some stage => onDepot fun s r => r.program s file stage request.defines

/-- Notes how each program fares, and counts those that are not valid. -/
def report (programs : List ProgramId) : RunM Nat := do
  let depot := (← get).depot
  let found := programs.filterMap depot.program?
  found.forM fun p =>
    if p.isValid then note .info s!"{p.key.display}: ok"
    else note .error s!"{p.key.display}: {p.build.name}"
  return found.countP (!·.isValid)

/-- Writes a file's resolved text to its place. -/
def writeResolved (file text : String) : RunM Unit := do
  let path := (← get).storage.resolvedLocation file
  if let some folder := Location.parent? path then
    onDisk (·.makeFolders folder) s!"failed to create '{folder}'"
  onDisk (·.write path text.toUTF8) s!"failed to write '{path}'"
  note .info s!"Wrote resolved text of {file} to {path}"

def resolve (request : Request) (numbered write : Bool) : RunM Unit := do
  let programs ← loadPrograms request
  (request.files.zip programs).forM fun (file, id) => do
    match ← traced ((← get).depot.resolve id) with
    | none => throw ⟨s!"program for '{file}' disappeared", none⟩
    | some unit =>
      print (if numbered then unit.listing else unit.text)
      if write then writeResolved file unit.text

def compile (request : Request) : RunM Unit := do
  let programs ← loadPrograms request
  let failed ← report programs
  if 0 < failed then
    throw ⟨s!"{failed} of {programs.length} programs failed to compile", none⟩

def startWatch (request : Request) : RunM Unit := do
  let programs ← loadPrograms request
  let _ ← report programs
  let w ← get
  if !w.depot.settings.watchForChanges then
    note .warn "watch_for_changes is disabled in the settings, nothing to do"
  else
    match ← onDepot fun _ r => DeviceM.ofTraced (r.watch w.disk w.root) with
    | .ok () => return ()
    | .error e => throw ⟨e.message, none⟩

def perform (a : Arguments) : RunM Unit :=
  match a.command with
  | .resolve numbered write => resolve a.request numbered write
  | .compile => compile a.request
  | .watch .. => startWatch a.request

structure Session where
  arguments : Arguments
  workshop : Workshop
  device : Device
  result : Except Failure Unit

namespace Session

def step (s : Session) (x : RunM Unit) : Traced Session := do
  let ((result, workshop), device) ← x.run s.workshop s.device
  return { s with result, workshop, device }

/-- Starts a run; a fault in the settings keeps it from starting. -/
def start (disk : Disk) (a : Arguments) : Traced (Except Failure Session) := do
  match ← a.settings disk with
  | .error e => return .error (.ofSettings e)
  | .ok (settings, root) =>
    Traced.note (record .debug s!"Shader root: {root}")
    let s : Session := {
      arguments := a
      workshop := { disk, root, depot := .create settings }
      device := .create .labeled
      result := .ok () }
    return .ok (← s.step (perform a))

/-- Whether the run goes on to look for changes. -/
def isWatching (s : Session) : Bool := s.result.isOk && s.workshop.depot.watched.isSome

/-- Looks at the disk again, of which some files below the root changed. -/
def look (s : Session) (disk : Disk) (changed : List String) : Traced Session := do
  let depot := changed.foldl (fun r path => (r.notify path).2) s.workshop.depot
  { s with workshop := { s.workshop with disk, depot } }.step do
    let recompiled ← onDepot fun storage r => r.update storage
    if 0 < recompiled then
      -- These programs are there already; they are only named again for the report.
      let programs ← loadPrograms s.arguments.request
      let _ ← report programs

/-- Ends a run: counts are noted and everything is given back. -/
def finish (s : Session) : Traced Unit := do
  Traced.note (record .info s.workshop.depot.stats.display)
  let _ ← s.workshop.depot.dispose s.device

end Session

structure Outcome where
  code : Nat
  printed : String
  /-- The texts on the console, in their order, with the ends of their lines. -/
  messages : List String
  disk : Disk

def about : String := "Resolve, compile and hot-reload GLSL shaders against a headless device"

def versionText : String := "kiln-sandbox 0.1.0\n"

/-- The texts of those events that a filter shows. -/
def shownEvents (f : LogFilter) (events : List Event) : List String :=
  ((events.filterMap (Event.record? true)).filter f.shows).map recordText

def Stop.outcome (disk : Disk) : Stop → Outcome
  | .fault e => ⟨2, "", [usageText e], disk⟩
  | .nothing => ⟨2, "", [about ++ "\n"], disk⟩
  | .version => ⟨0, versionText, [], disk⟩
  | .help => ⟨0, about ++ "\n", [], disk⟩

/-- Runs a request on a disk that nobody else changes: looking for changes finds none. -/
def runRequest (disk : Disk) (f : LogFilter) (a : Arguments) : Outcome :=
  let started := Session.start disk a
  match started.value with
  | .error e => ⟨1, "", shownEvents f started.events ++ [e.text], disk⟩
  | .ok s =>
    let shown := shownEvents f (started.events ++ s.finish.events)
    match s.result with
    | .ok () => ⟨0, s.workshop.printed, shown, s.workshop.disk⟩
    | .error e => ⟨1, s.workshop.printed, shown ++ [e.text], s.workshop.disk⟩

def defaultFilter : String := "info"

def run (disk : Disk) (filter : Option String) (args : List String) : Outcome :=
  let (f, warnings) := LogFilter.parse (filter.getD defaultFilter)
  let outcome := match Arguments.parse args with
    | .ok a => runRequest disk f a
    | .error stop => stop.outcome disk
  { outcome with messages := warnings ++ outcome.messages }

end ShaderDepot.CommandLine
