import ShaderDepot.CommandLine.Run

/-!
# The program

The program runs a request on a copy of those parts of the disk that the request asks for.  Whatever a
run misses is fetched, and the run is done again, until nothing new is missing.
-/

namespace ShaderDepot.CommandLine

def missingLocations (events : List Event) : List String :=
  events.filterMap fun
    | .diagnostic (.unreadable _ (.notFound location)) => some location
    | _ => none

/-- Brings what lies at a location, if anything does, onto the copy. -/
def fetch (disk : Disk) (location : String) : IO Disk := do
  try
    let isFolder ← (← IO.FS.realPath location).isDir
    let found ← if isFolder then pure (disk.makeFolders location)
      else disk.place location <$> IO.FS.readBinFile location
    return found.toOption.getD disk
  catch _ => return disk

def emptyCopy : IO Disk := do
  let home := (← IO.currentDir).toString.toList.splitOn '/'
  return .empty (home.filter (· ≠ []))

def fetchAll (locations : List String) : IO Disk := do
  locations.foldlM fetch (← emptyCopy)

def maxRounds : Nat := 1000

/-- Starts a run with all that it asks for on the copy, and tells which locations these are. -/
def startFully (a : Arguments) : Nat → List String →
    IO (List String × Disk × Traced (Except Failure Session))
  | 0, known => do
    let disk ← fetchAll known
    return (known, disk, Session.start disk a)
  | rounds + 1, known => do
    let disk ← fetchAll known
    let started := Session.start disk a
    let missing := (missingLocations started.events).eraseDups.filter (!known.contains ·)
    if missing.isEmpty then return (known, disk, started)
    else startFully a rounds (known ++ missing)

def printMessages (messages : List String) : IO Unit := messages.forM IO.eprint

/-- The files that changed between two copies, by their paths below the folder of the sources. -/
def changedPaths (root : String) (known : List String) (before after : Disk) : List String :=
  (known.filter fun l => (before.read l).toOption ≠ (after.read l).toOption).filterMap fun l : String =>
    Watch.relativePath? [root] l

def lookAgain (f : LogFilter) (known : List String) (s : Session) : IO (List String × Session) := do
  let disk ← fetchAll known
  let changed := changedPaths s.workshop.root known s.workshop.disk disk
  let looked := s.look disk changed
  printMessages (shownEvents f looked.events)
  let missing := (missingLocations looked.events).eraseDups.filter (!known.contains ·)
  return (known ++ missing, looked.value)

def longestSleep : Nat := UInt32.size - 1

/-- Waits for a number of milliseconds, which may be more than one sleep takes. -/
def wait (pause : Nat) : IO Unit := do
  for _ in [0 : pause / longestSleep] do
    IO.sleep longestSleep.toUInt32
  IO.sleep (pause % longestSleep).toUInt32

def lookTimes (f : LogFilter) (pause : Nat) : Nat → List String → Session → IO Session
  | 0, _, s => return s
  | n + 1, known, s => do
    let (known, s) ← lookAgain f known s
    wait pause
    lookTimes f pause n known s

/-- Looks for changes until the program is ended from outside. -/
def lookForever (f : LogFilter) (pause : Nat) (known : List String) (s : Session) : IO Unit := do
  let mut state := (known, s)
  repeat
    state ← lookAgain f state.1 state.2
    wait pause

def keepWatch (f : LogFilter) (known : List String) (s : Session) : IO Session := do
  match s.arguments.command with
  | .watch pause passes =>
    if !s.isWatching then return s
    match passes with
    | some n => lookTimes f pause n known s
    | none =>
      lookForever f pause known s
      return s
  | _ => return s

/-- Brings the files that a run wrote back from the copy. -/
def writeBack (before after : Disk) : IO Unit :=
  (Disk.changedFiles before after).forM fun (place, bytes) => do
    let location := Watch.spell place
    if let some folder := Location.parent? location then IO.FS.createDirAll folder
    IO.FS.writeBinFile location bytes

def failWith (e : Failure) : IO UInt32 := do
  IO.eprint e.text
  return 1

def runArguments (f : LogFilter) (a : Arguments) : IO UInt32 := do
  let disk ← fetchAll [a.config]
  let roots := match (a.settings disk).value with
    | .ok (_, root) => [root]
    | .error _ => []
  let (known, disk, started) ← startFully a maxRounds (a.config :: roots)
  printMessages (shownEvents f started.events)
  match started.value with
  | .error e => failWith e
  | .ok s =>
    IO.print s.workshop.printed
    writeBack disk s.workshop.disk
    let s ← keepWatch f known s
    printMessages (shownEvents f s.finish.events)
    match s.result with
    | .ok () => return 0
    | .error e => failWith e

def runProgram (args : List String) : IO UInt32 := do
  let (f, warnings) := LogFilter.parse ((← IO.getEnv "RUST_LOG").getD defaultFilter)
  printMessages warnings
  match Arguments.parse args with
  | .ok a => runArguments f a
  | .error stop =>
    let outcome := stop.outcome (← emptyCopy)
    IO.print outcome.printed
    printMessages outcome.messages
    return outcome.code.toUInt32

end ShaderDepot.CommandLine

def main (args : List String) : IO UInt32 := ShaderDepot.CommandLine.runProgram args
