import ShaderDepot.CommandLine.Scan
import ShaderDepot.Define
import ShaderDepot.Settings.Reading
import ShaderDepot.Text.Numeral

/-!
# The arguments of the command line

A request names files with a stage and definitions, and says what to do with them.
-/

namespace ShaderDepot.CommandLine

structure Request where
  /-- The entry files, seen from the folder of the sources. -/
  files : List String := []
  /-- The stage of all of them; without it each file's name decides. -/
  stage : Option Stage := none
  defines : List Define := []
  deriving DecidableEq, Repr, Inhabited

inductive Command
  /-- Print their texts, with numbered lines or without, and perhaps write them too. -/
  | resolve (numbered write : Bool)
  | compile
  /-- Compile, then look for changes, so many times if it is said, with a pause in milliseconds. -/
  | watch (pause : Nat) (passes : Option Nat)
  deriving DecidableEq, Repr

structure Arguments where
  config : String
  /-- The folder of the sources, in the place of the one in the settings. -/
  root : Option String
  defaultVersion : Option String
  listOnError : Bool
  command : Command
  request : Request
  deriving DecidableEq, Repr

/-! ## Options -/

structure Frame where
  config : String := "Shaders.toml"
  root : Option String := none
  defaultVersion : Option String := none
  listOnError : Bool := false

structure Detail where
  request : Request := {}
  numbered : Bool := false
  write : Bool := false
  pause : Nat := 100
  passes : Option Nat := none

def helpOption {σ : Type} : Opt σ := ⟨"help", some 'h', .stop .help⟩

/-- The value of an option that is a location. -/
def readLocation {σ : Type} (set : σ → String → σ) (text : String) (s : σ) :
    Except ValueFault σ :=
  if text.isEmpty then .error .missing else .ok (set s text)

/-- Counts of milliseconds and passes are below this bound. -/
def countBound : Nat := Nat.pow 2 64

def readCount {σ : Type} (set : σ → Nat → σ) (text : String) (s : σ) : Except ValueFault σ :=
  match Text.readNumeral countBound text.toList with
  | .ok n => .ok (set s n)
  | .error e => .error (.invalid e.message)

def readStage (text : String) (s : Detail) : Except ValueFault Detail :=
  match Stage.parse text with
  | .ok stage => .ok { s with request := { s.request with stage := some stage } }
  | .error e => .error (.invalid e.message)

def readDefine (text : String) (s : Detail) : Except ValueFault Detail :=
  match Define.parse text with
  | .ok d => .ok { s with request := { s.request with defines := s.request.defines ++ [d] } }
  | .error e => .error (.invalid e.message)

def frameOptions : List (Opt Frame) := [
  ⟨"config", none, .value "CONFIG" false (readLocation fun s text => { s with config := text })⟩,
  ⟨"root", none, .value "ROOT" false (readLocation fun s text => { s with root := some text })⟩,
  ⟨"default-version", none,
    .value "DEFAULT_VERSION" false fun text s => .ok { s with defaultVersion := some text }⟩,
  ⟨"dump-resolved", none, .flag fun s => { s with listOnError := true }⟩,
  helpOption,
  ⟨"version", some 'V', .stop .version⟩]

def requestOptions : List (Opt Detail) := [
  ⟨"stage", none, .value "STAGE" false readStage⟩,
  ⟨"define", some 'D', .value "DEFINES" true readDefine⟩,
  helpOption]

def addFile (file : String) (s : Detail) : Detail :=
  { s with request := { s.request with files := s.request.files ++ [file] } }

inductive Verb
  | resolve
  | compile
  | watch
  deriving DecidableEq, Repr

namespace Verb

def all : List Verb := [resolve, compile, watch]

def name : Verb → String
  | resolve => "resolve"
  | compile => "compile"
  | watch => "watch"

def ofName? (name : String) : Option Verb := all.find? (·.name == name)

def options : Verb → List (Opt Detail)
  | resolve => requestOptions ++ [
      ⟨"numbered", none, .flag fun s => { s with numbered := true }⟩,
      ⟨"write", none, .flag fun s => { s with write := true }⟩]
  | compile => requestOptions
  | watch => requestOptions ++ [
      ⟨"poll-ms", none, .value "POLL_MS" false (readCount fun s n => { s with pause := n })⟩,
      ⟨"iterations", none,
        .value "ITERATIONS" false (readCount fun s n => { s with passes := some n })⟩]

def command (v : Verb) (s : Detail) : Command :=
  match v with
  | resolve => .resolve s.numbered s.write
  | compile => .compile
  | watch => .watch s.pause s.passes

/-- Reads what stands after the command; at least one file has to be named. -/
def readDetail (v : Verb) (args : List String) : Except Stop Detail := do
  let s ← Scan.toEnd v.options addFile false args { request := {} }
  if s.request.request.files.isEmpty then throw (.fault .missingFiles)
  return s.request

end Verb

/-- The words that can stand for a command; one asks for help. -/
def commandWords : List String := Verb.all.map Verb.name ++ ["help"]

/-- What asking for help with some words ends in: help for a command that they name, and no more
words than that. -/
def helpStop : List String → Stop
  | [] => .help
  | word :: more =>
    if commandWords.contains word then
      match more with
      | [] => .help
      | next :: _ => .fault (.unknownCommand next)
    else .fault (.unknownCommand word)

/-- Reads an argument list.  An option left pending before the command is taken up last. -/
def Arguments.parse (args : List String) : Except Stop Arguments := do
  let (word, rest, frame) ← Scan.toCommand frameOptions commandWords false args { request := {} }
  match Verb.ofName? word with
  | none => throw (helpStop rest)
  | some v =>
    let detail ← v.readDetail rest
    let { config, root, defaultVersion, listOnError } := (← frame.settle).request
    return ⟨config, root, defaultVersion, listOnError, v.command detail, detail.request⟩

/-! ## Settings -/

/-- The settings of the file, with what the arguments say in its place, and the folder of the sources.
That is seen from the settings file, unless the arguments name it. -/
def Arguments.settings (a : Arguments) (disk : Disk) :
    Traced (Except SettingsError (Settings × String)) := do
  match ← Settings.load disk a.config with
  | .error e => return .error e
  | .ok settings =>
    let settings := { settings with
      defaultVersion := a.defaultVersion.getD settings.defaultVersion
      listOnError := a.listOnError || settings.listOnError }
    match a.root with
    | some root => return .ok ({ settings with sourceRoot := root }, root)
    | none =>
      let folder := (Location.parent? a.config).getD ""
      return .ok (settings, Location.join folder settings.sourceRoot)

end ShaderDepot.CommandLine
