import ShaderDepot.Settings
import ShaderDepot.Toml.Document
import ShaderDepot.Traced

/-!
# Reading settings

Settings are read from a TOML document.  It names those that differ from the defaults; of other keys
nothing is asked.
-/

namespace ShaderDepot

inductive SettingsError
  | unreadable (location : String) (cause : IoFault)
  | malformed
  deriving DecidableEq, Repr

def SettingsError.message : SettingsError → String
  | .unreadable location cause => s!"failed to read settings file '{location}': {cause.message}"
  | .malformed => "failed to parse settings:"

namespace Settings

open Toml

/-- The text under a name, where there is one; a value of another type is a fault. -/
def text? (entries : Entries) (name : String) (default : String) : Option String :=
  match entries.lookup name.toList with
  | none => some default
  | some (.string text) => some (String.ofList text)
  | some _ => none

def flag? (entries : Entries) (name : String) (default : Bool) : Option Bool :=
  match entries.lookup name.toList with
  | none => some default
  | some (.boolean b) => some b
  | some _ => none

def ofEntries? (entries : Entries) : Option Settings := do
  let base : Settings := {}
  return {
    defaultVersion := ← text? entries "default_version" base.defaultVersion
    sharedHeader := ← text? entries "shared_header" base.sharedHeader
    watchForChanges := ← flag? entries "watch_for_changes" base.watchForChanges
    listOnError := ← flag? entries "dump_resolved_on_error" base.listOnError
    sourceRoot := ← text? entries "source_root" base.sourceRoot }

def parse (document : String) : Except SettingsError Settings :=
  match (Toml.parse document).bind ofEntries? with
  | some settings => .ok settings
  | none => .error .malformed

def absentRecord (location : String) : LogRecord :=
  ⟨.debug, .settings, s!"No settings file at '{location}', using defaults."⟩

/-- The settings of a file of a disk.  Where there is no file, they are the defaults. -/
def load (disk : Disk) (location : String) : Traced (Except SettingsError Settings) :=
  if disk.exists? location then
    pure (match disk.readText location with
      | .ok document => parse document
      | .error cause => .error (.unreadable location cause))
  else do
    Traced.note (absentRecord location)
    return .ok {}

end Settings

end ShaderDepot
