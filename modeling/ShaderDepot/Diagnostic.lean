import ShaderDepot.Log
import ShaderDepot.Stage
import ShaderDepot.Storage

/-!
# Diagnostics

What is reported to the author of the shaders: files that cannot be read, faulty directives, include
cycles, programs that do not compile.
-/

namespace ShaderDepot

/-- How serious a diagnostic is, the least serious first. -/
inductive Severity
  | logOnly
  | debug
  | notify
  | warning
  | performanceWarning
  | error
  deriving DecidableEq, Repr, Inhabited

namespace Severity

def rank : Severity → Nat
  | logOnly => 0
  | debug => 1
  | notify => 2
  | warning => 3
  | performanceWarning => 4
  | error => 5

instance : Ord Severity := ⟨fun a b => compare a.rank b.rank⟩

def display : Severity → String
  | logOnly => "log"
  | debug => "debug"
  | notify => "notify"
  | warning => "warning"
  | performanceWarning => "performance warning"
  | error => "error"

def logLevel : Severity → LogLevel
  | logOnly | debug => .debug
  | notify => .info
  | warning | performanceWarning => .warn
  | error => .error

end Severity

/-- Why a device makes no object. -/
inductive DeviceError
  | creationFailed (reason : String)
  | backend (reason : String)
  deriving DecidableEq, Repr

def DeviceError.message : DeviceError → String
  | .creationFailed reason => s!"Device object creation failed: {reason}"
  | .backend reason => s!"Backend-specific device error: {reason}"

inductive Diagnostic
  | unreadable (path : String) (cause : ReadError)
  | repeatedVersion (path : String)
  | missingVersion (path : String)
  | includeCycle (path : String)
  | creationFailed (stage : Stage) (path : String) (cause : DeviceError)
  /-- A program did not compile; the log names the lines of the author's files. -/
  | compileFailed (stage : Stage) (path : String) (log : String)
  /-- The numbered text of a program that did not compile. -/
  | listing (text : String)
  deriving DecidableEq, Repr

namespace Diagnostic

def severity : Diagnostic → Severity
  | unreadable .. | includeCycle _ | creationFailed .. | compileFailed .. => .error
  | repeatedVersion _ => .warning
  | missingVersion _ | listing _ => .debug

def message : Diagnostic → String
  | unreadable path cause => s!"Shader source {path} could not be read: {cause.message}"
  | repeatedVersion path => s!"Shader source {path} contains multiple #version statements!"
  | missingVersion path => s!"Shader source {path} contains no #version statement!"
  | includeCycle path => s!"Shader source file {path} contains cyclical dependency!"
  | creationFailed stage path cause =>
    s!"Error creating {stage.name} shader {path}: {cause.message}"
  | compileFailed stage path log => s!"Error compiling {stage.name} shader {path}\n{log}"
  | listing text => text

def record (d : Diagnostic) : LogRecord := ⟨d.severity.logLevel, .diagnostics, d.message⟩

end Diagnostic

end ShaderDepot
