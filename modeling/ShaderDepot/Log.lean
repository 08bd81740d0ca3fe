/-!
# Log records

What the library notes about its own work: a level, the part that notes it, and a message.
-/

namespace ShaderDepot

/-- How much a record matters, the weightiest first. -/
inductive LogLevel
  | error
  | warn
  | info
  | debug
  | trace
  deriving DecidableEq, Repr, Inhabited

namespace LogLevel

def name : LogLevel → String
  | error => "ERROR"
  | warn => "WARN"
  | info => "INFO"
  | debug => "DEBUG"
  | trace => "TRACE"

def verbosity : LogLevel → Nat
  | error => 1
  | warn => 2
  | info => 3
  | debug => 4
  | trace => 5

def all : List LogLevel := [error, warn, info, debug, trace]

/-- The level with a name, ASCII case apart. -/
def ofName? (name : String) : Option LogLevel :=
  let name := String.ofList (name.toList.map Char.toUpper)
  all.find? (·.name == name)

end LogLevel

/-- The part of the library that a record comes from. -/
inductive LogOrigin
  | diagnostics
  | settings
  | graph
  | watch
  /-- What waits for the system's word of changes. -/
  | poller
  | device
  | program
  | pipeline
  | depot
  | commandLine
  deriving DecidableEq, Repr, Inhabited

def LogOrigin.target : LogOrigin → String
  | diagnostics => "kiln::diagnostics"
  | settings => "kiln_core::settings"
  | graph => "kiln_graph::graph"
  | watch => "kiln_io::watcher"
  | poller => "mio::poll"
  | device => "kiln_infra::headless::device"
  | program => "kiln_shaders::program"
  | pipeline => "kiln_shaders::pipeline"
  | depot => "kiln_shaders::repository"
  | commandLine => "kiln_sandbox"

structure LogRecord where
  level : LogLevel
  origin : LogOrigin
  message : String
  deriving DecidableEq, Repr

end ShaderDepot
