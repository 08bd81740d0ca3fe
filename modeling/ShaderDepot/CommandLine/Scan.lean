/-!
# Scanning an argument list

Options stand between the words of an argument list.  An option with a value takes it from its own
argument, after `=`, or else the next argument is the value.  A value of the second sort is looked at
only when the next option or word is taken up, or at the end: an unknown option in between is the
fault that is told.
-/

namespace ShaderDepot.CommandLine

/-- Why an argument list is no request.  Options are given as they are shown. -/
inductive UsageError
  | unexpected (argument : String)
  | missingValue (option : String)
  | invalidValue (value option reason : String)
  | repeated (option : String)
  | unneededValue (value option : String)
  | missingFiles
  | missingCommand
  | unknownCommand (word : String)
  deriving DecidableEq, Repr

/-- What is told of a fault, cut where a terminal would change to another style. -/
def UsageError.parts : UsageError → List String
  | unexpected argument => ["unexpected argument '", argument, "' found"]
  | missingValue option => ["a value is required for '", option, "' but none was supplied"]
  | invalidValue value option reason =>
    ["invalid value '", value, "' for '", option, s!"': {reason}"]
  | repeated option => ["the argument '", option, "' cannot be used multiple times"]
  | unneededValue value option =>
    ["unexpected value '", value, "' for '", option, "' found; no more were expected"]
  | missingFiles => ["the following required arguments were not provided:"]
  | missingCommand => ["'", "kiln-sandbox", "' requires a subcommand but one was not provided"]
  | unknownCommand word => ["unrecognized subcommand '", word, "'"]

def UsageError.message (e : UsageError) : String := String.join e.parts

inductive Stop
  | fault (fault : UsageError)
  | version
  | help
  /-- There are no arguments. -/
  | nothing
  deriving DecidableEq, Repr

inductive ValueFault
  | missing
  | invalid (reason : String)
  deriving DecidableEq, Repr

inductive Effect (σ : Type)
  | flag (set : σ → σ)
  | value (placeholder : String) (repeats : Bool) (read : String → σ → Except ValueFault σ)
  | stop (stop : Stop)

structure Opt (σ : Type) where
  name : String
  letter : Option Char := none
  effect : Effect σ

variable {σ : Type}

def Opt.display (o : Opt σ) : String :=
  match o.effect with
  | .value placeholder .. => s!"--{o.name} <{placeholder}>"
  | _ => s!"--{o.name}"

structure Scan (σ : Type) where
  request : σ
  given : List String := []
  /-- An option that is still to be taken up, with its value if that has come. -/
  pending : Option (Opt σ × Option String) := none

namespace Scan

def accept (s : Scan σ) (o : Opt σ) (value : String) : Except Stop (Scan σ) :=
  match o.effect with
  | .value _ repeats read =>
    if !repeats && s.given.contains o.name then .error (.fault (.repeated o.display))
    else match read value s.request with
      | .ok request => .ok { s with request, given := o.name :: s.given }
      | .error .missing => .error (.fault (.missingValue o.display))
      | .error (.invalid reason) => .error (.fault (.invalidValue value o.display reason))
  | _ => .ok s

def settle (s : Scan σ) : Except Stop (Scan σ) :=
  match s.pending with
  | none => .ok s
  | some (o, none) => .error (.fault (.missingValue o.display))
  | some (o, some value) => { s with pending := none }.accept o value

/-- Meets an option, perhaps with a value in the same argument. -/
def meet (s : Scan σ) (o : Opt σ) (attached : Option String) : Except Stop (Scan σ) :=
  match o.effect, attached with
  | .value .., none => do return { ← s.settle with pending := some (o, none) }
  | .value .., some value => do (← s.settle).accept o value
  | _, some value => .error (.fault (.unneededValue value o.display))
  | .flag set, none => do
    let s ← s.settle
    if s.given.contains o.name then throw (.fault (.repeated o.display))
    return { s with request := set s.request, given := o.name :: s.given }
  | .stop stop, none => do
    -- A fault of the option before comes first.
    let _ ← s.settle
    throw stop

/-- Meets the options that letters stand for.  The rest after one with a value is its value. -/
def meetLetters (options : List (Opt σ)) (s : Scan σ) : List Char → Except Stop (Scan σ)
  | [] => .ok s
  | c :: rest =>
    match options.find? (·.letter == some c) with
    | none => .error (.fault (.unexpected (String.ofList ['-', c])))
    | some o =>
      match o.effect, rest with
      -- The value may be the next argument.
      | .value .., [] => s.meet o none
      | .value .., '=' :: value => s.meet o (some (String.ofList value))
      | .value .., value => s.meet o (some (String.ofList value))
      | _, rest => do (← s.meet o none).meetLetters options rest

def meetDashed (options : List (Opt σ)) (s : Scan σ) (argument : List Char) :
    Except Stop (Scan σ) :=
  match argument with
  | '-' :: '-' :: body =>
    let name := String.ofList (body.takeWhile (· ≠ '='))
    match options.find? (·.name == name) with
    | none => .error (.fault (.unexpected ("--" ++ name)))
    | some o => s.meet o ((body.dropWhile (· ≠ '=')).tail?.map String.ofList)
  | _ => s.meetLetters options argument.tail

/-- Whether an argument is for the options: it has more than its first dash. -/
def isDashed (argument : List Char) : Bool := argument.head? = some '-' && argument.length ≠ 1

/-- The scan after an argument that is the pending option's value, if one is awaited. -/
def supply? (s : Scan σ) (argument : String) : Option (Scan σ) :=
  match s.pending with
  | some (o, none) => some { s with pending := some (o, some argument) }
  | _ => none

/-- Scans to the end; each word is added to the request.  After `--` there are only words. -/
def toEnd (options : List (Opt σ)) (add : String → σ → σ) :
    Bool → List String → Scan σ → Except Stop (Scan σ)
  | _, [], s => s.settle
  | true, word :: rest, s => do
    let s ← s.settle
    toEnd options add true rest { s with request := add word s.request }
  | false, argument :: rest, s =>
    if argument = "--" then toEnd options add true rest s
    else if isDashed argument.toList then do
      toEnd options add false rest (← s.meetDashed options argument.toList)
    else if let some s := s.supply? argument then toEnd options add false rest s
    else do
      let s ← s.settle
      toEnd options add false rest { s with request := add argument s.request }

/-- Scans up to the first word, which must be one of the commands; what follows it is left. -/
def toCommand (options : List (Opt σ)) (commands : List String) :
    Bool → List String → Scan σ → Except Stop (String × List String × Scan σ)
  | _, [], s => do
    let s ← s.settle
    throw (if s.given.isEmpty then .nothing else .fault .missingCommand)
  | true, word :: _, _ =>
    .error (.fault (if commands.contains word then .unexpected word else .unknownCommand word))
  | false, argument :: rest, s =>
    if argument = "--" then toCommand options commands true rest s
    else if isDashed argument.toList then do
      toCommand options commands false rest (← s.meetDashed options argument.toList)
    else if let some s := s.supply? argument then toCommand options commands false rest s
    else if commands.contains argument then .ok (argument, rest, s)
    else .error (.fault (.unknownCommand argument))

end Scan

end ShaderDepot.CommandLine
