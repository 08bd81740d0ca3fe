import ShaderDepot.CommandLine.Scan
import ShaderDepot.Log
import ShaderDepot.Pattern
import ShaderDepot.Text.Blank
import ShaderDepot.Text.Terminal

/-!
# The log on the console

A filter says which records are shown: it has rules for parts of the program by the beginning of their
names, and the longest name that fits a record decides.  A shown record has its level and part in
front, and its further lines are indented.  The console is no terminal: what a terminal would take as
orders is left out of records and of usage errors.
-/

namespace ShaderDepot.CommandLine

/-- Records of the parts whose names start so are shown up to a verbosity. -/
structure FilterRule where
  /-- Without a beginning the rule fits every part. -/
  target : Option String
  limit : Nat
  deriving DecidableEq, Repr

structure LogFilter where
  rules : List FilterRule
  /-- What the messages of shown records hold. -/
  pattern : Option Pattern := none
  deriving DecidableEq, Repr

namespace LogFilter

def limit? (name : String) : Option Nat :=
  if String.ofList (name.toList.map Char.toUpper) = "OFF" then some 0
  else (LogLevel.ofName? name).map LogLevel.verbosity

def unlimited : Nat := LogLevel.trace.verbosity

def readRule (spec : String) : Except String FilterRule :=
  match spec.toList.splitOn '=' with
  | [word] =>
    let word := String.ofList word
    match limit? word with
    | some limit => .ok ⟨none, limit⟩
    | none => .ok ⟨some word, unlimited⟩
  | [name, word] =>
    let word := String.ofList (Text.trim word)
    if word.isEmpty then .ok ⟨some (String.ofList name), unlimited⟩
    else match limit? word with
      | some limit => .ok ⟨some (String.ofList name), limit⟩
      | none => .error word
  | _ => .error spec

def addRule (rules : List FilterRule) (r : FilterRule) : List FilterRule :=
  if rules.any (·.target == r.target) then
    rules.map fun old => if old.target = r.target then r else old
  else rules ++ [r]

def warning (fault : String) : String := s!"warning: {fault}, ignoring it\n"

def takeRule (read : List FilterRule × List String) (spec : String) :
    List FilterRule × List String :=
  match readRule spec with
  | .ok rule => (addRule read.1 rule, read.2)
  | .error fault => (read.1, read.2 ++ [warning s!"invalid logging spec '{fault}'"])

/-- The rule that is always there: of the watched system only warnings are shown. -/
def systemRule : FilterRule := ⟨some "notify", LogLevel.warn.verbosity⟩

def readPattern (text : String) : Option Pattern × List String :=
  match Pattern.parse text with
  | .ok pattern => (some pattern, [])
  | .error e => (none, [warning s!"invalid regex filter - {e.message}"])

/-- Reads rules with commas between them, and warns of those that are none. -/
def readRules (text : List Char) : List FilterRule × List String :=
  let specs := ((text.splitOn ',').map Text.trim).filter (· ≠ [])
  let (rules, warnings) := (specs.map String.ofList).foldl takeRule ([], [])
  (addRule rules systemRule, warnings)

/-- Reads a filter, rules and perhaps a pattern after a slash, and warns of what is wrong with it. -/
def parse (spec : String) : LogFilter × List String :=
  match spec.toList.splitOn '/' with
  | [rules] =>
    let (rules, warnings) := readRules rules
    (⟨rules, none⟩, warnings)
  | [rules, text] =>
    let (rules, warnings) := readRules rules
    let (pattern, more) := readPattern (String.ofList text)
    (⟨rules, pattern⟩, warnings ++ more)
  | _ => (⟨[systemRule], none⟩, [warning s!"invalid logging spec '{spec}' (too many '/'s)"])

def weight (r : FilterRule) : Nat := (r.target.map String.utf8ByteSize).getD 0

/-- The rule that decides about a part. -/
def ruleFor? (f : LogFilter) (target : String) : Option FilterRule :=
  (f.rules.mergeSort fun a b => weight a ≤ weight b).reverse.find? fun r =>
    r.target.all fun start => start.toList.isPrefixOf target.toList

def shows (f : LogFilter) (r : LogRecord) : Bool :=
  (f.ruleFor? r.origin.target).any (r.level.verbosity ≤ ·.limit)
    && f.pattern.all (·.isIn r.message)

end LogFilter

def paddedLevel (l : LogLevel) : String :=
  String.ofList (l.name.toList ++ List.replicate (5 - l.name.length) ' ')

def indent (text : String) : String :=
  String.ofList (text.toList.flatMap fun c => if c = '\n' then "\n    ".toList else [c])

/-- A record on the console, with the end of its last line. -/
def recordText (r : LogRecord) : String :=
  Text.Terminal.plain s!"[{paddedLevel r.level} {r.origin.target}] {indent r.message}\n"

/-- What the last part of a usage error goes on with, cut where the style changes. -/
def usageHint : List String := ["\n\nFor more information, try '", "--help", "'.\n"]

def withHint : List String → List String
  | [] => usageHint
  | [last] => (last ++ usageHint.headD "") :: usageHint.tail
  | part :: parts => part :: withHint parts

/-- A usage error on the console.  A change of style closes any order to a terminal. -/
def usageText (e : UsageError) : String :=
  "error: " ++ String.join ((withHint e.parts).map Text.Terminal.plain)

end ShaderDepot.CommandLine
