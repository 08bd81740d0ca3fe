import ShaderDepot.Table
import ShaderDepot.Toml.Token

/-!
# TOML documents

A document is a sequence of statements: a key with a value, the header of a table, or the header of one
more row of tables.  The statements are read first; then they build the tables, which each of them may
extend only in the ways that the kind of a table allows.
-/

namespace ShaderDepot.Toml

/-- A key: the names of the tables on the way, and its own. -/
structure Key where
  path : List (List Char)
  name : List Char
  deriving DecidableEq, Repr

inductive Statement
  | entry (key : Key) (value : Value)
  | header (key : Key)
  | row (key : Key)
  deriving Repr

/-! ## The rules of extension -/

/-- Changes the table at the end of a path and makes the tables on the way that are missing.  A path
leads into the last of several rows, never into braces, and through dots not into a table with a header
of its own.  Dots make every table on the way their own. -/
def changeAt (change : TableKind → Entries → Option Entries) (dotted : Bool) :
    List (List Char) → TableKind → Entries → Option Entries
  | [], kind, entries => change kind entries
  | name :: path, _, entries =>
    match entries.lookup name with
    | none => do
      let kind := if dotted then .dotted else .implied
      return entries ++ [(name, .table kind (← changeAt change dotted path kind []))]
    | some (.table kind below) =>
      -- What stands in braces is complete, and a table with a header is not added to by dots.
      if kind = .inline ∨ (dotted ∧ kind = .defined) then none
      else do
        let kind := if dotted then .dotted else kind
        let below ← changeAt change dotted path kind below
        return Table.insertEntry name (.table kind below) entries
    -- A path goes on in the row that was opened last.
    | some (.tables rows) => do
      let last ← changeAt change dotted path .defined (← rows.getLast?)
      return Table.insertEntry name (.tables (rows.dropLast ++ [last])) entries
    | some _ => none

def addNew (name : List Char) (value : Value) (entries : Entries) : Option Entries :=
  if (entries.lookup name).isNone then some (entries ++ [(name, value)]) else none

/-- Adds a value under a key.  A table at the end of dots must have been made by dots. -/
def addEntry (key : Key) (value : Value) (kind : TableKind) (entries : Entries) : Option Entries :=
  changeAt (fun kind entries =>
      if key.path = [] ↔ kind ≠ .dotted then addNew key.name value entries else none)
    true key.path kind entries

def openTable (name : List Char) (entries : Entries) : Option Entries :=
  match entries.lookup name with
  | none => some (entries ++ [(name, .table .defined [])])
  -- A table that only stood in the path of another may still get a header of its own.
  | some (.table .implied below) => some (Table.insertEntry name (.table .defined below) entries)
  | some _ => none

def openRow (name : List Char) (entries : Entries) : Option Entries :=
  match entries.lookup name with
  | none => some (entries ++ [(name, .tables [[]])])
  | some (.tables rows) => some (Table.insertEntry name (.tables (rows ++ [[]])) entries)
  | some _ => none

/-- The whole document's entries, and the path of the header that is in force. -/
structure Draft where
  entries : Entries := []
  header : List (List Char) := []

def Draft.extend (d : Draft) : Statement → Option Draft
  | .entry key value => do
    return { d with
      entries := ← changeAt (addEntry key value) false d.header .defined d.entries }
  | .header key => do
    let entries ← changeAt (fun _ => openTable key.name) false key.path .defined d.entries
    return ⟨entries, key.path ++ [key.name]⟩
  | .row key => do
    let entries ← changeAt (fun _ => openRow key.name) false key.path .defined d.entries
    return ⟨entries, key.path ++ [key.name]⟩

/-! ## Reading keys and values -/

def skipSpace : List Token → List Token
  | .space _ :: ts => ts
  | ts => ts

/-- Space, line ends and comments stand between statements and between items. -/
def isBlank : Token → Bool
  | .space _ | .newline | .comment => true
  | _ => false

def skipBlank (ts : List Token) : List Token := ts.dropWhile isBlank

def isNameChar (c : Char) : Bool := c.isAlphanum || c == '_' || c == '-'

def readName : List Token → Option (List Char × List Token)
  | .string true name :: ts => some (name, ts)
  | .bare name :: ts => if name.all isNameChar then some (name, ts) else none
  | _ => none

/-- Reads names with dots between them, and the space around each. -/
def readNames (ts : List Token) : Option (Key × List Token) := do
  let (name, rest) ← readName (skipSpace ts)
  match skipSpace rest with
  | .dot :: rest =>
    if _ : rest.length < ts.length then
      let (key, rest) ← readNames rest
      return ({ key with path := name :: key.path }, rest)
    else none
  | rest => return (⟨[], name⟩, rest)
termination_by ts.length

/-- How deep a document may go: through brackets and braces, and through the names of a key. -/
def maxDepth : Nat := 80

def readKey (ts : List Token) : Option (Key × List Token) :=
  (readNames ts).filter fun (key, _) => key.path.length < maxDepth

/-- The text in front that is written without quotes, dots included. -/
def takeBare : List Token → List Char × List Token
  | .bare text :: ts => (text ++ (takeBare ts).1, (takeBare ts).2)
  | .dot :: ts => ('.' :: (takeBare ts).1, (takeBare ts).2)
  | ts => ([], ts)

/-- Reads a value without brackets.  One space may stand in it, between a date and a time. -/
def readScalar : List Token → Option (Value × List Token)
  | .string _ text :: ts => some (.string text, ts)
  | ts => do
    let (text, rest) := takeBare ts
    match rest with
    -- A space is part of the value only if a digit follows, as in `1979-05-27 07:32:00`.
    | .space [' '] :: .bare (c :: s) :: more =>
      if Text.isDigit c then
        let (time, rest) := takeBare (.bare (c :: s) :: more)
        return (← Value.ofBare? (text ++ ' ' :: time), rest)
      else return (← Value.ofBare? text, rest)
    | rest => return (← Value.ofBare? text, rest)

/-- Reads the items of an array and its closing bracket. -/
def readItems (item : List Token → Option (Value × List Token)) (ts : List Token) :
    Option (List Value × List Token) :=
  match skipBlank ts with
  | .closeBracket :: rest => some ([], rest)
  | start => do
    let (value, rest) ← item start
    match skipBlank rest with
    | .closeBracket :: rest => return ([value], rest)
    | .comma :: rest =>
      -- An item takes at least one token, so this always holds; the recursion ends by it.
      if _ : rest.length < ts.length then
        let (values, rest) ← readItems item rest
        return (value :: values, rest)
      else none
    | _ => none
termination_by ts.length

/-- Reads the entries of a table in braces and its closing brace.  Lines may end around the equals
sign. -/
def readMembers (item : List Token → Option (Value × List Token)) (entries : Entries)
    (ts : List Token) : Option (Entries × List Token) :=
  match skipBlank ts with
  | .closeBrace :: rest => some (entries, rest)
  | start => do
    let (key, rest) ← readKey start
    let .equals :: rest := skipBlank rest | none
    let (value, rest) ← item (skipBlank rest)
    let entries ← addEntry key value .inline entries
    match skipBlank rest with
    | .closeBrace :: rest => return (entries, rest)
    | .comma :: rest =>
      if _ : rest.length < ts.length then readMembers item entries rest else none
    | _ => none
termination_by ts.length

/-- Reads a value in which brackets and braces stand at most so deep. -/
def readValue : Nat → List Token → Option (Value × List Token)
  | depth + 1, .openBracket :: ts => do
    let (items, rest) ← readItems (readValue depth) ts
    return (.array items, rest)
  | depth + 1, .openBrace :: ts => do
    let (entries, rest) ← readMembers (readValue depth) [] ts
    return (.table .inline entries, rest)
  | _, ts => readScalar ts

/-! ## Reading statements -/

def endLine (ts : List Token) : Option (List Token) :=
  match skipSpace ts with
  | [] => some []
  | .newline :: rest => some rest
  | .comment :: [] => some []
  | .comment :: .newline :: rest => some rest
  | _ => none

def readStatement : List Token → Option (Statement × List Token)
  | .openBracket :: .openBracket :: ts => do
    let (key, .closeBracket :: .closeBracket :: rest) ← readKey ts | none
    return (.row key, ← endLine rest)
  | .openBracket :: ts => do
    let (key, .closeBracket :: rest) ← readKey ts | none
    return (.header key, ← endLine rest)
  | ts => do
    let (key, .equals :: rest) ← readKey ts | none
    let (value, rest) ← readValue maxDepth (skipSpace rest)
    return (.entry key value, ← endLine rest)

def readStatements (ts : List Token) : Option (List Statement) :=
  match skipBlank ts with
  | [] => some []
  | start => do
    let (statement, rest) ← readStatement start
    if _ : rest.length < ts.length then return statement :: (← readStatements rest)
    else none
termination_by ts.length

/-- The entries of a document; a byte order mark in front of it means nothing. -/
def parse (text : String) : Option Entries := do
  let s := text.toList
  let statements ← readStatements (← tokens (if s.head? = some '\uFEFF' then s.drop 1 else s))
  return (← statements.foldlM Draft.extend {}).entries

end ShaderDepot.Toml
