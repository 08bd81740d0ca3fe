import ShaderDepot.Pattern.Fault

/-!
# Forms of patterns

A pattern as it is written: every part knows its span, and nothing is decided yet about what it matches.
A part is nested in all parts around it but single characters, marks and flags.
-/

namespace ShaderDepot.Pattern

inductive Flag
  | ignoreCase
  | multiLine
  | dotMatchesFeed
  | swapGreed
  | unicode
  | carriageReturns
  | ignoreBlank
  deriving DecidableEq, Repr

/-- Flags that are set or taken back, in their order. -/
abbrev FlagChanges := List (Flag × Bool)

def FlagChanges.state? (changes : FlagChanges) (flag : Flag) : Option Bool := changes.lookup flag

/-- A place beside a word that a pattern can ask for.  The half ones look at one side only. -/
inductive WordPlace
  | boundary
  | noBoundary
  | start
  | stop
  | startHalf
  | stopHalf
  deriving DecidableEq, Repr

inductive Mark
  | lineStart
  | lineEnd
  | textStart
  | textEnd
  | word (place : WordPlace)
  deriving DecidableEq, Repr

structure Letter where
  span : Span
  char : Char
  /-- Whether two hexadecimal digits stand for it, so that it may be meant as a byte. -/
  isByte : Bool := false
  deriving DecidableEq, Repr

/-- Classes that a letter after a backslash names. -/
inductive Shorthand
  | digit
  | space
  | word
  deriving DecidableEq, Repr

inductive AsciiClass
  | alnum
  | alpha
  | ascii
  | blank
  | cntrl
  | digit
  | graph
  | lower
  | print
  | punct
  | space
  | upper
  | word
  | xdigit
  deriving DecidableEq, Repr

namespace AsciiClass

def all : List (String × AsciiClass) := [
  ("alnum", alnum), ("alpha", alpha), ("ascii", ascii), ("blank", blank), ("cntrl", cntrl),
  ("digit", digit), ("graph", graph), ("lower", lower), ("print", print), ("punct", punct),
  ("space", space), ("upper", upper), ("word", word), ("xdigit", xdigit)]

def ofName? (name : String) : Option AsciiClass := all.lookup name

end AsciiClass

inductive ClassOp
  | intersection
  | difference
  | symmetricDifference
  deriving DecidableEq, Repr

inductive ClassForm
  | empty (span : Span)
  | letter (letter : Letter)
  | range (span : Span) (first last : Letter)
  | ascii (span : Span) (kind : AsciiClass) (negated : Bool)
  | shorthand (span : Span) (kind : Shorthand) (negated : Bool)
  | property (span : Span) (name : List Char)
  | bracketed (span : Span) (negated : Bool) (inner : ClassForm)
  | union (span : Span) (items : List ClassForm)
  | joined (span : Span) (op : ClassOp) (left right : ClassForm)
  deriving Repr

def ClassForm.span : ClassForm → Span
  | letter l => l.span
  | empty s | range s .. | ascii s .. | shorthand s .. | property s .. | bracketed s .. | union s ..
  | joined s .. => s

inductive Form
  | empty (span : Span)
  | flags (span : Span) (changes : FlagChanges)
  | letter (letter : Letter)
  | dot (span : Span)
  | mark (span : Span) (mark : Mark)
  | shorthand (span : Span) (kind : Shorthand) (negated : Bool)
  | property (span : Span) (name : List Char)
  | bracketed (span : Span) (negated : Bool) (inner : ClassForm)
  /-- Repeated so often at least, and at most if there is a limit. -/
  | repeated (span : Span) (least : Nat) (most : Option Nat) (inner : Form)
  | group (span : Span) (changes : FlagChanges) (inner : Form)
  | alternation (span : Span) (branches : List Form)
  | sequence (span : Span) (items : List Form)
  deriving Repr

def Form.span : Form → Span
  | letter l => l.span
  | empty s | flags s .. | dot s | mark s .. | shorthand s .. | property s .. | bracketed s ..
  | repeated s .. | group s .. | alternation s .. | sequence s .. => s

/-! ## The limit of nesting -/

def checkDepth (depth : Nat) (span : Span) : Except Fault Unit :=
  if depth < maxDepth then .ok () else .error ⟨.tooDeep, span, none⟩

mutual

def ClassForm.checkNested (depth : Nat) : ClassForm → Except Fault Unit
  | .bracketed span _ inner => do
    checkDepth depth span
    inner.checkNested (depth + 1)
  | .union span items => do
    checkDepth depth span
    ClassForm.checkAll (depth + 1) items
  | .joined span _ left right => do
    checkDepth depth span
    left.checkNested (depth + 1)
    right.checkNested (depth + 1)
  | _ => .ok ()

def ClassForm.checkAll (depth : Nat) : List ClassForm → Except Fault Unit
  | [] => .ok ()
  | c :: cs => do
    c.checkNested depth
    checkAll depth cs

end

mutual

def Form.checkNested (depth : Nat) : Form → Except Fault Unit
  | .bracketed span _ inner => do
    checkDepth depth span
    inner.checkNested (depth + 1)
  | .repeated span _ _ inner | .group span _ inner => do
    checkDepth depth span
    inner.checkNested (depth + 1)
  | .alternation span parts | .sequence span parts => do
    checkDepth depth span
    Form.checkAll (depth + 1) parts
  | _ => .ok ()

def Form.checkAll (depth : Nat) : List Form → Except Fault Unit
  | [] => .ok ()
  | f :: fs => do
    f.checkNested depth
    checkAll depth fs

end

end ShaderDepot.Pattern
