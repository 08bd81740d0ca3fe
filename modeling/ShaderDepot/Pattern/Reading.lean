import ShaderDepot.Pattern.Class
import ShaderDepot.Text.Alphabetic

/-!
# Reading patterns

A pattern is read from left to right.  Groups that are open form a stack, each with its branches so far;
a repetition takes hold of the part before it.
-/

namespace ShaderDepot.Pattern

/-! ## Flags and names of groups -/

def flag? : Char → Option Flag
  | 'i' => some .ignoreCase
  | 'm' => some .multiLine
  | 's' => some .dotMatchesFeed
  | 'U' => some .swapGreed
  | 'u' => some .unicode
  | 'R' => some .carriageReturns
  | 'x' => some .ignoreBlank
  | _ => none

structure FlagDraft where
  flags : List (Flag × Bool × Span) := []
  /-- The minus sign behind which flags are taken back. -/
  minus : Option Span := none
  /-- Whether that sign came last. -/
  dangles : Bool := false
  deriving Repr

def FlagDraft.changes (d : FlagDraft) : FlagChanges := d.flags.map fun (flag, on, _) => (flag, on)

def FlagDraft.add (d : FlagDraft) (a : Char) (span : Span) : Except Fault FlagDraft :=
  if a = '-' then
    match d.minus with
    | some other => .error ⟨.negationRepeated, span, some other⟩
    | none => .ok { d with minus := some span, dangles := true }
  else match flag? a with
    | none => .error ⟨.flagUnknown, span, none⟩
    | some flag =>
      match d.flags.lookup flag with
      | some (_, other) => .error ⟨.flagRepeated, span, some other⟩
      | none =>
        .ok { d with flags := d.flags ++ [(flag, d.minus.isNone, span)], dangles := false }

/-- Reads flags up to a colon or a closing parenthesis. -/
def readFlags (d : FlagDraft) (c : Cursor) : Except Fault (FlagDraft × Cursor) :=
  match _h : c.rest with
  | [] => c.fail .flagsUnfinished
  | a :: _ =>
    if a = ':' ∨ a = ')' then
      match d.dangles, d.minus with
      | true, some span => .error ⟨.negationDangling, span, none⟩
      | _, _ => .ok (d, c)
    else
      match d.add a c.letterSpan with
      | .ok d => readFlags d c.bump
      | .error fault => .error fault
termination_by c.rest.length
decreasing_by exact Cursor.length_bump_lt _h

def isNameLetter (isFirst : Bool) (c : Char) : Bool :=
  if isFirst then c == '_' || Text.isAlphabetic c
  else c == '_' || c == '.' || c == '[' || c == ']' || Text.isAlphanumeric c

def readNameLetters (isFirst : Bool) (c : Cursor) : Except Fault (List Char × Cursor) :=
  match _h : c.rest with
  | [] => c.fail .nameUnfinished
  | a :: _ =>
    if a = '>' then .ok ([], c)
    else if isNameLetter isFirst a then do
      let (name, c) ← readNameLetters false c.bump
      return (a :: name, c)
    else c.failAtLetter .nameCharacter
termination_by c.rest.length
decreasing_by exact Cursor.length_bump_lt _h

/-! ## Counts -/

/-- Reads a decimal number and the blank characters around it.  What is wrong with it may not matter in
the end. -/
def readCount (c : Cursor) : Except Fault Nat × Cursor :=
  let c := c.advance (c.rest.takeWhile Text.isBlank).length
  let (digits, after) := c.takeNext Text.isDigit
  let behind := (after.takeNext Text.isBlank).2
  let n := Text.digitsValue 10 digits
  if digits = [] then (.error ⟨.countMissing, after.since c.spot, none⟩, behind)
  else if n < Nat.pow 2 32 then (.ok n, behind)
  else (.error ⟨.countTooLarge, after.since c.spot, none⟩, behind)

/-- Reads the counts of a repetition up to the closing brace, from the opening one. -/
def readCounts : Reader (Nat × Option Nat) := fun c => do
  let start := c.spot
  let inside := c.next
  if inside.rest.isEmpty then return ← inside.failSince start .countUnclosed
  let (first, behind) := readCount inside
  match behind.head? with
  | none => behind.failSince start .countUnclosed
  | some ',' =>
    let second := behind.next
    match second.head? with
    | none => second.failSince start .countUnclosed
    | some '\x7d' => return ((← first, none), second)
    | some _ =>
      let least ← first
      let (most, behind) := readCount second
      return ((least, some (← most)), behind)
  | some _ =>
    let n ← first
    return ((n, some n), behind)

/-! ## Levels -/

structure OpenGroup where
  span : Span
  changes : FlagChanges
  /-- Whether blank characters meant nothing before it. -/
  ignoredBlank : Bool
  deriving Repr

/-- What has been read of a group, or of the whole pattern. -/
structure Level where
  group : Option OpenGroup
  /-- The branches that are finished, the last first. -/
  branches : List Form := []
  start : Spot
  /-- The parts of the branch at hand, the last first. -/
  items : List Form := []
  branchStart : Spot
  deriving Repr

namespace Level

def opened (group : Option OpenGroup) (spot : Spot) : Level where
  group := group
  start := spot
  branchStart := spot

def branch (l : Level) (stop : Spot) : Form :=
  match l.items with
  | [] => .empty ⟨l.branchStart, stop⟩
  | [item] => item
  | items => .sequence ⟨l.branchStart, stop⟩ items.reverse

def form (l : Level) (stop : Spot) : Form :=
  if l.branches.isEmpty then l.branch stop
  else .alternation ⟨l.start, stop⟩ (l.branch stop :: l.branches).reverse

def push (l : Level) (f : Form) : Level := { l with items := f :: l.items }

/-- The part that a repetition takes hold of, and the level without it. -/
def pop? (l : Level) : Option (Form × Level) :=
  match l.items with
  | [] | .flags .. :: _ => none
  | f :: items => some (f, { l with items })

end Level

structure Draft where
  cursor : Cursor
  level : Level
  /-- The levels around it, the innermost first. -/
  outer : List Level := []
  names : List (List Char × Span) := []
  deriving Repr

namespace Draft

def push (d : Draft) (f : Form) (cursor : Cursor) : Draft :=
  { d with cursor, level := d.level.push f }

def enter (d : Draft) (span : Span) (changes : FlagChanges) (cursor : Cursor) : Draft :=
  let group : OpenGroup := ⟨span, changes, d.cursor.ignoresBlank⟩
  let ignoresBlank := (changes.state? .ignoreBlank).getD d.cursor.ignoresBlank
  { d with
    cursor := { cursor with ignoresBlank }
    level := .opened (some group) cursor.spot
    outer := d.level :: d.outer }

def enterNamed (d : Draft) (span : Span) (c : Cursor) : Except Fault Draft := do
  let (name, close) ← readNameLetters true c
  if name = [] then throw ⟨.nameEmpty, c.here, none⟩
  let named := close.since c.spot
  match d.names.lookup name with
  | some other => throw ⟨.nameRepeated, named, some other⟩
  | none => return { d.enter span [] close.bump with names := d.names ++ [(name, named)] }

/-- Goes over an opening parenthesis: a group is opened, or flags are changed for what follows. -/
def openGroup (d : Draft) : Except Fault Draft := do
  let span := d.cursor.letterSpan
  let c := d.cursor.next
  for looking in ["?=", "?!", "?<=", "?<!"] do
    if let some c := c.take? looking then return ← c.failSince span.start .lookAround
  if let some c := (c.take? "?P<").or (c.take? "?<") then return ← d.enterNamed span c
  match c.take? "?" with
  | none => return d.enter span [] c
  | some inside =>
    if inside.rest.isEmpty then throw ⟨.groupUnclosed, span, none⟩
    let (flags, close) ← readFlags {} inside
    let after := close.bump
    if close.head? = some ':' then return d.enter span flags.changes after
    if flags.flags.isEmpty then throw ⟨.nothingToRepeat, c.here, none⟩
    let ignoresBlank := (flags.changes.state? .ignoreBlank).getD d.cursor.ignoresBlank
    return d.push (.flags (after.since span.start) flags.changes) { after with ignoresBlank }

def closeGroup (d : Draft) : Except Fault Draft :=
  match d.level.group, d.outer with
  | some group, level :: outer =>
    let after := d.cursor.bump
    let f := Form.group (after.since group.span.start) group.changes (d.level.form d.cursor.spot)
    let cursor := { after with ignoresBlank := group.ignoredBlank }
    .ok { d with cursor, level := level.push f, outer }
  | _, _ => d.cursor.failAtLetter .groupUnopened

def nextBranch (d : Draft) : Draft :=
  let cursor := d.cursor.bump
  let branches := d.level.branch d.cursor.spot :: d.level.branches
  { d with cursor, level := { d.level with branches, items := [], branchStart := cursor.spot } }

/-- Puts a repetition of the last part in the place of that part. -/
def putRepeated (d : Draft) (level : Level) (f : Form) (least : Nat) (most : Option Nat)
    (cursor : Cursor) : Draft :=
  { d with cursor, level := level.push (.repeated ⟨f.span.start, cursor.spot⟩ least most f) }

/-- A question mark behind a repetition changes only which match is preferred. -/
def skipLazy (c : Cursor) : Cursor := if c.head? = some '?' then c.bump else c

def repeatBySign (d : Draft) (least : Nat) (most : Option Nat) : Except Fault Draft :=
  match d.level.pop? with
  | none => d.cursor.fail .nothingToRepeat
  | some (f, level) => .ok (d.putRepeated level f least most (skipLazy d.cursor.bump))

def repeatByCounts (d : Draft) : Except Fault Draft := do
  match d.level.pop? with
  | none => d.cursor.fail .nothingToRepeat
  | some (f, level) =>
    let start := d.cursor.spot
    let ((least, most), close) ← readCounts d.cursor
    if close.head? ≠ some '\x7d' then return ← close.failSince start .countUnclosed
    let after := skipLazy close.next
    if most.any (· < least) then return ← after.failSince start .countsReversed
    return d.putRepeated level f least most after

def step (d : Draft) (a : Char) : Except Fault Draft := do
  match a with
  | '(' => d.openGroup
  | ')' => d.closeGroup
  | '|' => return d.nextBranch
  | '?' => d.repeatBySign 0 (some 1)
  | '*' => d.repeatBySign 0 none
  | '+' => d.repeatBySign 1 none
  | '\x7b' => d.repeatByCounts
  | '.' => return d.push (.dot d.cursor.letterSpan) d.cursor.bump
  | '^' => return d.push (.mark d.cursor.letterSpan .lineStart) d.cursor.bump
  | '$' => return d.push (.mark d.cursor.letterSpan .lineEnd) d.cursor.bump
  | '[' =>
    let (f, cursor) ← readClass d.cursor
    return d.push f cursor
  | '\\' =>
    let (f, cursor) ← readEscape d.cursor
    return d.push f cursor
  | a => return d.push (.letter ⟨d.cursor.letterSpan, a, false⟩) d.cursor.bump

def close (d : Draft) : Except Fault Form :=
  match d.level.group with
  | some group => .error ⟨.groupUnclosed, group.span, none⟩
  | none => .ok (d.level.form d.cursor.spot)

/-- Reads to the end of the pattern.  Each step goes forward. -/
def finish (d : Draft) : Except Fault Form := do
  let here := { d with cursor := d.cursor.skipBlank }
  match here.cursor.rest with
  | [] => here.close
  | a :: _ =>
    let next ← here.step a
    if _ : next.cursor.rest.length < d.cursor.rest.length then next.finish else here.close
termination_by d.cursor.rest.length

end Draft

def Form.parse (pattern : String) : Except Fault Form := do
  let cursor : Cursor := ⟨pattern.toList, {}, false⟩
  let f ← Draft.finish ⟨cursor, .opened none cursor.spot, [], []⟩
  f.checkNested 0
  return f

end ShaderDepot.Pattern
