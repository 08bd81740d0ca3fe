import ShaderDepot.Pattern.Escape

/-!
# Classes in brackets

A class holds letters, ranges, named classes and classes in brackets of their own.  Two signs in a row
join what stands before them with what follows; such joins go from left to right.
-/

namespace ShaderDepot.Pattern

/-- Items of a class that stand side by side, the last first. -/
structure ItemRun where
  span : Span
  items : List ClassForm := []
  deriving Repr

namespace ItemRun

def push (u : ItemRun) (item : ClassForm) : ItemRun where
  span := ⟨if u.items.isEmpty then item.span.start else u.span.start, item.span.stop⟩
  items := item :: u.items

def form (u : ItemRun) : ClassForm :=
  match u.items with
  | [] => .empty u.span
  | [item] => item
  | items => .union u.span items.reverse

end ItemRun

/-- What is open around the items at hand. -/
inductive ClassFrame
  /-- A bracket, the items before it, and the span of its opening. -/
  | bracket (before : ItemRun) (span : Span) (negated : Bool)
  /-- A class to be joined with the next. -/
  | join (op : ClassOp) (left : ClassForm)
  deriving Repr

/-- A class in the making, the innermost frame first. -/
structure ClassDraft where
  cursor : Cursor
  run : ItemRun
  frames : List ClassFrame := []
  deriving Repr

namespace ClassDraft

def failUnclosed {α : Type} (d : ClassDraft) : Except Fault α :=
  match d.frames.findSome? fun
      | .bracket _ span _ => some span
      | .join .. => none with
  | some span => .error ⟨.classUnclosed, span, none⟩
  | none => d.cursor.fail .classUnclosed

/-! ## Opening -/

/-- The minus signs that come first, which stand for themselves. -/
def readMinuses (start : Spot) (run : ItemRun) (c : Cursor) : Except Fault (ItemRun × Cursor) :=
  match _h : c.rest with
  | '-' :: _ =>
    let run := run.push (.letter ⟨c.letterSpan, '-', false⟩)
    if c.next.rest.isEmpty then .error ⟨.classUnclosed, .point start, none⟩
    else readMinuses start run c.next
  | _ => .ok (run, c)
termination_by c.rest.length
decreasing_by exact Cursor.length_next_lt _h

/-- Opens a bracket.  Minus signs, or else a closing bracket, that come first stand for themselves. -/
def openBracket (d : ClassDraft) : Except Fault ClassDraft := do
  let start := d.cursor.spot
  let c := d.cursor.next
  if c.rest.isEmpty then return ← c.failSince start .classUnclosed
  let negated := c.head? == some '^'
  let c := if negated then c.next else c
  if c.rest.isEmpty then return ← c.failSince start .classUnclosed
  let (run, c) ← readMinuses start ⟨c.here, []⟩ c
  -- A class is not empty: a closing bracket that comes first is a letter of it.
  let closes := run.items.isEmpty && c.head? == some ']'
  let run := if closes then run.push (.letter ⟨c.letterSpan, ']', false⟩) else run
  let c := if closes then c.next else c
  if c.rest.isEmpty then return ← c.failSince start .classUnclosed
  return ⟨c, run, .bracket d.run (c.since start) negated :: d.frames⟩

/-! ## Joining and closing -/

/-- The items at hand, joined with what waits for them, and the frames around that. -/
def joinFrames (d : ClassDraft) : ClassForm × List ClassFrame :=
  match d.frames with
  | .join op left :: frames =>
    (.joined ⟨left.span.start, d.run.form.span.stop⟩ op left d.run.form, frames)
  | frames => (d.run.form, frames)

def startJoin (d : ClassDraft) (op : ClassOp) : ClassDraft :=
  let (left, frames) := d.joinFrames
  let cursor := d.cursor.advance 2
  ⟨cursor, ⟨cursor.here, []⟩, .join op left :: frames⟩

/-- Goes over a closing bracket: the class is an item of the one around it, or it is finished. -/
def closeBracket (d : ClassDraft) : Except Fault (Form × Cursor ⊕ ClassDraft) :=
  let (inner, frames) := d.joinFrames
  let cursor := d.cursor.bump
  match frames with
  | [.bracket _ span negated] =>
    .ok (.inl (.bracketed ⟨span.start, cursor.spot⟩ negated inner, cursor))
  | .bracket before span negated :: frames =>
    .ok (.inr ⟨cursor, before.push (.bracketed ⟨span.start, cursor.spot⟩ negated inner), frames⟩)
  | _ => d.failUnclosed

/-! ## Items -/

/-- The class of ASCII characters whose name comes next, between colons in brackets. -/
def ascii? (c : Cursor) : Option (ClassForm × Cursor) := do
  let inside ← c.take? "[:"
  let negated := inside.head? == some '^'
  let name := (if negated then inside.bump else inside).rest.takeWhile (· ≠ ':')
  let after ← ((if negated then inside.bump else inside).advance name.length).take? ":]"
  return (.ascii (after.since c.spot) (← AsciiClass.ofName? (String.ofList name)) negated, after)

def readLetter : Reader Form := fun c =>
  match c.head? with
  | some '\\' => readEscape c
  | some a => .ok (.letter ⟨c.letterSpan, a, false⟩, c.bump)
  | none => c.fail .classUnclosed

def item (f : Form) : Except Fault ClassForm :=
  match f with
  | .letter l => .ok (.letter l)
  | .shorthand span kind negated => .ok (.shorthand span kind negated)
  | .property span name => .ok (.property span name)
  | f => .error ⟨.classEscape, f.span, none⟩

def boundary (f : Form) : Except Fault Letter :=
  match f with
  | .letter l => .ok l
  | f => .error ⟨.rangeBoundary, f.span, none⟩

/-- Reads a single item or a range.  A minus sign before a closing bracket or another minus sign makes
no range. -/
def readItem (d : ClassDraft) : Except Fault ClassDraft := do
  let (first, c) ← readLetter d.cursor
  let c := c.skipBlank
  match c.head? with
  | none => d.failUnclosed
  | some a =>
    -- Two minus signs take one class from another.
    if a ≠ '-' ∨ c.second? = some ']' ∨ c.second? = some '-' then
      return { d with cursor := c, run := d.run.push (← item first) }
    if c.next.rest.isEmpty then return ← d.failUnclosed
    let (last, c) ← readLetter c.next
    let span : Span := ⟨first.span.start, last.span.stop⟩
    let low ← boundary first
    let high ← boundary last
    if low.char ≤ high.char then
      return { d with cursor := c, run := d.run.push (.range span low high) }
    else throw ⟨.rangeReversed, span, none⟩

/-! ## The whole class -/

def step (d : ClassDraft) : Except Fault (Form × Cursor ⊕ ClassDraft) :=
  match d.cursor.rest with
  | [] => d.failUnclosed
  | '[' :: _ =>
    match if d.frames.isEmpty then none else ascii? d.cursor with
    | some (named, cursor) => .ok (.inr { d with cursor, run := d.run.push named })
    | none => .inr <$> d.openBracket
  | ']' :: _ => d.closeBracket
  | '&' :: '&' :: _ => .ok (.inr (d.startJoin .intersection))
  | '-' :: '-' :: _ => .ok (.inr (d.startJoin .difference))
  | '~' :: '~' :: _ => .ok (.inr (d.startJoin .symmetricDifference))
  | _ => .inr <$> d.readItem

/-- Reads to the end of the class.  Each step goes forward. -/
def finish (d : ClassDraft) : Except Fault (Form × Cursor) := do
  match ← step { d with cursor := d.cursor.skipBlank } with
  | .inl done => return done
  | .inr next =>
    if _ : next.cursor.rest.length < d.cursor.rest.length then next.finish else d.failUnclosed
termination_by d.cursor.rest.length

end ClassDraft

def readClass : Reader Form := fun c => ClassDraft.finish ⟨c, ⟨c.here, []⟩, []⟩

end ShaderDepot.Pattern
