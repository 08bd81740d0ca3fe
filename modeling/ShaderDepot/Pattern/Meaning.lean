import ShaderDepot.Pattern.Matcher

/-!
# The meaning of patterns

Flags decide what letters, dots and marks mean, from where they are set to the end of the group.  A
pattern matches text only: what could match a part of a character is refused.  Letters of words, digits
and cases are known for ASCII alone, so what asks for them among all characters is refused as well.
-/

namespace ShaderDepot.Pattern

structure Modes where
  ignoreCase : Bool := false
  multiLine : Bool := false
  dotMatchesFeed : Bool := false
  carriageReturns : Bool := false
  unicode : Bool := true
  deriving DecidableEq, Repr

def Modes.change (m : Modes) : FlagChanges → Modes
  | [] => m
  | (flag, on) :: changes =>
    let m := match flag with
      | .ignoreCase => { m with ignoreCase := on }
      | .multiLine => { m with multiLine := on }
      | .dotMatchesFeed => { m with dotMatchesFeed := on }
      | .carriageReturns => { m with carriageReturns := on }
      | .unicode => { m with unicode := on }
      | .swapGreed | .ignoreBlank => m
    m.change changes

def refuse {α : Type} (kind : FaultKind) (span : Span) : Except Fault α :=
  .error ⟨kind, span, none⟩

/-! ## Classes -/

def asciiDigits : CharSet := .ofRange '0' '9'

def asciiSpaces : CharSet := .ofList ['\t', '\n', '\x0b', '\x0c', '\r', ' ']

def asciiLower : CharSet := .ofRange 'a' 'z'

def asciiUpper : CharSet := .ofRange 'A' 'Z'

def asciiAlphanumeric : CharSet := asciiDigits.union (asciiUpper.union asciiLower)

def asciiWords : CharSet := asciiAlphanumeric.union (.single '_')

def asciiPunctuation : CharSet :=
  ((CharSet.ofRange '!' '/').union (.ofRange ':' '@')).union
    ((CharSet.ofRange '[' (Char.ofNat 0x60)).union (.ofRange '\x7b' '~'))

def AsciiClass.set : AsciiClass → CharSet
  | alnum => asciiAlphanumeric
  | alpha => asciiUpper.union asciiLower
  | ascii => .ofRange '\x00' '\x7f'
  | blank => .ofList ['\t', ' ']
  | cntrl => (CharSet.ofRange '\x00' '\x1f').union (.single '\x7f')
  | digit => asciiDigits
  | graph => .ofRange '!' '~'
  | lower => asciiLower
  | print => .ofRange ' ' '~'
  | punct => asciiPunctuation
  | space => asciiSpaces
  | upper => asciiUpper
  | word => asciiWords
  | xdigit => asciiDigits.union ((CharSet.ofRange 'A' 'F').union (.ofRange 'a' 'f'))

def Shorthand.set : Shorthand → CharSet
  | digit => asciiDigits
  | space => asciiSpaces
  | word => asciiWords

/-- The meaning of a letter for a class.  Where bytes are meant, it has to be one of ASCII. -/
def Shorthand.meaning (m : Modes) (span : Span) (kind : Shorthand) (negated : Bool) :
    Except Fault CharSet :=
  if m.unicode then refuse .wideClass span
  else if negated then refuse .notText span
  else .ok kind.set

/-- The name of a property as it is compared: blanks, dashes, case and a beginning that says nothing
are left out. -/
def propertyKey (name : List Char) : List Char :=
  let lower := name.map Char.toLower
  let kept (s : List Char) := s.filter fun c => c ≤ '\x7f' && c != ' ' && c != '_' && c != '-'
  match lower with
  | 'i' :: 's' :: rest => if kept rest = ['c'] then "isc".toList else kept rest
  | s => kept s

/-- The fault of asking for a property.  No property is known; three names could also be values of
one. -/
def propertyFault (name : List Char) : FaultKind :=
  if name.contains ':' || name.contains '=' then .propertyUnknown
  else if ["cf".toList, "sc".toList, "lc".toList].contains (propertyKey name) then
    .propertyValueUnknown
  else .propertyUnknown

def refuseProperty {α : Type} (m : Modes) (span : Span) (name : List Char) : Except Fault α :=
  refuse (if m.unicode then propertyFault name else .wideCharacter) span

/-- A set with the other cases of its letters, if case does not matter. -/
def foldCase (m : Modes) (span : Span) (set : CharSet) : Except Fault CharSet :=
  if !m.ignoreCase then .ok set
  else if !m.unicode then .ok set.foldAscii
  else if set.isEmpty then .ok set
  else refuse .wideCase span

/-- A set or, negated, all else.  Where bytes are meant, they have to be of ASCII. -/
def foldAndNegate (m : Modes) (span : Span) (negated : Bool) (set : CharSet) :
    Except Fault CharSet := do
  let set ← foldCase m span set
  let set := if negated then set.negate else set
  if m.unicode || set.isAscii then return set else refuse .notText span

def Letter.checkText (m : Modes) (l : Letter) : Except Fault Unit :=
  if !m.unicode && l.isByte && '\x7f' < l.char then refuse .notText l.span else .ok ()

def Letter.inClass (m : Modes) (l : Letter) : Except Fault Char := do
  l.checkText m
  if m.unicode || l.char ≤ '\x7f' then return l.char else refuse .wideCharacter l.span

def ClassOp.join : ClassOp → CharSet → CharSet → CharSet
  | intersection => CharSet.inter
  | difference => CharSet.diff
  | symmetricDifference => CharSet.symmDiff

mutual

def ClassForm.meaning (m : Modes) : ClassForm → Except Fault CharSet
  | .empty _ => .ok .empty
  | .letter l => return .single (← l.inClass m)
  | .range _ first last => return .ofRange (← first.inClass m) (← last.inClass m)
  | .ascii span kind negated => foldAndNegate m span negated kind.set
  | .shorthand span kind negated => kind.meaning m span negated
  | .property span name => refuseProperty m span name
  | .bracketed span negated inner => do foldAndNegate m span negated (← inner.meaning m)
  | .union _ items => ClassForm.unionMeaning m items
  | .joined _ op left right => do
    let a ← left.meaning m
    let b ← right.meaning m
    let b ← foldCase m right.span b
    let a ← foldCase m left.span a
    return op.join a b

def ClassForm.unionMeaning (m : Modes) : List ClassForm → Except Fault CharSet
  | [] => .ok .empty
  | c :: cs => do
    let a ← c.meaning m
    return a.union (← unionMeaning m cs)

end

/-! ## Letters, dots and marks -/

def Letter.meaning (m : Modes) (l : Letter) : Except Fault Matcher := do
  l.checkText m
  if m.ignoreCase && m.unicode then refuse .wideCase l.span
  else return .one (if m.ignoreCase then (CharSet.single l.char).foldAscii else .single l.char)

/-- The meaning of a dot: any character, or any but the ends of lines. -/
def dotMeaning (m : Modes) (span : Span) : Except Fault Matcher :=
  if !m.unicode then refuse .notText span
  else if m.dotMatchesFeed then .ok (.one .all)
  else .ok (.one (CharSet.ofList (if m.carriageReturns then ['\n', '\r'] else ['\n'])).negate)

def Mark.meaning (m : Modes) : Mark → Place
  | lineStart => if m.multiLine then .lineStart m.carriageReturns else .textStart
  | lineEnd => if m.multiLine then .lineEnd m.carriageReturns else .textEnd
  | textStart => .textStart
  | textEnd => .textEnd
  | word place => .word place m.unicode

/-! ## Patterns -/

mutual

/-- The meaning of a part of a pattern, and the flags behind it. -/
def Form.meaning (m : Modes) : Form → Except Fault (Matcher × Modes)
  | .empty _ => .ok (.nothing, m)
  | .flags _ changes => .ok (.nothing, m.change changes)
  | .letter l => return (← l.meaning m, m)
  | .dot span => return (← dotMeaning m span, m)
  | .mark _ asked => .ok (.place (asked.meaning m), m)
  | .shorthand span kind negated => return (.one (← kind.meaning m span negated), m)
  | .property span name => refuseProperty m span name
  | .bracketed span negated inner =>
    return (.one (← foldAndNegate m span negated (← inner.meaning m)), m)
  | .repeated _ least most inner => do
    let (matcher, m) ← inner.meaning m
    return (.times least most matcher, m)
  | .group _ changes inner => do
    -- Flags that are changed within a group do not hold behind it.
    let (matcher, _) ← inner.meaning (m.change changes)
    return (matcher, m)
  | .alternation _ branches => do
    let (matchers, m) ← Form.meanings m branches
    return (.anyOf matchers, m)
  | .sequence _ items => do
    let (matchers, m) ← Form.meanings m items
    return (.inOrder matchers, m)

def Form.meanings (m : Modes) : List Form → Except Fault (List Matcher × Modes)
  | [] => .ok ([], m)
  | f :: fs => do
    let (matcher, m) ← f.meaning m
    let (matchers, m) ← meanings m fs
    return (matcher :: matchers, m)

end

end ShaderDepot.Pattern
