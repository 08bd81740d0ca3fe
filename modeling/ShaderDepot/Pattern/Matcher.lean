import ShaderDepot.Pattern.CharSet
import ShaderDepot.Pattern.Form

/-!
# Matchers

What a pattern means, its flags and spellings resolved.  A matcher takes a set of positions in a text to
the positions where its matches from there end, so that no choice has to be taken back.  Positions are
given ascending and each once.
-/

namespace ShaderDepot.Pattern

inductive Place
  | textStart
  | textEnd
  /-- Lines end in line feeds, or in carriage returns too. -/
  | lineStart (returns : Bool)
  | lineEnd (returns : Bool)
  /-- Words are of ASCII characters, or of all characters. -/
  | word (place : WordPlace) (wide : Bool)
  deriving DecidableEq, Repr

inductive Matcher
  | nothing
  | one (set : CharSet)
  | place (place : Place)
  | repeated (least : Nat) (most : Option Nat) (inner : Matcher)
  | both (first second : Matcher)
  | either (first second : Matcher)
  deriving DecidableEq, Repr

/-! ## Places -/

def isWordChar (c : Char) : Bool := c.isAlphanum || c == '_'

/-- Whether a place lies beside a word, given whether words are before and behind it. -/
def WordPlace.holds (before behind : Bool) : WordPlace → Bool
  | boundary => before != behind
  | noBoundary => before == behind
  | start => !before && behind
  | stop => before && !behind
  | startHalf => !before
  | stopHalf => !behind

/-- Whether a place lies at a position between two characters, where there are such. -/
def Place.holds (before? behind? : Option Char) : Place → Bool
  | textStart => before?.isNone
  | textEnd => behind?.isNone
  | lineStart false => before?.all (· == '\n')
  | lineStart true => before?.all fun c => c == '\n' || (c == '\r' && behind? != some '\n')
  | lineEnd false => behind?.all (· == '\n')
  | lineEnd true => behind?.all fun c => c == '\r' || (c == '\n' && before? != some '\r')
  | word place _ => place.holds (before?.any isWordChar) (behind?.any isWordChar)

/-! ## Matching -/

namespace Matcher

def unite : List Nat → List Nat → List Nat
  | [], qs => qs
  | ps, [] => ps
  | p :: ps, q :: qs =>
    if p < q then p :: unite ps (q :: qs)
    else if q < p then q :: unite (p :: ps) qs
    else p :: unite ps qs
termination_by ps qs => ps.length + qs.length

/-- The positions after so many steps.  Where a step changes nothing, neither do more. -/
def iterate (step : List Nat → List Nat) : Nat → List Nat → List Nat
  | 0, ps => ps
  | n + 1, ps => if step ps = ps then ps else iterate step n (step ps)

def spread (step : List Nat → List Nat) : Nat → List Nat → List Nat
  | 0, ps => ps
  | n + 1, ps =>
    let wider := unite ps (step ps)
    if wider = ps then ps else spread step n wider

/-- Where the matches end that start at some positions of a text. -/
def ends (text : Array Char) : Matcher → List Nat → List Nat
  | nothing, ps => ps
  | one set, ps => ps.filterMap fun p =>
    if (text[p]?).any set.contains then some (p + 1) else none
  | place x, ps => ps.filter fun p =>
    x.holds (if p = 0 then none else text[p - 1]?) text[p]?
  -- A match is no longer than the text, so without a limit as many steps are enough.
  | repeated least most inner, ps =>
    spread (inner.ends text) ((most.map (· - least)).getD (text.size + 1))
      (iterate (inner.ends text) least ps)
  | both first second, ps => second.ends text (first.ends text ps)
  | either first second, ps => unite (first.ends text ps) (second.ends text ps)

def isIn (m : Matcher) (text : String) : Bool :=
  let text := text.toList.toArray
  !(m.ends text (List.range (text.size + 1))).isEmpty

/-! ## Putting matchers together -/

def isWidthless : Matcher → Bool
  | nothing | place _ => true
  | one _ => false
  | repeated _ _ inner => inner.isWidthless
  | both first second | either first second => first.isWidthless && second.isWidthless

/-- A repetition.  What has no width need not be repeated, and no repetition is left where none is
needed. -/
def times (least : Nat) (most : Option Nat) (inner : Matcher) : Matcher :=
  let (least, most) :=
    if inner.isWidthless then (min least 1, some (min (most.getD 1) 1)) else (least, most)
  if most = some 0 then nothing
  else if least = 1 ∧ most = some 1 then inner
  else repeated least most inner

def inOrder : List Matcher → Matcher
  | [] => nothing
  | [m] => m
  | m :: ms => both m (inOrder ms)

def anyOf : List Matcher → Matcher
  | [] => one .empty
  | [m] => m
  | m :: ms => either m (anyOf ms)

/-! ## Limits -/

/-- Whether a place is asked for that depends on words of all characters. -/
def asksForWideWords : Matcher → Bool
  | place (.word _ wide) => wide
  | nothing | one _ | place _ => false
  | repeated _ _ inner => inner.asksForWideWords
  | both first second | either first second =>
    first.asksForWideWords || second.asksForWideWords

/-- About how many bytes an automaton for a set takes. -/
def setWeight (set : CharSet) : Nat :=
  match set.single? with
  | some n => 32 * (Char.ofNat n).utf8Size
  | none => if set.isAscii then 64 + 8 * set.ranges.length else 1004

/-- About how many bytes an automaton for a matcher takes. -/
def weight : Matcher → Nat
  | nothing => 0
  | one set => setWeight set
  | place _ => 32
  | repeated least none inner => max least 1 * inner.weight + 40
  | repeated least (some most) inner =>
    let w := inner.weight
    if least = most then least * w else least * w + 32 + (most - least) * (w + 40)
  | both first second => first.weight + second.weight
  | either first second => first.weight + second.weight + 36

def maxWeight : Nat := 10485760

end Matcher

end ShaderDepot.Pattern
