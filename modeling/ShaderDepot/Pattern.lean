import ShaderDepot.Pattern.Meaning
import ShaderDepot.Pattern.Reading

/-!
# Patterns

A pattern describes texts: letters stand for themselves, and signs for sets of characters, repetitions,
choices and places.  It is looked for anywhere in a text.
-/

namespace ShaderDepot

structure Pattern where
  matcher : Pattern.Matcher
  deriving DecidableEq, Repr

namespace Pattern

inductive Refusal
  | faulty (pattern : String) (fault : Fault)
  /-- It asks for words of all characters, which are not known. -/
  | wideWords
  | tooLarge
  deriving DecidableEq, Repr

def Refusal.message : Refusal → String
  | faulty pattern fault => fault.text pattern
  | wideWords => "error building NFA"
  | tooLarge => s!"Compiled regex exceeds size limit of {Matcher.maxWeight} bytes."

def parse (text : String) : Except Refusal Pattern :=
  match Form.parse text >>= Form.meaning {} with
  | .error fault => .error (.faulty text fault)
  | .ok (matcher, _) =>
    if Matcher.maxWeight < matcher.weight then .error .tooLarge
    else if matcher.asksForWideWords then .error .wideWords
    else .ok ⟨matcher⟩

def isIn (p : Pattern) (text : String) : Bool := p.matcher.isIn text

end Pattern

end ShaderDepot
