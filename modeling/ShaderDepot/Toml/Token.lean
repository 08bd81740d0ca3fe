import ShaderDepot.Text.Lines
import ShaderDepot.Toml.Value

/-!
# TOML tokens

A document is cut into tokens before its structure is read.  Strings are decoded here: what is left of
them is their text, and whether they stood on one line.
-/

namespace ShaderDepot.Toml

inductive Token
  | space (text : List Char)
  | newline
  | comment
  | dot
  | equals
  | comma
  | openBracket
  | closeBracket
  | openBrace
  | closeBrace
  /-- Characters that are no part of any other token. -/
  | bare (text : List Char)
  | string (oneLine : Bool) (text : List Char)
  deriving DecidableEq, Repr

/-- A character that a comment or a string may hold as it stands: no control character but a tab. -/
def isPlain (c : Char) : Bool := c == '\t' || (0x20 ≤ c.toNat && c.toNat != 0x7F)

def isSpace (c : Char) : Bool := c == ' ' || c == '\t'

/-! ## Strings -/

def scalar? (digits : List Char) : Option Char :=
  if digits.all Text.isHexDigit then Text.scalar? (Text.digitsValue 16 digits) else none

def escape? : Char → Option Char
  | 'b' => some '\x08'
  | 't' => some '\t'
  | 'n' => some '\n'
  | 'f' => some '\x0c'
  | 'r' => some '\r'
  | 'e' => some '\x1b'
  | '"' => some '"'
  | '\\' => some '\\'
  | _ => none

/-- How many hexadecimal digits follow a letter after a backslash. -/
def escapeWidth? : Char → Option Nat
  | 'x' => some 2
  | 'u' => some 4
  | 'U' => some 8
  | _ => none

/-- The character of an escape sequence without its backslash, and what is left. -/
def readEscape? : List Char → Option (Char × List Char)
  | [] => none
  | c :: rest =>
    match escapeWidth? c with
    | some n => if n ≤ rest.length then (scalar? (rest.take n)).map (·, rest.drop n) else none
    | none => (escape? c).map (·, rest)

theorem length_of_readEscape? {s rest : List Char} {c : Char} (h : readEscape? s = some (c, rest)) :
    rest.length < s.length := by
  cases s with
  | nil => cases h
  | cons a s =>
    simp only [readEscape?] at h
    split at h
    · split at h
      · obtain ⟨_, _, e⟩ := Option.map_eq_some_iff.1 h
        simp only [Prod.mk.injEq] at e
        rw [← e.2, List.length_drop, List.length_cons]
        omega
      · cases h
    · obtain ⟨_, _, e⟩ := Option.map_eq_some_iff.1 h
      simp only [Prod.mk.injEq] at e
      rw [← e.2, List.length_cons]
      omega

/-- Reads a string in double quotes on one line, from after its opening quote. -/
def readBasic (s : List Char) : Option (List Char × List Char) :=
  match s with
  | [] => none
  | '"' :: rest => some ([], rest)
  | '\\' :: rest =>
    match _ : readEscape? rest with
    | some (c, rest) => do
      let (text, rest) ← readBasic rest
      return (c :: text, rest)
    | none => none
  | c :: rest =>
    if isPlain c then do
      let (text, rest) ← readBasic rest
      return (c :: text, rest)
    else none
termination_by s.length
decreasing_by
  · have := length_of_readEscape? ‹_›
    simp only [List.length_cons]
    omega
  · simp

/-- Reads a string in single quotes on one line, from after its opening quote. -/
def readLiteral : List Char → Option (List Char × List Char)
  | [] => none
  | c :: rest =>
    if c = '\'' then some ([], rest)
    else if isPlain c then do
      let (text, rest) ← readLiteral rest
      return (c :: text, rest)
    else none

/-- A string over several lines ends at three quotes; of up to two more the string keeps as many.
The argument starts with a quote. -/
def closing? (quote : Char) (s : List Char) : Option (List Char × List Char) :=
  let run := (s.takeWhile (· == quote)).length
  if run < 3 then none
  else some (List.replicate (min (run - 3) 2) quote, s.drop (min run 5))

/-- Whether blank space up to the end of a line comes next, which a backslash takes away. -/
def startsBlankEnd (s : List Char) : Bool :=
  match s.dropWhile isSpace with
  | '\n' :: _ => true
  | '\r' :: '\n' :: _ => true
  | _ => false

/-- The text without spaces and line ends in front. -/
def dropBlankLines : List Char → List Char
  | '\r' :: '\n' :: s => dropBlankLines s
  | c :: s => if isSpace c || c == '\n' then dropBlankLines s else c :: s
  | [] => []

theorem length_dropBlankLines_le (s : List Char) : (dropBlankLines s).length ≤ s.length := by
  fun_induction dropBlankLines s with
  | case1 s ih =>
    simp only [List.length_cons]
    omega
  | case2 c s _ _ ih =>
    simp only [List.length_cons]
    omega
  | case3 => exact Nat.le_refl _
  | case4 => exact Nat.le_refl _

def dropFirstFeed : List Char → List Char
  | '\n' :: s => s
  | '\r' :: '\n' :: s => s
  | s => s

/-- Reads a string in three double quotes, from after its opening quotes. -/
def readMultiBasic (s : List Char) : Option (List Char × List Char) :=
  match s with
  | [] => none
  | '"' :: rest =>
    match closing? '"' ('"' :: rest) with
    | some done => some done
    | none => do
      let (text, rest) ← readMultiBasic rest
      return ('"' :: text, rest)
  | '\\' :: rest =>
    if startsBlankEnd rest then readMultiBasic (dropBlankLines rest)
    else match _ : readEscape? rest with
      | some (c, rest) => do
        let (text, rest) ← readMultiBasic rest
        return (c :: text, rest)
      | none => none
  | '\r' :: rest =>
    if rest.head? = some '\n' then do
      let (text, rest) ← readMultiBasic rest
      return ('\r' :: text, rest)
    else none
  | c :: rest =>
    if isPlain c ∨ c = '\n' then do
      let (text, rest) ← readMultiBasic rest
      return (c :: text, rest)
    else none
termination_by s.length
decreasing_by
  · simp
  · have := length_dropBlankLines_le rest
    simp only [List.length_cons]
    omega
  · have := length_of_readEscape? ‹_›
    simp only [List.length_cons]
    omega
  · simp
  · simp

/-- Reads a string in three single quotes, from after its opening quotes. -/
def readMultiLiteral (s : List Char) : Option (List Char × List Char) :=
  match s with
  | [] => none
  | c :: rest =>
    match if c = '\'' then closing? '\'' (c :: rest) else none with
    | some done => some done
    | none =>
      if isPlain c ∨ c = '\n' ∨ (c = '\r' ∧ rest.head? = some '\n') then do
        let (text, rest) ← readMultiLiteral rest
        return (c :: text, rest)
      else none

def readString : List Char → Option (Token × List Char)
  | '"' :: '"' :: '"' :: s => (readMultiBasic (dropFirstFeed s)).map fun (t, s) => (.string false t, s)
  | '"' :: s => (readBasic s).map fun (t, s) => (.string true t, s)
  | '\'' :: '\'' :: '\'' :: s =>
    (readMultiLiteral (dropFirstFeed s)).map fun (t, s) => (.string false t, s)
  | '\'' :: s => (readLiteral s).map fun (t, s) => (.string true t, s)
  | _ => none

/-! ## Tokens -/

def symbol? : Char → Option Token
  | '.' => some .dot
  | '=' => some .equals
  | ',' => some .comma
  | '[' => some .openBracket
  | ']' => some .closeBracket
  | '{' => some .openBrace
  | '}' => some .closeBrace
  | '\n' => some .newline
  | _ => none

def isBare (c : Char) : Bool :=
  (symbol? c).isNone && !isSpace c && c != '\r' && c != '#' && c != '"' && c != '\''

def readToken (s : List Char) : Option (Token × List Char) :=
  match s with
  | [] => none
  | '\r' :: '\n' :: rest => some (.newline, rest)
  | '#' :: rest =>
    let text := rest.takeWhile fun c => c != '\n' && c != '\r'
    if text.all isPlain then some (.comment, rest.drop text.length) else none
  | c :: rest =>
    if let some token := symbol? c then some (token, rest)
    else if c = '"' ∨ c = '\'' then readString (c :: rest)
    else if isSpace c then some (.space (c :: rest.takeWhile isSpace), rest.dropWhile isSpace)
    else if isBare c then some (.bare (c :: rest.takeWhile isBare), rest.dropWhile isBare)
    else none

/-- Cuts a text into tokens.  Each takes at least one character. -/
def tokens (s : List Char) : Option (List Token) :=
  if s = [] then some []
  else match readToken s with
    | some (token, rest) =>
      if _ : rest.length < s.length then do return token :: (← tokens rest) else none
    | none => none
termination_by s.length

end ShaderDepot.Toml
