/-!
# Text for a terminal

A terminal takes control characters, and sequences that an escape character starts, as orders and does
not show them.  `plain` keeps what is shown, for an output that is no terminal.  White space within an
order is kept and leaves the order open: it goes on after the next character that is not shown.
-/

namespace ShaderDepot.Text.Terminal

/-- How far an order has been read. -/
inductive State
  | ground
  | escape
  | escapeIntermediate
  | controlEntry
  | controlParameter
  | controlIntermediate
  | controlIgnored
  | deviceEntry
  | deviceParameter
  | deviceIntermediate
  /-- A text for the terminal, which only a byte of its own ends. -/
  | deviceText
  /-- A text for the system, which a bell ends. -/
  | systemText
  deriving DecidableEq, Repr

def isParameter (c : Char) : Bool := '0' ≤ c && c ≤ ';'

def isPrivate (c : Char) : Bool := '<' ≤ c && c ≤ '?'

def isIntermediate (c : Char) : Bool := ' ' ≤ c && c ≤ '/'

def isFinal (c : Char) : Bool := '@' ≤ c && c ≤ '~'

/-- White space that a terminal shows. -/
def isShownBlank (c : Char) : Bool := c == ' ' || c == '\t' || c == '\n' || c == '\x0c' || c == '\r'

/-- Whether the encoding of a character holds the byte that ends a text for the terminal. -/
def endsDeviceText (c : Char) : Bool := (String.utf8EncodeChar c).contains 0x9C

namespace State

def afterEscape (c : Char) : State :=
  if isIntermediate c then escapeIntermediate
  else if c = 'P' then deviceEntry
  else if c = 'X' ∨ c = '^' ∨ c = '_' then deviceText
  else if c = '[' then controlEntry
  else if c = ']' then systemText
  else if '0' ≤ c ∧ c ≤ '~' then ground
  else escape

/-- The state after a character that is not shown, or is white space within an order. -/
def step (s : State) (c : Char) : State :=
  -- Whatever is open, this character opens an order, and the next two end it.
  if c = '\x1b' then escape
  else if c = '\x18' ∨ c = '\x1a' then ground
  else match s with
    | ground => ground
    | escape => afterEscape c
    | escapeIntermediate => if '0' ≤ c ∧ c ≤ '~' then ground else escapeIntermediate
    | controlEntry =>
      if isIntermediate c then controlIntermediate
      else if isParameter c || isPrivate c then controlParameter
      else if isFinal c then ground
      else controlEntry
    | controlParameter =>
      if isIntermediate c then controlIntermediate
      else if isPrivate c then controlIgnored
      else if isFinal c then ground
      else controlParameter
    | controlIntermediate =>
      if isParameter c || isPrivate c then controlIgnored
      else if isFinal c then ground
      else controlIntermediate
    | controlIgnored => if isFinal c then ground else controlIgnored
    | deviceEntry =>
      if isIntermediate c then deviceIntermediate
      else if isParameter c || isPrivate c then deviceParameter
      else if isFinal c then deviceText
      else deviceEntry
    | deviceParameter =>
      if isIntermediate c then deviceIntermediate
      else if isPrivate c || isFinal c then deviceText
      else deviceParameter
    | deviceIntermediate =>
      if isParameter c || isPrivate c || isFinal c then deviceText else deviceIntermediate
    | deviceText => if endsDeviceText c then ground else deviceText
    | systemText => if c = '\x07' then ground else systemText

/-- Whether white space is shown although an order is open. -/
def showsBlank : State → Bool
  | deviceEntry | deviceParameter | deviceIntermediate | deviceText | systemText => false
  | _ => true

/-- Whether a character is shown: outside of orders all but control characters, within them at most
white space. -/
def shows (s : State) (c : Char) : Bool :=
  if s = ground then isShownBlank c || (' ' < c && c != '\x7f')
  else s.showsBlank && isShownBlank c && c != ' '

/-- The state after a character that is shown: only those beyond ASCII close an order. -/
def afterShown (s : State) (c : Char) : State := if c ≤ '\x7f' then s else ground

end State

/-- The shown characters of a text.  After one that is shown, those that are shown outside of orders
are shown too. -/
def plainChars (running : Bool) (s : State) : List Char → List Char
  | [] => []
  | c :: rest =>
    if (if running then State.ground else s).shows c then
      c :: plainChars true (s.afterShown c) rest
    else plainChars false (s.step c) rest

/-- What a terminal shows of a text. -/
def plain (text : String) : String := String.ofList (plainChars false .ground text.toList)

end ShaderDepot.Text.Terminal
