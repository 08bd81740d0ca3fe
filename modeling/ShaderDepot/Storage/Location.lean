import ShaderDepot.Path

/-!
# Locations in a storage

A location is a text of names with slashes between them; in front of the first a slash stands for the
root.  Locations are joined as texts, and compared and taken apart by their components.
-/

namespace ShaderDepot.Location

inductive Component
  | root
  /-- A `.` at the start; elsewhere it means nothing. -/
  | here
  | up
  | name (text : List Char)
  deriving DecidableEq, Repr

def Component.text : Component → List Char
  | root => []
  | here => ['.']
  | up => ['.', '.']
  | name s => s

/-- `part` seen from `base`: an absolute part stands for itself. -/
def joinAt {α : Type} [DecidableEq α] (slash : α) (base part : List α) : List α :=
  if part.head? = some slash ∨ base = [] then part
  else if base.getLast? = some slash then base ++ part
  else base ++ slash :: part

def joinChars (base part : List Char) : List Char := joinAt '/' base part

def join (base part : String) : String := String.ofList (joinChars base.toList part.toList)

/-- The step that a piece between slashes stands for, unless it is empty or a dot. -/
def ofPiece (piece : List Char) : Option Component :=
  if piece = [] ∨ piece = ['.'] then none
  else if piece = ['.', '.'] then some .up
  else some (.name piece)

def components (location : List Char) : List Component :=
  match location.splitOn '/' with
  | [] => []
  | first :: rest =>
    (if first = ['.'] then [.here]
      else if first = [] then (if rest = [] then [] else [.root])
      else (ofPiece first).toList)
      ++ rest.filterMap ofPiece

/-- The components of a location without those of a base, if it lies there. -/
def within? (base location : List Char) : Option (List Component) :=
  (components base).isPrefixOf? (components location)

/-- The number of leading pieces that reach up to the last one with a meaning of its own. -/
def meaningful (pieces : List (List Char)) : Nat :=
  pieces.length - (pieces.reverse.takeWhile fun piece => piece = [] ∨ piece = ['.']).length

/-- The pieces up to the last one with a meaning, where a dot in front has one. -/
def trimPieces : List (List Char) → List (List Char)
  | [] => []
  | first :: rest =>
    match meaningful rest with
    | 0 => if first = [] then [] else [first]
    | n => first :: rest.take n

def parent? (location : String) : Option String :=
  let pieces := location.toList.splitOn '/'
  match (trimPieces pieces).dropLast with
  | [] => if trimPieces pieces = [] then none else some ""
  | kept =>
    match trimPieces kept with
    | [] => some "/"
    | kept => some (String.ofList (Text.joinWith '/' kept))

/-- Whether nothing follows the last slash, so that the location must be a folder. -/
def endsInSlash (location : String) : Bool := location.toList.getLast? = some '/'

end ShaderDepot.Location
