import ShaderDepot.Text.Blank
import ShaderDepot.Text.Lines

/-!
# Normal form of shader paths

A shader file is known by its path.  Two spellings of a path name the same file when they have one
normal form: blank ends are cut, a backslash is a slash, empty and `.` segments are dropped, and `..`
takes back the segment before it.  A `..` with nothing to take back stays, for the storage may still
make sense of it.
-/

namespace ShaderDepot.Path

/-- A backslash separates segments as a slash does. -/
def unifySlashes (s : List Char) : List Char := s.map fun c => if c = '\\' then '/' else c

/-- Adds a segment to the kept ones, of which the latest stands first. -/
def keepSegment (kept : List (List Char)) (segment : List Char) : List (List Char) :=
  if segment = [] ∨ segment = ['.'] then kept
  else if segment = ['.', '.'] then
    match kept with
    | last :: rest => if last = ['.', '.'] then segment :: kept else rest
    | [] => [segment]
  else segment :: kept

def reduceSegments (segments : List (List Char)) : List (List Char) :=
  (segments.foldl keepSegment []).reverse

def segments (s : List Char) : List (List Char) := (unifySlashes s).splitOn '/'

def normalizeChars (s : List Char) : List Char :=
  Text.joinWith '/' (reduceSegments (segments (Text.trim s)))

def normalize (path : String) : String := String.ofList (normalizeChars path.toList)

end ShaderDepot.Path
