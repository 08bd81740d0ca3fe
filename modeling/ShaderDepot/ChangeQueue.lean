import ShaderDepot.Path

/-!
# The queue of changed files

Whoever changes a shader file tells its path to a queue, from which the depot takes all paths at once.
Telling goes on after the queue is closed, to no effect.
-/

namespace ShaderDepot

/-- Paths that were told and not taken, the oldest first. -/
inductive ChangeQueue
  | open (pending : List String)
  | closed
  deriving DecidableEq, Repr, Inhabited

namespace ChangeQueue

def empty : ChangeQueue := .open []

def pending : ChangeQueue → List String
  | .open paths => paths
  | closed => []

def isEmpty (q : ChangeQueue) : Bool := q.pending.isEmpty

/-- Tells the queue of a changed file.  The answer is whether the queue, if there was something to
tell, was there to listen. -/
def notify (q : ChangeQueue) (path : String) : Bool × ChangeQueue :=
  let path := Path.normalize path
  if path.isEmpty then (true, q)
  else match q with
    | .open paths => (true, .open (paths ++ [path]))
    | closed => (false, closed)

def distinct (paths : List String) : List String :=
  (paths.mergeSort fun a b => (compare a b).isLE).eraseDups

def drain (q : ChangeQueue) : List String × ChangeQueue :=
  match q with
  | .open paths => (distinct paths, empty)
  | closed => ([], closed)

end ChangeQueue

end ShaderDepot
