/-!
# Handles of device objects

Numbers by which a device knows the objects it made.  They mean nothing to another device.
-/

namespace ShaderDepot

/-- The kinds of objects that a device gives numbers to. -/
inductive ObjectKind
  | program
  | pipeline
  deriving DecidableEq, Repr

def ObjectKind.name : ObjectKind → String
  | program => "program"
  | pipeline => "pipeline"

structure ProgramHandle where
  number : Nat
  deriving DecidableEq, Repr, Inhabited

structure PipelineHandle where
  number : Nat
  deriving DecidableEq, Repr, Inhabited

/-- Where a uniform of one program lives.  The numbers of the first `2 ^ 32` uniforms differ as numbers of
32 bits, too. -/
structure UniformLocation where
  number : Int
  deriving DecidableEq, Repr, Inhabited

def ProgramHandle.display (h : ProgramHandle) : String := s!"ProgramHandle({h.number})"

def PipelineHandle.display (h : PipelineHandle) : String := s!"PipelineHandle({h.number})"

/-- Three extents, one for each axis of a dispatch. -/
structure Extent where
  x : Nat
  y : Nat
  z : Nat
  deriving DecidableEq, Repr, Inhabited

def Extent.zero : Extent := ⟨0, 0, 0⟩

end ShaderDepot
