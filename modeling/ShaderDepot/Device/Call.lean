import ShaderDepot.Handle
import ShaderDepot.Stage
import ShaderDepot.Uniform

/-!
# Calls to a device

The calls that a device keeps a record of, in the order in which it receives them.
-/

namespace ShaderDepot

/-- An object that can carry a label. -/
inductive LabelTarget
  | program (handle : ProgramHandle)
  | pipeline (handle : PipelineHandle)
  deriving DecidableEq, Repr

def LabelTarget.kind : LabelTarget → ObjectKind
  | program _ => .program
  | pipeline _ => .pipeline

inductive DeviceCall
  | createProgram (handle : ProgramHandle) (stage : Stage)
  | uniformLocation (handle : ProgramHandle) (name : String)
  | setUniform (handle : ProgramHandle) (location : UniformLocation) (value : UniformValue)
  | bindUniformBlock (handle : ProgramHandle) (block : String) (binding : Nat)
  | bindStorageBlock (handle : ProgramHandle) (block : String) (binding : Nat)
  | deleteProgram (handle : ProgramHandle)
  | createPipeline (handle : PipelineHandle)
  | attachStage (pipeline : PipelineHandle) (stage : Stage) (program : ProgramHandle)
  | bindPipeline (handle : PipelineHandle)
  | deletePipeline (handle : PipelineHandle)
  | dispatchCompute (groups : Extent)
  | setLabel (target : LabelTarget) (label : String)
  deriving DecidableEq, Repr

end ShaderDepot
