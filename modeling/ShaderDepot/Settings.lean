/-!
# Settings

What can be tuned in a depot of shaders.  Each setting has a default.
-/

namespace ShaderDepot

structure Settings where
  /-- The version of files without a `#version` line. -/
  defaultVersion : String := "450 core"
  /-- The text after the version line of every unit. -/
  sharedHeader : String := "#extension GL_ARB_separate_shader_objects : enable"
  /-- Whether the command line watches for changes. -/
  watchForChanges : Bool := true
  /-- Whether a program that fails to compile is shown with numbered lines. -/
  listOnError : Bool := false
  /-- The folder of the sources, seen from the settings file. -/
  sourceRoot : String := "shaders"
  deriving DecidableEq, Repr, Inhabited

end ShaderDepot
