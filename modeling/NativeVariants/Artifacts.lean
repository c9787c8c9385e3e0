import NativeVariants.Path
import NativeVariants.Target
import NativeVariants.Variant

set_option autoImplicit false

/-!
What the build of one variant leaves behind. The headers are shared by all variants; libraries and
executables are in directories of the variant's own.
-/

namespace NativeVariants

structure Artifacts where
  variant : String
  basename : String
  includeDir : Path
  libDir : Path
  binDir : Path
  libraries : List String
  deriving DecidableEq, Repr

namespace Artifacts

/-- Where the shared library of a name may have been installed, the first choice first. -/
def candidates (artifacts : Artifacts) (target : Target) (name : String) : List Path :=
  let file := target.sharedLibrary name
  if target.isWindows then [artifacts.binDir.child file, artifacts.libDir.child file]
  else [artifacts.libDir.child file]

/-- The libraries that a program links. A set without a list stands for its primary library. -/
def linked (artifacts : Artifacts) : List String :=
  if artifacts.libraries.isEmpty then [artifacts.basename] else artifacts.libraries

end Artifacts

end NativeVariants
