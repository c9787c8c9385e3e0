import NativeVariants.Artifacts
import NativeVariants.BuildConfig

set_option autoImplicit false

/-!
Directives for the linker of the final program. In single-variant mode the build's libraries are
linked directly. In multi-variant mode only search paths are given, and each consumer links the one
variant that it embeds. What the platform and the backends need is linked in either mode.
-/

namespace NativeVariants

inductive LinkDirective where
  | search (path : Path)
  /-- A library of the build. -/
  | library (name : String)
  /-- A library that the platform or a backend provides. -/
  | system (name : String)
  | framework (name : String)
  deriving DecidableEq, Repr

namespace LinkDirective

def kind : LinkDirective → String
  | search _ => "search"
  | library _ => "library"
  | system _ => "system"
  | framework _ => "system"

def modifier : LinkDirective → String
  | search _ => "native"
  | library _ => "dylib"
  | system _ => "dylib"
  | framework _ => "framework"

def value : LinkDirective → String
  | search path => path.display
  | library name => name
  | system name => name
  | framework name => name

def isLibrary : LinkDirective → Bool
  | library _ => true
  | _ => false

def render (d : LinkDirective) : String :=
  match d with
  | search path => s!"link-search=native={path.display}"
  | _ => s!"link-lib={d.modifier}={d.value}"

end LinkDirective

open LinkDirective

def searchBelow (config : BuildConfig) (key below : String) : List LinkDirective :=
  match (config.inputs.get? key).filter (· ≠ "") with
  | some dir => [search ((Path.ofText dir).child below)]
  | none => []

def Backend.links (config : BuildConfig) : Backend → List LinkDirective
  | .openblas =>
      searchBelow config "OPENBLAS_PATH" "lib" ++
        [system (if config.target.isWindows then "libopenblas" else "openblas")]
  | .cuda => ["cublas", "cudart", "culibos"].map system
  | .vulkan =>
      if config.target.isWindows then
        system "vulkan-1" :: searchBelow config "VULKAN_SDK" "Lib"
      else
        system "vulkan" ::
          if config.target.isApple then searchBelow config "VULKAN_SDK" "lib" else []
  | _ => []

/-- Frameworks of the target. Metal's belong to its backend and are asked for on Apple targets
only. -/
def frameworks (config : BuildConfig) : List LinkDirective :=
  if config.target.isApple then
    framework "Accelerate" ::
      if config.has .metal then ["Foundation", "Metal", "MetalKit"].map framework else []
  else []

/-- The libraries of the platform and the backends, whatever the variant. -/
def systemLinks (config : BuildConfig) : List LinkDirective :=
  config.target.cxxRuntime?.toList.map system ++ frameworks config ++
    [Backend.openblas, .cuda, .vulkan].flatMap fun b =>
      if config.has b then b.links config else []

def buildLinks (config : BuildConfig) (sets : List Artifacts) : List LinkDirective :=
  (sets.flatMap fun artifacts =>
    search artifacts.libDir ::
      if config.multiVariant then [] else artifacts.libraries.map library) ++
    systemLinks config

/-- The directives of a consumer, which links exactly one variant. -/
def consumerLinks (artifacts : Artifacts) : List LinkDirective :=
  search artifacts.libDir :: artifacts.linked.map library

end NativeVariants
