import NativeVariants.BuildConfig
import NativeVariants.Variant

set_option autoImplicit false

/-!
The defines of one variant. The base values give way to those of the configuration, and both to the
pinned ones, which decide where the libraries go and what they are called.
-/

namespace NativeVariants

namespace Defines

def defaultBuildType : String := "Release"

def base : List (String × String) :=
  [("BUILD_SHARED_LIBS", "ON"), ("CMAKE_BUILD_TYPE", defaultBuildType),
    ("CMAKE_POSITION_INDEPENDENT_CODE", "ON"), ("CMAKE_INSTALL_LIBDIR", "lib"),
    ("CMAKE_INSTALL_BINDIR", "bin"), ("GGML_ALL_WARNINGS", "OFF"),
    ("GGML_ALL_WARNINGS_3RD_PARTY", "OFF"), ("GGML_BUILD_TESTS", "OFF"),
    ("GGML_BUILD_EXAMPLES", "OFF")]

def nameKey : String := "GGML_NAME"

def pinned (v : Variant) (installDir : String) : List (String × String) :=
  [("BUILD_SHARED_LIBS", "ON"), ("CMAKE_INSTALL_PREFIX", installDir),
    ("CMAKE_INSTALL_LIBDIR", "lib"), ("CMAKE_INSTALL_BINDIR", "bin")] ++
    if v.isNamespaced then [(nameKey, v.basename)] else []

/-- The base values and the configuration's. A library name is only for namespaced variants. -/
def unpinned (config : BuildConfig) (v : Variant) : Table String String :=
  let all := (Table.ofList base).setAll config.defines.entries
  if v.isNamespaced then all else all.erase nameKey

def ofVariant (config : BuildConfig) (v : Variant) (installDir : String) : Table String String :=
  (unpinned config v).setAll (pinned v installDir)

def warnings (config : BuildConfig) (v : Variant) (installDir : String) : List String :=
  (if !v.isNamespaced && config.defines.contains nameKey then
    [s!"Ignoring {nameKey} from the environment for the {v.name} variant"]
  else []) ++
  (pinned v installDir).filterMap fun (key, value) =>
    match (unpinned config v).get? key with
    | none => none
    | some other =>
        if other = value then none
        else some s!"Ignoring {key}={other} from the environment for variant {v.name}"

def buildType (defines : Table String String) : String :=
  match defines.get? "CMAKE_BUILD_TYPE" with
  | none => defaultBuildType
  | some value => if value = "" then defaultBuildType else value

def arguments (defines : Table String String) : List String :=
  defines.entries.map fun (key, value) => s!"-D{key}={value}"

end Defines

end NativeVariants
