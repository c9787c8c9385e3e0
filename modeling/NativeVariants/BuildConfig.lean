import NativeVariants.Feature

set_option autoImplicit false

/-!
Build configurations: the features, the target and what the environment contributes to a build.
`BuildConfig.resolve` is the only way to one; it says which requests can be built.
-/

namespace NativeVariants

structure BuildConfig where
  target : Target
  features : Features
  multiVariant : Bool
  /-- Locations of kits and optional inputs. -/
  inputs : Table String String
  /-- Defines that are forwarded as they are. -/
  forwarded : Table String String
  deriving DecidableEq, Repr

structure BuildRequest where
  features : List String
  target : Target
  multiVariant : Bool
  environ : Environ
  /-- Whether a build follows, so that its demands matter. -/
  validate : Bool

def optionalVariables : List String := ["AMDGPU_TARGETS", "OPENBLAS_PATH"]

/-- Whether a variable is forwarded: it has the form of a define, and is no switch of this
program. -/
def isForwarded (key : String) : Bool :=
  ("GGML_".isPrefixOf key || "CMAKE_".isPrefixOf key) && !"GGML_TOOLING_".isPrefixOf key

namespace BuildConfig

def has (config : BuildConfig) (b : Backend) : Bool := config.features.has b

/-- Suffixes of the enabled backends, then those that the target adds. -/
def librarySuffixes (config : BuildConfig) : List String :=
  let suffixes := config.features.suffixes
  suffixes ++ config.target.librarySuffixes.filter (· ∉ suffixes)

/-- The defines that no backend sets but the platform or the chosen features do. -/
def platformDefines (config : BuildConfig) : List (String × String) :=
  (if config.target.isApple && !config.has .metal then [("GGML_METAL", "OFF")] else []) ++
  (if config.features.openmp then [] else [("GGML_OPENMP", "OFF")]) ++
  (if config.has .openblas then
    [("BLAS_INCLUDE_DIRS", (config.inputs.get? "BLAS_INCLUDE_DIRS").getD "")]
  else []) ++
  (match (config.inputs.get? "AMDGPU_TARGETS").filter (· ≠ "") with
    | some value => if config.has .hipblas then [("AMDGPU_TARGETS", value)] else []
    | none => []) ++
  (if config.target.isMsvc then [("CMAKE_CXX_FLAGS", "/utf-8")] else [])

/-- The defines of the backends, the platform and the environment. A later one replaces an earlier
one of the same key. -/
def defines (config : BuildConfig) : Table String String :=
  Table.ofList
    (config.features.backends.flatMap Backend.defines ++ config.platformDefines ++
      config.forwarded.entries)

/-- Two backends cannot choose the compiler at the same time. -/
def checkCompilers (features : Features) : Except Problem Unit :=
  let choosing := features.backends.filter (·.compilers?.isSome)
  if choosing.length > 1 then .error (.conflictingFeatures (choosing.map (·.name))) else .ok ()

def requiredInput (environ : Environ) (target : Target) (b : Backend) :
    Except Problem (List (String × String)) :=
  if b.isAppleOnly && target.family ≠ .apple then
    .error (.appleOnlyFeature b.name target.triple)
  else
    match b.kitVariable? with
    | none => .ok []
    | some key =>
        if b.requiresVariableOn target.family then
          match environ.nonEmpty? key with
          | some value => .ok [(key, value)]
          | none => .error (.missingVariable b.name key)
        else .ok []

def presentInputs (environ : Environ) (keys : List String) : List (String × String) :=
  keys.filterMap fun key => (environ.nonEmpty? key).map (key, ·)

/-- What the backends take from the environment. Without validation nothing is required. -/
def backendInputs (request : BuildRequest) (features : Features) :
    Except Problem (List (String × String)) :=
  if request.validate then
    return (← features.backends.mapM (requiredInput request.environ request.target)).flatten
  else return presentInputs request.environ (features.backends.filterMap (·.kitVariable?))

/-- The configuration for a request. Nothing but the environment is consulted. -/
def resolve (request : BuildRequest) : Except Problem BuildConfig := do
  if request.target.triple = "" then throw .missingTarget
  let features ← Features.parse request.features
  if request.validate then checkCompilers features
  let inputs ← backendInputs request features
  let optional := presentInputs request.environ optionalVariables
  return {
    target := request.target
    features
    multiVariant := request.multiVariant
    inputs := (Table.ofList (inputs ++ optional)).sorted
    forwarded := (request.environ.filter isForwarded).sorted }

end BuildConfig

end NativeVariants
