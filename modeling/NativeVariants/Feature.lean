import NativeVariants.Environ
import NativeVariants.Problem
import NativeVariants.Target

set_option autoImplicit false

/-!
Optional features of a build: the compute backends and OpenMP. A request is a list of texts, each
with any number of feature names.
-/

namespace NativeVariants
open Text

inductive Backend where
  | cuda
  | metal
  | vulkan
  | openblas
  | hipblas
  | intelSycl
  deriving DecidableEq, Repr

namespace Backend

def all : List Backend := [cuda, metal, vulkan, openblas, hipblas, intelSycl]

def name : Backend → String
  | cuda => "cuda"
  | metal => "metal"
  | vulkan => "vulkan"
  | openblas => "openblas"
  | hipblas => "hipblas"
  | intelSycl => "intel-sycl"

def suffix : Backend → String
  | cuda => "cuda"
  | metal => "metal"
  | vulkan => "vulkan"
  | openblas => "blas"
  | hipblas => "hip"
  | intelSycl => "sycl"

def switch : Backend → String
  | cuda => "GGML_CUDA"
  | metal => "GGML_METAL"
  | vulkan => "GGML_VULKAN"
  | openblas => "GGML_BLAS"
  | hipblas => "GGML_HIP"
  | intelSycl => "GGML_SYCL"

def settings : Backend → List (String × String)
  | cuda => [("CMAKE_CUDA_FLAGS", "-Xcompiler=-fPIC")]
  | metal => [("GGML_METAL_NDEBUG", "ON"), ("GGML_METAL_EMBED_LIBRARY", "ON")]
  | vulkan => []
  | openblas => [("GGML_BLAS_VENDOR", "OpenBLAS")]
  | hipblas => []
  | intelSycl => [("GGML_SYCL_TARGET", "INTEL")]

def compilers? : Backend → Option (String × String)
  | hipblas => some ("hipcc", "hipcc")
  | intelSycl => some ("icx", "icpx")
  | _ => none

def isAppleOnly : Backend → Bool
  | metal => true
  | _ => false

def kitVariable? : Backend → Option String
  | vulkan => some "VULKAN_SDK"
  | openblas => some "BLAS_INCLUDE_DIRS"
  | _ => none

def requiresVariableOn : Backend → Family → Bool
  | vulkan, family => family ≠ .other
  | _, _ => true

def defines (b : Backend) : List (String × String) :=
  (b.switch, "ON") :: b.settings ++
    match b.compilers? with
    | some (c, cxx) => [("CMAKE_C_COMPILER", c), ("CMAKE_CXX_COMPILER", cxx)]
    | none => []

def named? (name : String) : Option Backend := all.find? (·.name = name)

end Backend

/-- The features that a build is asked for, with the backends in their fixed order. -/
structure Features where
  backends : List Backend
  openmp : Bool
  deriving DecidableEq, Repr

namespace Features

def none : Features := ⟨[], false⟩

def has (features : Features) (b : Backend) : Bool := b ∈ features.backends

def openmpName : String := "openmp"

def known : List String := Backend.all.map (·.name) ++ [openmpName]

def addBackend (features : Features) (b : Backend) : Features :=
  { features with backends := Backend.all.filter fun b' => b' = b || features.has b' }

/-- One more name, which is read in lower case. -/
def add (features : Features) (spelling : String) : Except Problem Features :=
  let name := lower spelling
  if name = openmpName then .ok { features with openmp := true }
  else
    match Backend.named? name with
    | some b => .ok (features.addBackend b)
    | .none => .error (.unknownFeature spelling known)

/-- All names of a request. The first unknown one is reported as it is spelled. -/
def parse (request : List String) : Except Problem Features :=
  (request.flatMap splitList).foldlM add none

def suffixes (features : Features) : List String := features.backends.map (·.suffix)

end Features

end NativeVariants
