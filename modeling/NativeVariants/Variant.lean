import NativeVariants.Problem

set_option autoImplicit false

/-!
Namespaced variants of the native library. Each variant is built under its own basename, so that
two consumers can link their own copy into one program without duplicate symbols.
-/

namespace NativeVariants

def defaultBasename : String := "ggml"

/-- Libraries that every build produces after the primary one. -/
def coreModules : List String := ["base", "cpu"]

structure Variant where
  name : String
  basename : String
  deriving DecidableEq, Repr

namespace Variant

def isNamespaced (v : Variant) : Bool := v.basename ≠ defaultBasename

/-- The primary library, the core modules, then one module for each backend suffix. -/
def libraryNames (v : Variant) (suffixes : List String) : List String :=
  v.basename :: (coreModules ++ suffixes).map (v.basename ++ "-" ++ ·)

/-- The variants that are built in multi-variant mode unless others are given. -/
def registered : List Variant := [⟨"llama", "ggml_llama"⟩, ⟨"whisper", "ggml_whisper"⟩]

/-- The only build in single-variant mode, under the plain names. -/
def default : Variant := ⟨"default", defaultBasename⟩

/-- The first fault of a registry: a name or basename that occurs before, or the basename of the
default build. -/
def registryFault? (names basenames : List String) : List Variant → Option Problem
  | [] => none
  | v :: rest =>
      if v.name ∈ names then some (.duplicateVariantName v.name)
      else if v.basename ∈ basenames then some (.duplicateVariantBasename v.basename v.name)
      else if v.basename = defaultBasename then some (.reservedBasename v.name v.basename)
      else registryFault? (v.name :: names) (v.basename :: basenames) rest

/-- Names and basenames are unique, and no basename is the one of the default build. -/
def validate (variants : List Variant) : Except Problem Unit :=
  match registryFault? [] [] variants with
  | some problem => .error problem
  | none => .ok ()

def find (name : String) (variants : List Variant) : Except Problem Variant :=
  match variants.find? (·.name = name) with
  | some v => .ok v
  | none => .error (.unknownVariant name (variants.map (·.name)))

def forMode (multiVariant : Bool) (variants : List Variant) : Except Problem (List Variant) := do
  if multiVariant then
    validate variants
    return variants
  else return [default]

end Variant

end NativeVariants
