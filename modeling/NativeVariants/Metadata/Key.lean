import NativeVariants.Environ
import NativeVariants.Variant

set_option autoImplicit false

/-!
Names of published facts. A name begins with the package that publishes; the facts of a variant
other than the default one also name the variant.
-/

namespace NativeVariants.Metadata

def defaultPackage : String := "ggml-tooling"

inductive Field where
  | libDir
  | binDir
  | basename
  deriving DecidableEq, Repr

namespace Field

def all : List Field := [libDir, binDir, basename]

def name : Field → String
  | libDir => "LIB_DIR"
  | binDir => "BIN_DIR"
  | basename => "BASENAME"

def named? (name : String) : Option Field := all.find? (·.name = name)

end Field

def packageLead (package : String) : String := "DEP_" ++ envKey package

def includeKey (package : String) : String := packageLead package ++ "_INCLUDE"

def variantLead (package variant : String) : String :=
  if variant = Variant.default.name then packageLead package
  else s!"{packageLead package}_{envKey defaultBasename}_{envKey variant}"

def variantKey (package variant : String) (field : Field) : String :=
  s!"{variantLead package variant}_{field.name}"

def variantKeyNamed (package variant field : String) : Except Problem String :=
  match Field.named? field with
  | some f => .ok (variantKey package variant f)
  | none =>
      .error (.metadataKey s!"{variantLead package variant}_{envKey field}"
        ("Per-variant fields: " ++ ", ".intercalate (Field.all.map (·.name))))

def expectedKeys (package : String) (variants : List Variant) : List String :=
  includeKey package ::
    variants.flatMap fun v => Field.all.map (variantKey package v.name)

end NativeVariants.Metadata
