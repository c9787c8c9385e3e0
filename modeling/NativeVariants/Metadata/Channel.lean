import NativeVariants.Artifacts
import NativeVariants.Json.Text
import NativeVariants.Metadata.Key

set_option autoImplicit false

/-!
The facts that a build publishes for later builds. They are collected while the build runs; the
three facts of a variant are taken together or not at all, and no fact ever changes.
-/

namespace NativeVariants.Metadata

structure Channel where
  package : String
  values : Table String String
  deriving DecidableEq, Repr

namespace Channel

def empty (package : String) : Channel := ⟨package, ∅⟩

/-- The first entry that contradicts what is already known. -/
def conflict? (values : Table String String) (items : List (String × String)) : Option Problem :=
  items.findSome? fun (key, value) =>
    match values.get? key with
    | none => none
    | some old => if old = value then none else some (.metadataConflict key old value)

/-- Takes all of the entries, or none if one of them contradicts what is known. -/
def stage (channel : Channel) (items : List (String × String)) : Except Problem Channel :=
  match conflict? channel.values items with
  | some problem => .error problem
  | none => .ok { channel with values := channel.values.setAll items }

def includeItems (package : String) (includeDir : Path) : List (String × String) :=
  [(includeKey package, includeDir.display)]

def variantItems (package : String) (artifacts : Artifacts) : List (String × String) :=
  [(variantKey package artifacts.variant .libDir, artifacts.libDir.display),
    (variantKey package artifacts.variant .binDir, artifacts.binDir.display),
    (variantKey package artifacts.variant .basename, artifacts.basename)]

def publishInclude (channel : Channel) (includeDir : Path) : Except Problem Channel :=
  channel.stage (includeItems channel.package includeDir)

def publishVariant (channel : Channel) (artifacts : Artifacts) : Except Problem Channel :=
  channel.stage (variantItems channel.package artifacts)

/-- The facts as variables for the next build. -/
def toEnviron (channel : Channel) : Environ := channel.values.sorted

def writeEntry (entry : String × String) : String :=
  "    " ++ Json.writeText entry.1 ++ ": " ++ Json.writeText entry.2

/-- The record as a file holds it: the same facts are always the same text. -/
def render (channel : Channel) : String :=
  let values :=
    match channel.values.sorted.entries with
    | [] => "\x7b\x7d"
    | entries => "\x7b\n" ++ ",\n".intercalate (entries.map writeEntry) ++ "\n  \x7d"
  "\x7b\n  \"package\": " ++ Json.writeText channel.package ++ ",\n  \"values\": " ++ values ++
    "\n\x7d\n"

end Channel

end NativeVariants.Metadata
