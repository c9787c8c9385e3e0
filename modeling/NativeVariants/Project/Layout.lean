import NativeVariants.Datum
import NativeVariants.Failure
import NativeVariants.Metadata.Key

set_option autoImplicit false

/-!
Where a project keeps its parts. All paths are relative to the project's root. A project file may
set any part; values that are no texts count as their texts.
-/

namespace NativeVariants

structure Layout where
  sourceDir : String
  wrapperHeader : String
  outDir : String
  bindingsFile : String
  metadataFile : String
  packageName : String
  deriving DecidableEq, Repr

namespace Layout

def default : Layout where
  sourceDir := "ggml"
  wrapperHeader := "wrapper.h"
  outDir := "build/ggml-tooling"
  bindingsFile := "bindings.py"
  metadataFile := "metadata.json"
  packageName := Metadata.defaultPackage

/-- The text for one part: the default if nothing is set. -/
def part (entries : List (Datum × Datum)) (key default : String) : Except Failure String :=
  match Datum.lookup? entries key with
  | none => .ok default
  | some .null => .ok default
  | some value => if value.isWritable then .ok value.display else .error .badValue

/-- The layout that a mapping describes. Other keys are left out. -/
def ofEntries (entries : List (Datum × Datum)) : Except Failure Layout := do
  return {
    sourceDir := ← part entries "source_dir" default.sourceDir
    wrapperHeader := ← part entries "wrapper_header" default.wrapperHeader
    outDir := ← part entries "out_dir" default.outDir
    bindingsFile := ← part entries "bindings_file" default.bindingsFile
    metadataFile := ← part entries "metadata_file" default.metadataFile
    packageName := ← part entries "package_name" default.packageName }

def toEntries (layout : Layout) : List (String × String) :=
  [("source_dir", layout.sourceDir), ("wrapper_header", layout.wrapperHeader),
    ("out_dir", layout.outDir), ("bindings_file", layout.bindingsFile),
    ("metadata_file", layout.metadataFile), ("package_name", layout.packageName)]

end Layout

end NativeVariants
