import NativeVariants.Machine
import NativeVariants.Project.Layout
import NativeVariants.Yaml.Document

set_option autoImplicit false

/-!
The project file: it sets the layout and some options of a build. A project without one has the
default layout and no options.
-/

namespace NativeVariants

structure ProjectFile where
  layout : Layout
  /-- The options that the file sets, in a fixed order. -/
  options : List (String × Datum)
  deriving Repr

namespace ProjectFile

def name : String := "ggml-tooling.yaml"

def optionKeys : List String := ["features", "multi_variant", "jobs", "allowlist"]

/-- What is shown in place of the exact fault of a malformed file. -/
def faultMark : String := "<yaml>"

def ofEntries (entries : List (Datum × Datum)) : Except Failure ProjectFile := do
  let options := optionKeys.filterMap fun key => (Datum.lookup? entries key).map (key, ·)
  return ⟨← Layout.ofEntries entries, options⟩

/-- The content of a file. An empty file sets nothing. -/
def ofText (path text : String) : Except Failure ProjectFile := do
  match ← (Yaml.load text).mapError (.ofYaml path faultMark) with
  | .null => ofEntries []
  | .map entries => ofEntries entries
  | _ => throw (.problem (.projectFileNotMapping path))

def option? (file : ProjectFile) (key : String) : Option Datum := file.options.lookup key

def load (root : Path) : Run ProjectFile := do
  let path := root.child name
  if ← Run.isFile path then ofExcept (ofText path.display (← Run.readText path))
  else ofExcept (ofEntries [])

end ProjectFile

end NativeVariants
