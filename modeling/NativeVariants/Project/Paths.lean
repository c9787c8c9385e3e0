import NativeVariants.Machine
import NativeVariants.Project.Layout

set_option autoImplicit false

/-!
The places of a build: where its sources are expected and where its results go.
-/

namespace NativeVariants

structure ProjectPaths where
  projectRoot : Path
  sourceDir : Path
  includeDir : Path
  wrapperHeader : Path
  outDir : Path
  bindings : Path
  metadata : Path
  packageName : String
  deriving DecidableEq, Repr

namespace ProjectPaths

/-- The places of a project. An output directory that is given replaces the layout's and is seen
from the working directory, not from the project's root. -/
def resolve (projectRoot : Path) (layout : Layout) (outDir? : Option Path) :
    Run ProjectPaths := do
  let root ← Run.resolve projectRoot
  let sourceDir ← Run.resolve (root.child layout.sourceDir)
  let outDir ← Run.resolve (outDir?.getD (root.child layout.outDir))
  return {
    projectRoot := root
    sourceDir
    includeDir := sourceDir.child "include"
    wrapperHeader := ← Run.resolve (root.child layout.wrapperHeader)
    outDir
    bindings := outDir.child layout.bindingsFile
    metadata := outDir.child layout.metadataFile
    packageName := layout.packageName }

def required (paths : ProjectPaths) : List Path :=
  [paths.sourceDir, paths.sourceDir.child "CMakeLists.txt", paths.includeDir.child "ggml.h",
    paths.includeDir.child "gguf.h", paths.wrapperHeader]

/-- Reports the first required path that does not exist. -/
def check (paths : ProjectPaths) : Run Unit :=
  paths.required.forM fun p => do
    if !(← Run.present p) then
      throw (.problem (.missingSource p.display paths.sourceDir.display))

end ProjectPaths

end NativeVariants
