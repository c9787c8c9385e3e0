import NativeVariants.Artifacts
import NativeVariants.Machine

set_option autoImplicit false

/-!
Copies of a variant's shared libraries next to the programs that load them.
-/

namespace NativeVariants

def firstFile? : List Path → Run (Option Path)
  | [] => return none
  | p :: rest => do if ← Run.isFile p then return some p else firstFile? rest

/-- Copies one library; one that was not built is left out. -/
def stageLibrary (artifacts : Artifacts) (dest : Path) (target : Target) (name : String) :
    Run (Option Path) := do
  match ← firstFile? (artifacts.candidates target name) with
  | none =>
      Run.note .staging s!"Runtime library {name} not found for {artifacts.variant}"
      Run.print s!"⚠️  {artifacts.variant}: runtime library {name} not found, skipping"
      return none
  | some source =>
      let copied := dest.child source.name
      Run.copy source copied
      Run.print s!"📦 Copying {source.name} -> {copied.display}"
      return some copied

/-- Copies the libraries of a variant into a directory, which is made if necessary. -/
def stageLibraries (artifacts : Artifacts) (dest : Path) (target : Target) :
    Run (List Path) := do
  Run.makeDirectories dest
  return (← artifacts.libraries.mapM (stageLibrary artifacts dest target)).filterMap id

end NativeVariants
