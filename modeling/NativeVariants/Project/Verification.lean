import NativeVariants.Build.Pipeline

set_option autoImplicit false

/-!
A check of a project's layout: what a build requires, and the names of the facts that it would
publish.
-/

namespace NativeVariants
open Metadata

def printKeys (package : String) : Run Unit := do
  Run.print s!"📦 Metadata keys published by {package}:"
  Run.print "  single-variant:"
  (expectedKeys package [Variant.default]).forM fun key => Run.print s!"    {key}"
  Run.print "  multi-variant:"
  (expectedKeys package Variant.registered).forM fun key => Run.print s!"    {key}"

def countMissing (paths : List Path) : Run Nat := do
  let missing ← paths.filterMapM fun p => do
    if ← Run.present p then
      Run.print s!"✅ {p.display}"
      return none
    else
      Run.complain s!"❌ {p.display} not found"
      return some p
  return missing.length

def reportLayout (root : Path) (file : ProjectFile) : Run Nat := do
  let paths ← ProjectPaths.resolve root file.layout none
  let config := paths.projectRoot.child ProjectFile.name
  if ← Run.isFile config then Run.print s!"✅ {config.display}"
  else Run.print s!"⚠️  {ProjectFile.name} not found, using default layout"
  let missing ← countMissing paths.required
  printKeys paths.packageName
  if missing ≠ 0 then
    Run.complain
      s!"❌ {missing} required path(s) missing under {paths.projectRoot.display}"
    return 1
  else
    Run.print "✅ Source layout OK"
    return 0

/-- Checks a project. The result is an exit status. -/
def verify (root : Path) : Run Nat := do
  let file? ←
    try
      let file ← ProjectFile.load root
      Run.ofReported (Variant.validate Variant.registered)
      pure (some file)
    catch
      | .problem problem => do
          printProblem problem
          pure none
      | failure => throw failure
  match file? with
  | none => return 1
  | some file => reportLayout root file

end NativeVariants
