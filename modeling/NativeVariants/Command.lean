import NativeVariants.Datum
import NativeVariants.Defines
import NativeVariants.Path

set_option autoImplicit false

/-!
The three commands that build a variant: configure, build and install.
-/

namespace NativeVariants

abbrev Command := List String

namespace Command

def configure (tool : String) (sourceDir buildDir : Path) (defines : Table String String) :
    Command :=
  [tool, "-S", sourceDir.display, "-B", buildDir.display] ++ Defines.arguments defines

def processors (cpuCount? : Option Nat) : Nat :=
  match cpuCount? with
  | none => 1
  | some n => max n 1

/-- How many jobs run side by side: as many as asked for if that is a number above zero; else, or if
nothing is asked for, one for each processor. Other values than numbers cannot be asked for. -/
def parallelJobs? (jobs : Datum) (cpuCount? : Option Nat) : Option Datum :=
  if jobs.isPresent then
    jobs.isPositive?.map fun positive => if positive then jobs else .int (processors cpuCount?)
  else some (.int (processors cpuCount?))

def build (tool : String) (buildDir : Path) (jobs : Datum) (buildType : String) : Command :=
  [tool, "--build", buildDir.display, "--config", buildType, "--parallel", jobs.display]

def install (tool : String) (buildDir : Path) (buildType : String) : Command :=
  [tool, "--install", buildDir.display, "--config", buildType]

def display (command : Command) : String := " ".intercalate command

end Command

def Variant.installDir (outDir : Path) (v : Variant) : Path := outDir.child v.name

end NativeVariants
