import NativeVariants.PackageConfig
import NativeVariants.Pattern.Reader
import NativeVariants.Problem
import NativeVariants.Yaml.Input

set_option autoImplicit false

/-!
Everything that can end a run early. A problem is reported to the user; the other failures come
from values of an unexpected kind and from the file system, and end the run at once.
-/

namespace NativeVariants

inductive FileFault where
  | notFound
  | alreadyExists
  | isDirectory
  | notDirectory
  | sameFile
  | denied
  | refused
  /-- A directory that is in use as the current one or as a parent cannot be replaced. -/
  | busy
  deriving DecidableEq, Repr

inductive Failure where
  | problem (problem : Problem)
  /-- A value of a kind that cannot be used where it stands. -/
  | wrongKind
  /-- A value of the right kind that cannot be used. -/
  | badValue
  /-- A record that has no named members. -/
  | noMembers
  | unknownWord
  | outOfBounds
  | outOfRange
  | undecodable
  | badPattern
  | file (fault : FileFault)
  deriving DecidableEq, Repr

namespace Failure

/-- A malformed document is reported as a problem where it is read; its other faults are failures
of their own. -/
def ofYaml (path detail : String) : Yaml.Fault → Failure
  | .malformed => .problem (.malformedProjectFile path detail)
  | .badValue => .badValue
  | .outOfRange => .outOfRange
  | .unknownWord => .unknownWord
  | .emptyNumeral => .outOfBounds
  | .noMatch => .noMembers

def ofPattern : Pattern.Fault → Failure
  | .malformed => .badPattern
  | .tooMany => .outOfRange

def ofPackageConfig : PackageConfig.Fault → Failure
  | .badTemplate .malformed => .badPattern
  | .badTemplate .unknownName => .outOfBounds
  | .missingTarget => .outOfBounds
  | .numeralTooLong => .badValue

end Failure

def reported {α : Type} (result : Except Problem α) : Except Failure α :=
  result.mapError .problem

end NativeVariants
