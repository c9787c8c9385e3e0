import NativeVariants.Datum
import NativeVariants.Failure
import NativeVariants.Pattern.Matching
import NativeVariants.Pattern.Reader

set_option autoImplicit false

/-!
Which names make it into the bindings. For each kind of name there is a list of patterns, of which
one has to match the whole name. A pattern that comes from a configuration may be any scalar, and
counts as its text.
-/

namespace NativeVariants.Header

structure Allowlist where
  functions : List Datum
  types : List Datum
  constants : List Datum
  deriving Repr

namespace Allowlist

def default : Allowlist where
  functions := [.text "ggml_.*", .text "gguf_.*"]
  types := [.text "ggml_.*", .text "gguf_.*"]
  constants := [.text "GGML_.*", .text "GGUF_.*"]

instance : Inhabited Allowlist := ⟨default⟩

/-- The patterns of both lists, kind by kind. -/
def extend (a b : Allowlist) : Allowlist :=
  ⟨a.functions ++ b.functions, a.types ++ b.types, a.constants ++ b.constants⟩

def alternatives (patterns : List Datum) : String :=
  "|".intercalate (patterns.map fun p => "(?:" ++ p.display ++ ")")

/-- The pattern for a list, without its empty members; there is none if nothing is left. -/
def compile (patterns : List Datum) : Except Failure (Option Pattern) := do
  if !patterns.all Datum.isKey then throw .wrongKind
  let used := patterns.filter Datum.isPresent
  if used.isEmpty then return none
  if !used.all Datum.isWritable then throw .badValue
  return some (← (Pattern.read (alternatives used)).mapError .ofPattern)

/-- Whether a name is accepted. The empty name never is. -/
def accepts (patterns : List Datum) (name : String) : Except Failure Bool := do
  match ← compile patterns with
  | none => return false
  | some p => return name ≠ "" && p.matchesAll name

def acceptsFunction (a : Allowlist) (name : String) : Except Failure Bool :=
  accepts a.functions name

def acceptsType (a : Allowlist) (name : String) : Except Failure Bool := accepts a.types name

def acceptsConstant (a : Allowlist) (name : String) : Except Failure Bool :=
  accepts a.constants name

end Allowlist

end NativeVariants.Header
