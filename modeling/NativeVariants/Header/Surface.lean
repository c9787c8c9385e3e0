import NativeVariants.Header.Expression

set_option autoImplicit false

/-!
The declarations of a header that the bindings offer, in the order in which they were met.
-/

namespace NativeVariants.Header

structure FunctionEntry where
  name : String
  result : Expression
  parameters : List Expression
  isVariadic : Bool
  deriving DecidableEq, Repr

structure FieldEntry where
  name : String
  type : Expression
  width? : Option Int
  deriving DecidableEq, Repr

structure RecordEntry where
  name : String
  fields : List FieldEntry
  /-- Whether only its name is known. -/
  isOpaque : Bool
  isUnion : Bool
  deriving DecidableEq, Repr

structure EnumEntry where
  name : String
  values : Table String Datum
  deriving Repr

structure AliasEntry where
  name : String
  type : Expression
  deriving DecidableEq, Repr

structure Surface where
  functions : List FunctionEntry
  records : List RecordEntry
  enums : List EnumEntry
  aliases : List AliasEntry
  constants : Table String Datum
  deriving Repr

namespace Surface

def empty : Surface := ⟨[], [], [], [], ∅⟩

instance : Inhabited Surface := ⟨empty⟩

def names (s : Surface) : List String :=
  s.constants.keys ++ (s.enums.flatMap fun e => e.name :: e.values.keys) ++
    s.records.map (·.name) ++ s.aliases.map (·.name) ++ s.functions.map (·.name)

def isEmpty (s : Surface) : Bool :=
  s.functions.isEmpty && s.records.isEmpty && s.enums.isEmpty && s.aliases.isEmpty &&
    s.constants.isEmpty

def summary (s : Surface) : String :=
  s!"{s.functions.length} functions, {s.records.length} structs, {s.enums.length} enums, " ++
    s!"{s.aliases.length} typedefs, {s.constants.size} constants"

end Surface

end NativeVariants.Header
