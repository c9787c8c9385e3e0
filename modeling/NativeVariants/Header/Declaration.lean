import NativeVariants.Datum

set_option autoImplicit false

/-!
What a reader of C headers reports: the declarations of one unit at top level, and complaints. A
type may be sugar for its canonical type, which is all that counts about it but its spelling.
-/

namespace NativeVariants.Header

inductive Scalar where
  | void
  | bool
  | char
  | signedChar
  | unsignedPlainChar
  | unsignedChar
  | short
  | unsignedShort
  | int
  | unsignedInt
  | long
  | unsignedLong
  | longLong
  | unsignedLongLong
  | float
  | double
  | longDouble
  | wideChar
  deriving DecidableEq, Repr

structure Declared where
  isRecord : Bool
  name : String
  id : Int
  deriving DecidableEq, Repr

def Declared.none : Declared := ⟨false, "", 0⟩

structure TypeHead where
  spelling : String
  declared : Declared
  deriving DecidableEq, Repr

inductive CType where
  | scalar (head : TypeHead) (scalar : Scalar)
  | enumeration (head : TypeHead)
  | pointer (head : TypeHead) (target : CType)
  | array (head : TypeHead) (element : CType) (count : Int)
  | openArray (head : TypeHead) (element : CType)
  | function (head : TypeHead)
  | record (head : TypeHead) (size : Int)
  | other (head : TypeHead)
  | sugar (head : TypeHead) (canonical : CType)
  deriving DecidableEq, Repr

namespace CType

def head : CType → TypeHead
  | scalar head _ => head
  | enumeration head => head
  | pointer head _ => head
  | array head _ _ => head
  | openArray head _ => head
  | function head => head
  | record head _ => head
  | other head => head
  | sugar head _ => head

def spelling (t : CType) : String := t.head.spelling

def canonical : CType → CType
  | sugar _ canonical => canonical
  | t => t

theorem sizeOf_canonical_le (t : CType) : sizeOf t.canonical ≤ sizeOf t := by
  cases t <;> simp only [canonical, sizeOf_sugar, Nat.le_refl]
  omega
where
  sizeOf_sugar : ∀ (h : TypeHead) (c : CType), sizeOf (sugar h c) = 1 + sizeOf h + sizeOf c :=
    fun h c => by simp

end CType

structure Member where
  name : String
  type : CType
  /-- The width of a bit field. -/
  width? : Option Int
  deriving DecidableEq, Repr

/-- What stands in the body of a record. -/
inductive Child where
  | field (name : String) (type : CType) (isBitField : Bool) (width : Int)
  /-- A type that is declared inside, or anything else. -/
  | other
  deriving DecidableEq, Repr

/-- The member that a field is. A width counts only for a bit field. -/
def Child.member? : Child → Option Member
  | field name type isBitField width => some ⟨name, type, if isBitField then some width else none⟩
  | other => none

inductive Declaration where
  /-- The name of a macro and then its body. -/
  | define (name : String) (tokens : List String)
  | function (name : String) (result : CType) (parameters : List CType)
      (hasPrototype variadic : Bool)
  | record (isUnion : Bool) (name : String) (id : Int) (isDefinition : Bool)
      (members : List Member)
  | enumeration (name : String) (values : List (String × Datum))
  | alias (name : String) (type : CType)
  | other

def Declaration.ofRecord (isUnion : Bool) (name : String) (id : Int) (isDefinition : Bool)
    (children : List Child) : Declaration :=
  .record isUnion name id isDefinition (children.filterMap Child.member?)

inductive Severity where
  | ignored
  | note
  | warning
  | error
  | fatal
  deriving DecidableEq, Repr

structure Diagnostic where
  severity : Severity
  message : String
  file? : Option String
  line : Int
  deriving DecidableEq, Repr

def Diagnostic.isError (d : Diagnostic) : Bool := d.severity = .error || d.severity = .fatal

def Diagnostic.location (d : Diagnostic) : String := d.file?.getD "None" ++ s!":{d.line}"

structure HeaderUnit where
  declarations : List Declaration
  diagnostics : List Diagnostic

instance : Inhabited HeaderUnit := ⟨⟨[], []⟩⟩

end NativeVariants.Header
