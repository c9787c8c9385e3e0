import NativeVariants.Header.Declaration
import NativeVariants.Table
import NativeVariants.Text.Blank

set_option autoImplicit false

/-!
Types as the bindings express them. A record is named by its class if it has one; behind a pointer
it may stay unknown, and by value it is a row of bytes.
-/

namespace NativeVariants.Header

inductive Expression where
  | named (name : String)
  | pointer (target : Expression)
  | array (element : Expression) (count : Int)
  /-- A type that the bindings cannot express. -/
  | unmapped (spelling : String)
  deriving DecidableEq, Repr

namespace Expression

def untypedPointer : Expression := .named "c_void_p"

def render : Expression → String
  | named name => name
  | pointer target => s!"POINTER({target.render})"
  | array element count => s!"({element.render} * {count})"
  | unmapped _ => "c_void_p"

/-- Spellings of the types that could not be expressed, in the order in which they are met. -/
def unmappedSpellings : Expression → List String
  | named _ => []
  | pointer target => target.unmappedSpellings
  | array element _ => element.unmappedSpellings
  | unmapped spelling => [spelling]

end Expression

def Scalar.expression : Scalar → String
  | void => "None"
  | bool => "c_bool"
  | char => "c_char"
  | signedChar => "c_byte"
  | unsignedPlainChar => "c_ubyte"
  | unsignedChar => "c_ubyte"
  | short => "c_short"
  | unsignedShort => "c_ushort"
  | int => "c_int"
  | unsignedInt => "c_uint"
  | long => "c_long"
  | unsignedLong => "c_ulong"
  | longLong => "c_longlong"
  | unsignedLongLong => "c_ulonglong"
  | float => "c_float"
  | double => "c_double"
  | longDouble => "c_longdouble"
  | wideChar => "c_wchar"

def Scalar.isCharacter : Scalar → Bool
  | char => true
  | signedChar => true
  | unsignedPlainChar => true
  | _ => false

/-- The records that have a class in the bindings. -/
structure Known where
  records : List String
  /-- Names that a type alias gave to records without a tag, by the declaration's id. -/
  anonymous : Table Int String
  deriving DecidableEq, Repr

def Known.empty : Known := ⟨[], ∅⟩

/-- A spelling without the leading words that are no part of the name. -/
def dropWords (fuel : Nat) (words : List String) (spelling : List Char) : List Char :=
  match fuel, words with
  | 0, _ => spelling
  | _, [] => spelling
  | fuel + 1, word :: rest =>
      if word.toList.isPrefixOf spelling then
        dropWords fuel (word :: rest) (spelling.drop word.length)
      else dropWords fuel rest spelling

def bareName (spelling : String) : String :=
  let words := ["const ", "volatile ", "struct ", "union ", "enum "]
  String.ofList
    (Text.stripChars (dropWords (words.length + spelling.length) words spelling.toList))

/-- What a record type is called where it stands: its tag, or what its spelling says. -/
def TypeHead.ownName (head : TypeHead) : String :=
  if head.declared.name ≠ "" then head.declared.name else bareName head.spelling

/-- The name of a record type: the one an alias gave, if any, or its own. -/
def Known.recordName (known : Known) (t : CType) : String :=
  let given := (known.anonymous.get? t.head.declared.id).getD ""
  if given ≠ "" then given else t.head.ownName

def Known.isKnown (known : Known) (t : CType) : Bool := known.recordName t ∈ known.records

def pointerTo? (known : Known) (pointee : CType) : Option Expression :=
  match pointee with
  | .scalar _ .void => some .untypedPointer
  | .scalar _ scalar => if scalar.isCharacter then some (.named "c_char_p") else none
  | .function _ => some .untypedPointer
  | .record _ _ => if known.isKnown pointee then none else some .untypedPointer
  | _ => none

/-- A record by value: its class, or as many bytes as it has. -/
def recordValue (known : Known) (spelling : String) (t : CType) (size : Int) : Expression :=
  if known.isKnown t then .named (known.recordName t)
  else if size > 0 then .array (.named "c_ubyte") size
  else .unmapped spelling

def canonicalExpression (known : Known) (spelling : String) (t : CType) : Expression :=
  match t with
  | .scalar _ scalar => .named scalar.expression
  | .enumeration _ => .named "c_int"
  | .pointer _ target =>
      let pointee := target.canonical
      match pointerTo? known pointee with
      | some e => e
      | none => .pointer (canonicalExpression known pointee.spelling pointee.canonical)
  | .array _ element count =>
      .array (canonicalExpression known element.spelling element.canonical) count
  | .openArray _ element =>
      .pointer (canonicalExpression known element.spelling element.canonical)
  | .record head size => recordValue known spelling (.record head size) size
  | .function _ => .unmapped spelling
  | .other _ => .unmapped spelling
  | .sugar _ _ => .unmapped spelling
termination_by sizeOf t
decreasing_by
  all_goals simp only [CType.pointer.sizeOf_spec, CType.array.sizeOf_spec,
    CType.openArray.sizeOf_spec]
  · have := CType.sizeOf_canonical_le target
    have := CType.sizeOf_canonical_le target.canonical
    omega
  · have := CType.sizeOf_canonical_le element
    omega
  · have := CType.sizeOf_canonical_le element
    omega

def CType.expression (known : Known) (t : CType) : Expression :=
  canonicalExpression known t.spelling t.canonical

end NativeVariants.Header
