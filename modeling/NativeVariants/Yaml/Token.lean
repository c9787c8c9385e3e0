set_option autoImplicit false

/-!
The tokens of a document. Starts and ends of block collections are tokens of their own; they come
from the indentation.
-/

namespace NativeVariants.Yaml

inductive Directive where
  | version (major minor : Nat)
  | tag (handle lead : String)
  | other
  deriving DecidableEq, Repr

inductive Token where
  | directive (d : Directive)
  | documentStart
  | documentEnd
  | streamEnd
  | blockSequenceStart
  | blockMappingStart
  | blockEnd
  | flowSequenceStart
  | flowSequenceEnd
  | flowMappingStart
  | flowMappingEnd
  | blockEntry
  | flowEntry
  | key
  | value
  | alias (name : String)
  | anchor (name : String)
  /-- A tag with its handle; a verbatim tag has none. -/
  | tag (handle? : Option String) (suffix : String)
  | scalar (text : String) (plain : Bool)
  deriving DecidableEq, Repr, Inhabited

end NativeVariants.Yaml
