import NativeVariants.Header.Surface

set_option autoImplicit false

/-!
The bindings module as text. It declares types and signatures only; a caller opens the library and
hands it over. Classes of records come before all layouts, so that fields may refer to any of them.
-/

namespace NativeVariants.Bindings
open Header

def imports : List String :=
  ["POINTER", "Structure", "Union", "c_bool", "c_byte", "c_char", "c_char_p", "c_double",
    "c_float", "c_int", "c_long", "c_longdouble", "c_longlong", "c_short", "c_ubyte", "c_uint",
    "c_ulong", "c_ulonglong", "c_ushort", "c_void_p", "c_wchar"]

def opening (source : String) : List String :=
  ["\"\"\"ctypes declarations for the ggml public API.", "",
    s!"Generated by ggml-tooling from {source}. Do not edit.", "",
    "Usage:", "    lib = ctypes.CDLL(path_to_ggml)", "    bind(lib)", "\"\"\"", "",
    "from ctypes import ("] ++
    imports.map (fun name => s!"    {name},") ++ [")", ""]

def constantLine (entry : String × Datum) : String := s!"{entry.1} = {entry.2.quoted}"

/-- A part under a heading; nothing if it is empty. -/
def part (heading : String) (lines : List String) : List String :=
  if lines.isEmpty then [] else ["", heading, ""] ++ lines

def enumLines (e : EnumEntry) : List String :=
  s!"{e.name} = c_int" :: e.values.entries.map constantLine ++ [""]

def classLines (r : RecordEntry) : List String :=
  let base := if r.isUnion then "Union" else "Structure"
  ["", s!"class {r.name}({base}):", "    pass", ""]

def aliasLine (a : AliasEntry) : String := s!"{a.name} = {a.type.render}"

def fieldLine (f : FieldEntry) : String :=
  let width :=
    match f.width? with
    | none => ""
    | some width => s!", {width}"
  s!"    ({Text.quoted f.name}, {f.type.render}{width}),"

def layoutLines (r : RecordEntry) : List String :=
  s!"{r.name}._fields_ = [" :: r.fields.map fieldLine ++ ["]"]

def functionLine (f : FunctionEntry) : String :=
  let parameters := ", ".intercalate (f.parameters.map (·.render))
  let note := if f.isVariadic then "  # variadic" else ""
  s!"    {Text.quoted f.name}: ([{parameters}], {f.result.render}),{note}"

def functionLines (functions : List FunctionEntry) : List String :=
  ["", "# Functions: name -> (argtypes, restype)", "", "_FUNCTIONS = \x7b"] ++
    functions.map functionLine ++ ["\x7d"]

def closing : List String :=
  ["", "", "def bind(lib):",
    "    \"\"\"Set argtypes and restype on every known function lib exports. Returns lib.\"\"\"",
    "    for name, (argtypes, restype) in _FUNCTIONS.items():",
    "        fn = getattr(lib, name, None)",
    "        if fn is None:",
    "            continue",
    "        fn.argtypes = argtypes",
    "        fn.restype = restype",
    "    return lib",
    ""]

def lines (s : Surface) (source : String) : List String :=
  opening source ++
    part "# Constants" (s.constants.entries.map constantLine) ++
    part "# Enums" (s.enums.flatMap enumLines) ++
    part "# Structures" (s.records.flatMap classLines) ++
    part "# Type aliases" (s.aliases.map aliasLine) ++
    part "# Structure layouts" ((s.records.filter (!·.isOpaque)).flatMap layoutLines) ++
    functionLines s.functions ++ closing

def isRenderable (s : Surface) : Bool :=
  s.constants.entries.all (·.2.isWritable) &&
    s.enums.all fun e => e.values.entries.all (·.2.isWritable)

def render (s : Surface) (source : String) : String := "\n".intercalate (lines s source)

end NativeVariants.Bindings
