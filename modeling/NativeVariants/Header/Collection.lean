import NativeVariants.Header.Allowlist
import NativeVariants.Header.Literal
import NativeVariants.Header.Surface

set_option autoImplicit false

/-!
From the declarations of a unit to the surface of the bindings. A first pass finds out which records
have a class, so that any type may refer to any of them; a second one collects the declarations
that the allowlist accepts. What is known about records is kept from unit to unit.
-/

namespace NativeVariants.Header

structure Progress where
  known : Known
  surface : Surface
  /-- Spellings of types that could not be expressed. -/
  unmapped : List String

/-- A step of a collection. What was found before a failure is kept. -/
abbrev Collect := ExceptT Failure (StateM Progress)

namespace Collect

def modifyKnown (f : Known → Known) : Collect Unit :=
  modify fun progress => { progress with known := f progress.known }

def modifySurface (f : Surface → Surface) : Collect Unit :=
  modify fun progress => { progress with surface := f progress.surface }

def express (t : CType) : Collect Expression := do
  let e := t.expression (← get).known
  modify fun progress => { progress with unmapped := progress.unmapped ++ e.unmappedSpellings }
  return e

end Collect

/-- Whether a record has no tag. Some readers of headers spell that out. -/
def isUntagged (name : String) : Bool :=
  name = "" || occursIn "(unnamed".toList name.toList || occursIn "(anonymous".toList name.toList

def Known.addRecord (known : Known) (name : String) : Known :=
  if name ∈ known.records then known else { known with records := known.records ++ [name] }

/-- An alias names the record without a tag that it stands for. -/
def Known.addAlias (known : Known) (name : String) (t : CType) : Known :=
  let declared := t.canonical.head.declared
  if declared.isRecord && isUntagged declared.name then
    { known with anonymous := known.anonymous.set declared.id name }.addRecord name
  else known

open Collect

def register (allow : Allowlist) : Declaration → Collect Unit
  | .record _ name _ _ _ => do
      if ← ofExcept (allow.acceptsType name) then modifyKnown (·.addRecord name)
  | .alias name t => do
      if ← ofExcept (allow.acceptsType name) then modifyKnown (·.addAlias name t)
  | _ => pure ()

def collectConstant (allow : Allowlist) (name : String) (tokens : List String) :
    Collect Unit := do
  if ← ofExcept (allow.acceptsConstant name) then
    if !(← get).surface.constants.contains name then
      match definedValue tokens with
      | .error .badNumeral => throw .badValue
      | .ok none => pure ()
      | .ok (some value) =>
          modifySurface fun s => { s with constants := s.constants.set name value }

def collectFunction (allow : Allowlist) (name : String) (result : CType)
    (parameters : List CType) (isVariadic : Bool) : Collect Unit := do
  if ← ofExcept (allow.acceptsFunction name) then
    if !(← get).surface.functions.any (·.name = name) then
      let parameters ← parameters.mapM express
      let result ← express result
      modifySurface fun s =>
        { s with functions := s.functions ++ [⟨name, result, parameters, isVariadic⟩] }

def collectFields (members : List Member) : Collect (List FieldEntry) :=
  members.mapM fun m => do return ⟨m.name, ← express m.type, m.width?⟩

/-- A record is declared once, whatever becomes of its fields. -/
def collectClass (name : String) (isUnion : Bool) : Collect Unit := do
  if !(← get).surface.records.any (·.name = name) then
    modifySurface fun s => { s with records := s.records ++ [⟨name, [], true, isUnion⟩] }

/-- The first definition of a record gives its fields. -/
def collectDefinition (name : String) (members : List Member) : Collect Unit := do
  if (← get).surface.records.any fun r => r.name = name && r.isOpaque then
    let fields ← collectFields members
    modifySurface fun s =>
      { s with records := s.records.map fun r =>
          if r.name = name then { r with fields, isOpaque := false } else r }

/-- A record that has a class is collected under the name that it is known by. -/
def collectRecord (isUnion : Bool) (tag : String) (id : Int) (isDefinition : Bool)
    (members : List Member) : Collect Unit := do
  let known := (← get).known
  let name := (known.anonymous.get? id).getD tag
  if name ∈ known.records then
    collectClass name isUnion
    if isDefinition then collectDefinition name members

/-- Whether a tag is accepted. Without one there is nothing to check. -/
def acceptsTag (allow : Allowlist) (name : String) : Except Failure Bool :=
  if name = "" then .ok false else allow.acceptsType name

def collectNamed (name : String) (values : Table String Datum) : Collect Unit := do
  if !(← get).surface.enums.any (·.name = name) then
    modifySurface fun s => { s with enums := s.enums ++ [⟨name, values⟩] }

def collectValues (allow : Allowlist) (values : List (String × Datum)) : Collect Unit :=
  values.forM fun (key, value) => do
    if ← ofExcept (allow.acceptsConstant key) then
      modifySurface fun s => { s with constants := s.constants.setNew key value }

/-- An enumeration without an accepted name lends its accepted values as constants. -/
def collectEnumeration (allow : Allowlist) (name : String) (values : Table String Datum) :
    Collect Unit := do
  if ← ofExcept (acceptsTag allow name) then collectNamed name values
  else collectValues allow values.entries

/-- An alias of a record that has a class under this name adds nothing. -/
def collectAlias (allow : Allowlist) (name : String) (t : CType) : Collect Unit := do
  if ← ofExcept (allow.acceptsType name) then
    let progress ← get
    let isTaken :=
      progress.surface.aliases.any (·.name = name) || name ∈ progress.known.records ||
        progress.surface.enums.any (·.name = name)
    if !isTaken then
      let e ← express t
      modifySurface fun s => { s with aliases := s.aliases ++ [⟨name, e⟩] }

def collect (allow : Allowlist) : Declaration → Collect Unit
  | .define name tokens => collectConstant allow name tokens
  | .function name result parameters hasPrototype variadic =>
      collectFunction allow name result parameters (hasPrototype && variadic)
  | .record isUnion name id isDefinition members =>
      collectRecord isUnion name id isDefinition members
  | .enumeration name values => collectEnumeration allow name (Table.ofList values)
  | .alias name t => collectAlias allow name t
  | .other => pure ()

/-- A unit with errors has no surface. The first error is reported, along with all the others. -/
def checkDiagnostics (header : String) (diagnostics : List Diagnostic) :
    Except Problem Unit :=
  match diagnostics.filter Diagnostic.isError with
  | [] => .ok ()
  | first :: rest =>
      .error (.badHeader header ((first :: rest).map (·.message)) first.location)

structure Outcome where
  known : Known
  unmapped : List String
  surface : Except Failure Surface

def collectUnit (allow : Allowlist) (known : Known) (header : String) (u : HeaderUnit) :
    Outcome :=
  let steps : Collect Unit := do
    ofExcept (reported (checkDiagnostics header u.diagnostics))
    u.declarations.forM (register allow)
    u.declarations.forM (collect allow)
  let (result, progress) := steps.run ⟨known, .empty, []⟩
  ⟨progress.known, progress.unmapped, result.map fun _ => progress.surface⟩

/-- Units one after another, each with the records that the units before it made known. -/
def collectUnits (allow : Allowlist) (header : String) : Known → List HeaderUnit → List Outcome
  | _, [] => []
  | known, u :: rest =>
      let outcome := collectUnit allow known header u
      outcome :: collectUnits allow header outcome.known rest

/-- What is said about a type that could not be expressed. -/
def unmappedWarning (spelling : String) : String :=
  s!"No ctypes mapping for {spelling}; using c_void_p"

def readerArguments (includeDirs extra : List String) : List String :=
  ["-x", "c", "-std=c11"] ++ includeDirs.map ("-I" ++ ·) ++ extra

end NativeVariants.Header
