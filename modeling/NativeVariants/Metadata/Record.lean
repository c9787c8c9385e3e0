import NativeVariants.Artifacts
import NativeVariants.Datum
import NativeVariants.Failure
import NativeVariants.Json.Reader
import NativeVariants.Metadata.Key

set_option autoImplicit false

/-!
Published facts as a later build reads them. A record that was read from a file may hold values of
any kind; a fact that is missing is reported under the very name that was expected.
-/

namespace NativeVariants.Metadata

structure Record where
  package : Datum
  values : List (Datum × Datum)
  /-- Where the record comes from, for hints. -/
  source? : Option String
  deriving Inhabited, Repr

/-- The artifacts that a record tells of. The basename may be of any kind; its text names the
libraries. -/
structure Told where
  basename : Datum
  artifacts : Artifacts
  deriving Repr

namespace Record

/-- The members of a value that is given as a sequence. -/
def elements : Datum → Except Failure (List Datum)
  | .list items => .ok items
  | .text s => .ok (s.toList.map fun c => .text (String.singleton c))
  | .map entries => .ok (entries.map (·.1))
  | _ => .error .wrongKind

/-- A key with its value, given as any two things in a row. -/
def entryOf (item : Datum) : Except Failure (Datum × Datum) := do
  match ← elements item with
  | [key, value] => if key.isKey then return (key, value) else throw .wrongKind
  | _ => throw .badValue

/-- The entries of a mapping, or of a list of pairs. The last value of a key counts. -/
def entriesOf (values : Datum) : Except Failure (List (Datum × Datum)) :=
  match values with
  | .map entries => .ok entries
  | _ => do
      let entries ← (← elements values).mapM entryOf
      return entries.foldl (fun known entry => Datum.setEntry known entry.1 entry.2) []

def ofText (values : Table String String) (package : String) (source? : Option String) : Record :=
  ⟨.text package, values.entries.map fun (key, value) => (.text key, .text value), source?⟩

def ofEnviron (environ : Environ) (package : String) : Record :=
  ofText (environ.filter (packageLead package ++ "_").isPrefixOf) package (some "environment")

def firstPresent (values : List Datum) (default : String) : Datum :=
  (values.find? Datum.isPresent).getD (.text default)

/-- The record that a file holds. The package may be given; else the file names it. -/
def ofFile (content path : String) (package? : Option String) : Except Failure Record := do
  match Json.read content with
  | .error e =>
      if e.complaint = .numeralTooLong then throw .badValue
      else throw (.problem (.malformedMetadata path (e.describe content)))
  | .ok (.map entries) =>
      let values := (Datum.lookup? entries "values").getD .null
      let values ← if values.isPresent then entriesOf values else pure []
      let named := (Datum.lookup? entries "package").getD .null
      return ⟨firstPresent [.text (package?.getD ""), named] defaultPackage, values, some path⟩
  | .ok _ => throw .noMembers

def ofMissingFile (path : String) (package? : Option String) : Record :=
  ⟨firstPresent [.text (package?.getD "")] defaultPackage, [], some (path ++ " (missing)")⟩

def hint (record : Record) : String :=
  let place :=
    match record.source? with
    | none => ""
    | some source => if source = "" then "" else " in " ++ source
  s!"No value{place}. Is {record.package.display} a build dependency, and did its build run " ++
    "with the variant you need?"

def get (record : Record) (key : String) : Except Failure Datum :=
  match Datum.lookup? record.values key with
  | some value => .ok value
  | none => .error (.problem (.metadataKey key record.hint))

def packageName (record : Record) : Except Failure String :=
  match record.package with
  | .text name => .ok name
  | _ => .error .wrongKind

def pathOf : Datum → Except Failure Path
  | .text s => .ok (.ofText s)
  | _ => .error .wrongKind

def includeDir (record : Record) : Except Failure Path := do
  pathOf (← record.get (includeKey (← record.packageName)))

def read (record : Record) (variant field : String) : Except Failure Datum := do
  record.get (← reported (variantKeyNamed (← record.packageName) variant field))

/-- The artifacts of one variant. The target, if given, adds the libraries that every build for it
has. -/
def artifacts (record : Record) (variant : String) (target? : Option Target) :
    Except Failure Told := do
  let basename ← record.read variant Field.basename.name
  let includeDir ← record.includeDir
  let libDir ← pathOf (← record.read variant Field.libDir.name)
  let binDir ← pathOf (← record.read variant Field.binDir.name)
  let suffixes := (target?.map (·.librarySuffixes)).getD []
  let name := basename.display
  return ⟨basename,
    { variant, basename := name, includeDir, libDir, binDir
      libraries := (Variant.mk variant name).libraryNames suffixes }⟩

/-- The place of a number among all numbers: below, among or above the finite ones, and an exact
ratio. -/
def numberPlace? : Datum → Option (Int × Int × Nat)
  | .real (.infinite negative) => some (if negative then -1 else 1, 0, 1)
  | .real .nan => some (0, 0, 1)
  | .real (.finite negative significand exponent) =>
      some (0, Number.Binary64.ratio negative significand exponent)
  | value => value.asInt?.map fun n => (0, n, 1)

def placeLE (a b : Int × Int × Nat) : Bool :=
  a.1 < b.1 || (a.1 = b.1 && a.2.1 * b.2.2 ≤ b.2.1 * a.2.2)

def text? : Datum → Option String
  | .text s => some s
  | _ => none

/-- Entries in an order of their keys; `key?` says which keys have a place in it. -/
def sortBy {α : Type} (key? : Datum → Option α) (le : α → α → Bool)
    (entries : List (Datum × Datum)) : Option (List (Datum × Datum)) :=
  (entries.mapM fun entry => (key? entry.1).map (·, entry)).map fun keyed =>
    (keyed.mergeSort fun a b => le a.1 b.1).map (·.2)

/-- The facts in the order of their names. Texts and numbers each have an order of their own, and
cannot be compared with each other. -/
def sortedValues (record : Record) : Except Failure (List (Datum × Datum)) :=
  match sortBy text? (fun s t => decide (s ≤ t)) record.values,
      sortBy numberPlace? placeLE record.values with
  | some entries, _ => .ok entries
  | none, some entries => .ok entries
  | none, none => if record.values.length ≤ 1 then .ok record.values else .error .wrongKind

end Record

end NativeVariants.Metadata
