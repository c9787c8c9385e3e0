import NativeVariants.Number.Shortest
import NativeVariants.Text.Digit
import NativeVariants.Text.Quoted

set_option autoImplicit false

/-!
Values of configuration files and records: scalars, dates, lists and mappings in the order in
which they were written. `Datum.quoted` is the text of a value inside another one, and
`Datum.display` its text on its own.
-/

namespace NativeVariants
open Number Text

structure Date where
  year : Nat
  month : Nat
  day : Nat
  deriving DecidableEq, Repr

/-- A date and a time of day, with the offset from universal time in seconds if one is given. -/
structure Moment where
  date : Date
  hour : Nat
  minute : Nat
  second : Nat
  microsecond : Nat
  offset? : Option Int
  deriving DecidableEq, Repr

inductive Datum where
  | null
  | bool (value : Bool)
  | int (value : Int)
  | real (value : Binary64)
  | text (value : String)
  | date (value : Date)
  | moment (value : Moment)
  | bytes (values : List Nat)
  | pair (first second : Datum)
  | list (items : List Datum)
  | set (items : List Datum)
  | map (entries : List (Datum × Datum))
  /-- A collection inside itself. -/
  | loop (isMapping : Bool)
  deriving Inhabited, Repr

def Date.display (d : Date) : String :=
  padLeft 4 (toString d.year) ++ "-" ++ padLeft 2 (toString d.month) ++ "-" ++
    padLeft 2 (toString d.day)

def Date.quoted (d : Date) : String :=
  s!"datetime.date({d.year}, {d.month}, {d.day})"

namespace Moment

def displayOffset (seconds : Int) : String :=
  let size := seconds.natAbs
  (if seconds < 0 then "-" else "+") ++ padLeft 2 (toString (size / 3600)) ++ ":" ++
    padLeft 2 (toString (size / 60 % 60))

def display (t : Moment) : String :=
  t.date.display ++ " " ++ padLeft 2 (toString t.hour) ++ ":" ++
    padLeft 2 (toString t.minute) ++ ":" ++ padLeft 2 (toString t.second) ++
    (if t.microsecond = 0 then "" else "." ++ padLeft 6 (toString t.microsecond)) ++
    (match t.offset? with
      | none => ""
      | some seconds => displayOffset seconds)

/-- An offset as whole days and the seconds left, which are never negative. -/
def quotedOffset (seconds : Int) : String :=
  if seconds = 0 then "datetime.timezone.utc"
  else
    let days := seconds / 86400
    let rest := seconds % 86400
    let dayPart := if days = 0 then [] else [s!"days={days}"]
    let restPart := if rest = 0 then [] else [s!"seconds={rest}"]
    "datetime.timezone(datetime.timedelta(" ++ ", ".intercalate (dayPart ++ restPart) ++ "))"

def quoted (t : Moment) : String :=
  let fields := [t.date.year, t.date.month, t.date.day, t.hour, t.minute]
  let fields :=
    if t.microsecond ≠ 0 then fields ++ [t.second, t.microsecond]
    else if t.second ≠ 0 then fields ++ [t.second]
    else fields
  "datetime.datetime(" ++ ", ".intercalate (fields.map toString) ++
    (match t.offset? with
      | none => ""
      | some seconds => ", tzinfo=" ++ quotedOffset seconds) ++ ")"

end Moment

namespace Datum

mutual

def quoted : Datum → String
  | .null => "None"
  | .bool true => "True"
  | .bool false => "False"
  | .int n => toString n
  | .real x => x.display
  | .text s => Text.quoted s
  | .date d => d.quoted
  | .moment t => t.quoted
  | .bytes values => Text.quotedBytes values
  | .pair first second => "(" ++ quoted first ++ ", " ++ quoted second ++ ")"
  | .list items => "[" ++ ", ".intercalate (quotedItems items) ++ "]"
  | .set [] => "set()"
  | .set (item :: items) =>
      "\x7b" ++ ", ".intercalate (quoted item :: quotedItems items) ++ "\x7d"
  | .map entries => "\x7b" ++ ", ".intercalate (quotedEntries entries) ++ "\x7d"
  | .loop true => "\x7b...\x7d"
  | .loop false => "[...]"

def quotedItems : List Datum → List String
  | [] => []
  | item :: items => quoted item :: quotedItems items

def quotedEntries : List (Datum × Datum) → List String
  | [] => []
  | (key, value) :: entries => (quoted key ++ ": " ++ quoted value) :: quotedEntries entries

end

def display : Datum → String
  | .text s => s
  | .date d => d.display
  | .moment t => t.display
  | value => value.quoted

mutual

/-- Whether all numbers in the value are short enough to be written. -/
def isWritable : Datum → Bool
  | .int n => Text.isWritable n
  | .pair first second => isWritable first && isWritable second
  | .list items => areWritable items
  | .set items => areWritable items
  | .map entries => entriesWritable entries
  | _ => true

def areWritable : List Datum → Bool
  | [] => true
  | item :: items => isWritable item && areWritable items

def entriesWritable : List (Datum × Datum) → Bool
  | [] => true
  | (key, value) :: entries =>
      isWritable key && isWritable value && entriesWritable entries

end

/-- Whether a value counts as present: empty texts, lists and mappings, zeros, `false` and `null`
do not. -/
def isPresent : Datum → Bool
  | .null => false
  | .bool b => b
  | .int n => n ≠ 0
  | .real x => !x.isZero
  | .text s => s ≠ ""
  | .bytes values => !values.isEmpty
  | .list items => !items.isEmpty
  | .set items => !items.isEmpty
  | .map entries => !entries.isEmpty
  | _ => true

/-- Whether a number is above zero; `true` is. Other values cannot be compared with it. -/
def isPositive? : Datum → Option Bool
  | .bool b => some b
  | .int n => some (0 < n)
  | .real (.finite negative significand _) => some (!negative && significand ≠ 0)
  | .real (.infinite negative) => some !negative
  | .real .nan => some false
  | _ => none

/-- The number that a scalar is equal to; truth values count as zero and one. -/
def asInt? : Datum → Option Int
  | .bool b => some (if b then 1 else 0)
  | .int n => some n
  | .real x => x.toInt?
  | _ => none

/-- Whether two scalars are one and the same key. Numbers are compared by value, whatever their
kind. -/
def sameKey (a b : Datum) : Bool :=
  match a.asInt?, b.asInt? with
  | some m, some n => m = n
  | none, none =>
      match a, b with
      | .null, .null => true
      | .real x, .real y => x = y
      | .text s, .text t => s = t
      | .date d, .date e => d = e
      | .moment t, .moment u => t = u
      | .bytes v, .bytes w => v = w
      | _, _ => false
  | _, _ => false

/-- Whether a value may be a key: collections may not. -/
def isKey : Datum → Bool
  | .list _ => false
  | .set _ => false
  | .map _ => false
  | .loop _ => false
  | .pair first second => isKey first && isKey second
  | _ => true

def lookup? (entries : List (Datum × Datum)) (key : String) : Option Datum :=
  (entries.find? fun entry => entry.1.sameKey (.text key)).map (·.2)

/-- Entries with one value set: a known key keeps its place. -/
def setEntry (entries : List (Datum × Datum)) (key value : Datum) : List (Datum × Datum) :=
  if entries.any fun entry => entry.1.sameKey key then
    entries.map fun entry => if entry.1.sameKey key then (entry.1, value) else entry
  else entries ++ [(key, value)]

end Datum

end NativeVariants
