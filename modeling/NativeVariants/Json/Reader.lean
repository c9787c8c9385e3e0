import NativeVariants.Datum
import NativeVariants.Json.Text
import NativeVariants.Number.Reading

set_option autoImplicit false

/-!
Reading a record. A value is read from a place in the text and the place behind it is returned;
a failure names its complaint and the place where it arose.
-/

namespace NativeVariants.Json
open Number Text

def isGap (c : Char) : Bool := c = ' ' || c = '\t' || c = '\n' || c = '\r'

def isDigit (c : Char) : Bool := '0' ≤ c && c ≤ '9'

namespace Cursor

def skip (cursor : Cursor) (count : Nat) : Cursor :=
  ⟨cursor.position + count, cursor.rest.drop count⟩

def skipGaps (cursor : Cursor) : Cursor :=
  cursor.skip (cursor.rest.takeWhile isGap).length

def fail {α : Type} (cursor : Cursor) (complaint : Complaint) : Except Error α :=
  .error ⟨complaint, cursor.position⟩

end Cursor

/-- The parts of a numeral. A point counts only before a digit, an exponent only with a digit. -/
structure Numeral where
  negative : Bool
  whole : List Char
  fraction : List Char
  exponent? : Option (Bool × List Char)

def Numeral.isReal (n : Numeral) : Bool := !n.fraction.isEmpty || n.exponent?.isSome

def Numeral.length (n : Numeral) (signed : Bool) : Nat :=
  (if n.negative then 1 else 0) + n.whole.length +
    (if n.fraction.isEmpty then 0 else 1 + n.fraction.length) +
    (match n.exponent? with
      | none => 0
      | some (_, digits) => 1 + (if signed then 1 else 0) + digits.length)

def wholeDigits : List Char → List Char
  | '0' :: _ => ['0']
  | text => text.takeWhile isDigit

def exponentOf (text : List Char) : Option (Bool × List Char) × Bool :=
  match text with
  | c :: rest =>
      if c = 'e' || c = 'E' then
        let (negative, signed, rest) := match rest with
          | '-' :: rest => (true, true, rest)
          | '+' :: rest => (false, true, rest)
          | rest => (false, false, rest)
        let digits := rest.takeWhile isDigit
        if digits.isEmpty then (none, false) else (some (negative, digits), signed)
      else (none, false)
  | [] => (none, false)

def numeral? (text : List Char) : Option (Numeral × Nat) :=
  let (negative, rest) := match text with
    | '-' :: rest => (true, rest)
    | rest => (false, rest)
  let whole := wholeDigits rest
  if whole.isEmpty then none
  else
    let rest := rest.drop whole.length
    let fraction := match rest with
      | '.' :: rest => rest.takeWhile isDigit
      | _ => []
    let rest := if fraction.isEmpty then rest else rest.drop (1 + fraction.length)
    let (exponent?, signed) := exponentOf rest
    let n : Numeral := ⟨negative, whole, fraction, exponent?⟩
    some (n, n.length signed)

def asciiValue (digits : List Char) : Nat := ofDigits 10 (digits.map fun c => c.toNat - 48)

def Numeral.value (n : Numeral) : Datum :=
  if n.isReal then
    let exponent : Int := match n.exponent? with
      | none => 0
      | some (negative, digits) =>
          if negative then -(asciiValue digits : Int) else asciiValue digits
    .real (Binary64.ofDecimal n.negative (asciiValue (n.whole ++ n.fraction))
      (exponent - n.fraction.length))
  else
    let magnitude : Int := asciiValue n.whole
    .int (if n.negative then -magnitude else magnitude)

def words : List (String × Datum) :=
  [("null", .null), ("true", .bool true), ("false", .bool false), ("NaN", .real .nan),
    ("Infinity", .real (.infinite false)), ("-Infinity", .real (.infinite true))]

def word? (text : List Char) : Option (Datum × Nat) :=
  (words.find? fun word => word.1.toList.isPrefixOf text).map fun word =>
    (word.2, word.1.length)

def readScalar (cursor : Cursor) : Except Error (Datum × Cursor) :=
  match word? cursor.rest with
  | some (value, length) => .ok (value, cursor.skip length)
  | none =>
      match numeral? cursor.rest with
      | none => cursor.fail .valueExpected
      | some (n, length) =>
          if !n.isReal && maxDigits < n.whole.length then cursor.fail .numeralTooLong
          else .ok (n.value, cursor.skip length)

mutual

/-- One value. Two steps of the three readers together pass a character, so twice the length of the
text is fuel enough. -/
def readValue : Nat → Cursor → Except Error (Datum × Cursor)
  | 0, cursor => cursor.fail .valueExpected
  | fuel + 1, cursor =>
      match cursor.rest with
      | '"' :: _ => do
          let (text, cursor) ← readText (cursor.skip 1)
          return (.text text, cursor)
      | '\x7b' :: _ => do
          let inside := (cursor.skip 1).skipGaps
          match inside.rest with
          | '\x7d' :: _ => return (.map [], inside.skip 1)
          | _ =>
              let (entries, cursor) ← readMembers fuel [] inside
              return (.map entries, cursor)
      | '[' :: _ => do
          let inside := (cursor.skip 1).skipGaps
          match inside.rest with
          | ']' :: _ => return (.list [], inside.skip 1)
          | _ =>
              let (items, cursor) ← readItems fuel inside
              return (.list items, cursor)
      | _ => readScalar cursor

/-- The members of a mapping; a name that occurs again changes the value at its first place. -/
def readMembers : Nat → List (Datum × Datum) → Cursor →
    Except Error (List (Datum × Datum) × Cursor)
  | 0, _, cursor => cursor.fail .valueExpected
  | fuel + 1, entries, cursor =>
      match cursor.rest with
      | '"' :: _ => do
          let (name, cursor) ← readText (cursor.skip 1)
          let cursor := cursor.skipGaps
          match cursor.rest with
          | ':' :: _ =>
              let (value, cursor) ← readValue fuel (cursor.skip 1).skipGaps
              let entries := Datum.setEntry entries (.text name) value
              let cursor := cursor.skipGaps
              match cursor.rest with
              | '\x7d' :: _ => return (entries, cursor.skip 1)
              | ',' :: _ => readMembers fuel entries (cursor.skip 1).skipGaps
              | _ => cursor.fail .commaExpected
          | _ => cursor.fail .colonExpected
      | _ => cursor.fail .nameExpected

def readItems : Nat → Cursor → Except Error (List Datum × Cursor)
  | 0, cursor => cursor.fail .valueExpected
  | fuel + 1, cursor => do
      let (item, cursor) ← readValue fuel cursor
      let cursor := cursor.skipGaps
      match cursor.rest with
      | ']' :: _ => return ([item], cursor.skip 1)
      | ',' :: _ =>
          let (items, cursor) ← readItems fuel (cursor.skip 1).skipGaps
          return (item :: items, cursor)
      | _ => cursor.fail .commaExpected

end

/-- The value of a whole text, with gaps around it. -/
def read (text : String) : Except Error Datum := do
  let start : Cursor := ⟨0, text.toList⟩
  match start.rest with
  | '\ufeff' :: _ => start.fail .byteOrderMark
  | _ =>
      let (value, cursor) ← readValue (2 * text.length + 2) start.skipGaps
      let cursor := cursor.skipGaps
      if cursor.rest.isEmpty then return value else cursor.fail .extraData

def Complaint.describe : Complaint → String
  | .valueExpected => "Expecting value"
  | .nameExpected => "Expecting property name enclosed in double quotes"
  | .colonExpected => "Expecting ':' delimiter"
  | .commaExpected => "Expecting ',' delimiter"
  | .unterminatedText => "Unterminated string starting at"
  | .controlCharacter => "Invalid control character at"
  | .badEscape => "Invalid \\escape"
  | .badCodeEscape => "Invalid \\uXXXX escape"
  | .extraData => "Extra data"
  | .byteOrderMark => "Unexpected UTF-8 BOM (decode using utf-8-sig)"
  | .numeralTooLong => "Numeral too long"

/-- A complaint with its line and column, counted from one. -/
def Error.describe (e : Error) (text : String) : String :=
  let before := text.toList.take e.position
  let line := before.count '\n' + 1
  let column := (before.reverse.takeWhile (· ≠ '\n')).length + 1
  e.complaint.describe ++
    s!": line {line} column {column} (char {e.position})"

end NativeVariants.Json
