import NativeVariants.Datum
import NativeVariants.Number.Reading
import NativeVariants.Yaml.Node

set_option autoImplicit false

/-!
From nodes to values. Every tag has its rule for the text or the collection that it accepts. The
entries of a merged mapping come before the mapping's own entries, which win.
-/

namespace NativeVariants.Yaml
open Number Text

def dropBars (text : List Char) : List Char := text.filter (· ≠ '_')

def splitSign (text : List Char) : Bool × List Char :=
  match text with
  | '-' :: rest => (true, rest)
  | '+' :: rest => (false, rest)
  | rest => (false, rest)

def required {α : Type} (value? : Option α) (fault : Fault) : Except Fault α :=
  match value? with
  | some value => .ok value
  | none => .error fault

/-- A whole number in base two, eight or sixteen, or of groups to the base sixty, or decimal. -/
def readInt (text : String) : Except Fault Int := do
  let (negative, digits) := splitSign (dropBars text.toList)
  let signed (value? : Option Int) : Except Fault Int := do
    let value ← required value? .badValue
    return if negative then -value else value
  match digits with
  | [] => .error .emptyNumeral
  | ['0'] => return 0
  | '0' :: 'b' :: rest => signed (readInt? 2 rest)
  | '0' :: 'x' :: rest => signed (readInt? 16 rest)
  | '0' :: 'o' :: rest => signed (readInt? 8 rest)
  | '0' :: _ => signed (readInt? 8 digits)
  | _ =>
      if digits.contains ':' then
        let groups ← (splitOn ':' digits).mapM fun group => required (readInt? 10 group) .badValue
        signed (some (groups.foldl (fun value group => 60 * value + group) 0))
      else signed (readInt? 10 digits)

def sumSixtieths : List Binary64 → Int → Binary64 → Binary64
  | [], _, sum => sum
  | group :: groups, base, sum =>
      sumSixtieths groups (60 * base) (sum.add (group.mul (Binary64.ofInt base)))

def readReal (text : String) : Except Fault Binary64 := do
  let (negative, digits) := splitSign (lowerChars (dropBars text.toList))
  let signed (value : Binary64) : Binary64 := if negative then value.negate else value
  match digits with
  | [] => if (dropBars text.toList).isEmpty then .error .emptyNumeral else .error .badValue
  | ['.', 'i', 'n', 'f'] => return .infinite negative
  | ['.', 'n', 'a', 'n'] => return .nan
  | _ =>
      if digits.contains ':' then
        let groups ← (splitOn ':' digits).mapM fun group =>
          required (readBinary64? group) .badValue
        return signed (sumSixtieths groups.reverse 1 (.zero false))
      else return signed (← required (readBinary64? digits) .badValue)

def number (digits : List Char) : Nat :=
  digits.foldl (fun value c => 10 * value + (c.toNat - 48)) 0

def isLeapYear (year : Nat) : Bool :=
  year % 4 = 0 && (year % 100 ≠ 0 || year % 400 = 0)

def daysIn (year month : Nat) : Nat :=
  if month = 2 then if isLeapYear year then 29 else 28
  else if month = 4 || month = 6 || month = 9 || month = 11 then 30
  else 31

def readDate (t : TimestampText) : Except Fault Date :=
  let date : Date := ⟨number t.year, number t.month, number t.day⟩
  if 1 ≤ date.year && 1 ≤ date.month && date.month ≤ 12 && 1 ≤ date.day &&
      date.day ≤ daysIn date.year date.month then
    .ok date
  else .error .badValue

def readOffset (zone : Option (Char × List Char × List Char)) : Except Fault Int :=
  match zone with
  | none => .ok 0
  | some (sign, hours, minutes) =>
      let seconds : Int := (number hours * 3600 + number minutes * 60 : Nat)
      if seconds < 86400 then .ok (if sign = '-' then -seconds else seconds)
      else .error .badValue

def readTimestamp (text : String) : Except Fault Datum := do
  let t ← required (timestamp? text.toList) .noMatch
  match t.time? with
  | none => return .date (← readDate t)
  | some (hour, minute, second, fraction) =>
      let offset? ← match t.zone? with
        | none => pure none
        | some zone => do pure (some (← readOffset zone))
      let date ← readDate t
      let moment : Moment :=
        { date, hour := number hour, minute := number minute, second := number second
          microsecond := number ((fraction ++ List.replicate 6 '0').take 6), offset? }
      if moment.hour < 24 && moment.minute < 60 && moment.second < 60 then
        return .moment moment
      else .error .badValue

def base64Value? (c : Char) : Option Nat :=
  if 'A' ≤ c && c ≤ 'Z' then some (c.toNat - 65)
  else if 'a' ≤ c && c ≤ 'z' then some (c.toNat - 71)
  else if isDigit c then some (c.toNat + 4)
  else if c = '+' then some 62
  else if c = '/' then some 63
  else none

/-- Bytes from groups of four characters. `position` counts the characters of the group so far and
`left` holds their bits that are not used yet. Characters outside the alphabet are passed over. -/
def decodeBase64 (position left pads : Nat) : List Char → Option (List Nat)
  | [] => if position = 0 then some [] else none
  | c :: rest =>
      if c = '=' then
        if 2 ≤ position then
          if 4 ≤ position + (pads + 1) then some []
          else decodeBase64 position left (pads + 1) rest
        else decodeBase64 position left pads rest
      else
        match base64Value? c with
        | none => decodeBase64 position left pads rest
        | some bits =>
            match position with
            | 0 => decodeBase64 1 bits 0 rest
            | 1 => (decodeBase64 2 (bits % 16) 0 rest).map ((left * 4 + bits / 16) :: ·)
            | 2 => (decodeBase64 3 (bits % 4) 0 rest).map ((left * 16 + bits / 4) :: ·)
            | _ => (decodeBase64 0 0 0 rest).map ((left * 64 + bits) :: ·)

def readBytes (text : String) : Except Fault Datum :=
  if text.toList.all fun c => c.toNat < 0x80 then
    match decodeBase64 0 0 0 text.toList with
    | some bytes => .ok (.bytes bytes)
    | none => .error .malformed
  else .error .malformed

def boolWords : List (String × Bool) :=
  [("yes", true), ("no", false), ("true", true), ("false", false), ("on", true), ("off", false)]

def scalarValue (tag : Tag) (text : String) : Except Fault Datum := do
  match tag with
  | .null => return .null
  | .bool => return .bool (← required (boolWords.lookup (lower text)) .unknownWord)
  | .int => return .int (← readInt text)
  | .real => return .real (← readReal text)
  | .timestamp => readTimestamp text
  | .binary => readBytes text
  | .text => return .text text
  | _ => .error .malformed

def isMergeKey : Node → Bool
  | .scalar .merge _ => true
  | .sequence .merge _ => true
  | .mapping .merge _ => true
  | _ => false

def addItem (items : List Datum) (item : Datum) : List Datum :=
  if items.any item.sameKey then items else items ++ [item]

/-- A key. The value sign is an ordinary text here, and collections are no keys. -/
def keyValue : Node → Except Fault Datum
  | .scalar tag text => if tag = .value then .ok (.text text) else scalarValue tag text
  | _ => .error .malformed

structure Entries where
  merged : List (Datum × Datum)
  own : List (Datum × Datum)

def Entries.all (e : Entries) : List (Datum × Datum) := e.merged ++ e.own

mutual

def value : Node → Except Fault Datum
  | .scalar tag text => scalarValue tag text
  | .sequence tag items =>
      match tag with
      | .sequence => do return .list (← values items)
      | .orderedMap => do return .list (← pairs items)
      | .pairs => do return .list (← pairs items)
      | _ => .error .malformed
  | .mapping tag nodes =>
      match tag with
      | .mapping => do
          let found ← entries nodes
          return .map (found.all.foldl (fun known (k, v) => Datum.setEntry known k v) [])
      | .set => do
          let found ← entries nodes
          return .set (found.all.foldl (fun items (k, _) => addItem items k) [])
      | _ => .error .malformed
  | .loop isMapping => .ok (.loop isMapping)

def values : List Node → Except Fault (List Datum)
  | [] => .ok []
  | item :: items => do
      let item ← value item
      return item :: (← values items)

def entries : List (Node × Node) → Except Fault Entries
  | [] => .ok ⟨[], []⟩
  | (key, target) :: rest =>
      if isMergeKey key then do
        let first ← merged target
        let others ← entries rest
        return ⟨first ++ others.merged, others.own⟩
      else do
        let key ← keyValue key
        let target ← value target
        let others ← entries rest
        return ⟨others.merged, (key, target) :: others.own⟩

/-- What a merge key brings in: a mapping, or a sequence of mappings of which the first wins. -/
def merged : Node → Except Fault (List (Datum × Datum))
  | .mapping _ nodes => do return (← entries nodes).all
  | .sequence _ items => mergedItems items
  | _ => .error .malformed

def mergedItems : List Node → Except Fault (List (Datum × Datum))
  | [] => .ok []
  | .mapping _ nodes :: items => do
      let first ← entries nodes
      return (← mergedItems items) ++ first.all
  | _ :: _ => .error .malformed

def pairs : List Node → Except Fault (List Datum)
  | [] => .ok []
  | .mapping _ [(first, second)] :: items => do
      let pair := Datum.pair (← value first) (← value second)
      return pair :: (← pairs items)
  | _ :: _ => .error .malformed

end

/-- The value of a text with at most one document; an empty text has the value null. -/
def load (text : String) : Except Fault Datum := do
  match ← Node.ofText text with
  | none => return .null
  | some root => value root

end NativeVariants.Yaml
