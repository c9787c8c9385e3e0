set_option autoImplicit false

/-!
The tags of plain scalars. A plain text is a truth value, a number, a date, a null or a merge key
when it has exactly that form; otherwise it is a text.
-/

namespace NativeVariants.Yaml

/-- The tags that this reader knows, and all others by their full names. -/
inductive Tag where
  | null
  | bool
  | int
  | real
  | timestamp
  | merge
  | value
  | text
  | binary
  | sequence
  | mapping
  | set
  | orderedMap
  | pairs
  | other (name : String)
  deriving DecidableEq, Repr

def coreTags : List (String × Tag) :=
  [("null", .null), ("bool", .bool), ("int", .int), ("float", .real), ("timestamp", .timestamp),
    ("merge", .merge), ("value", .value), ("str", .text), ("binary", .binary),
    ("seq", .sequence), ("map", .mapping), ("set", .set), ("omap", .orderedMap),
    ("pairs", .pairs)]

def coreLead : String := "tag:yaml.org,2002:"

def Tag.ofName (name : String) : Tag :=
  match coreTags.find? fun entry => coreLead ++ entry.1 = name with
  | some (_, tag) => tag
  | none => .other name

/-- A word in lower case, with a capital, or in capitals. -/
def isSpelling (word : String) (text : List Char) : Bool :=
  let letters := word.toList
  let capitals := letters.map Char.toUpper
  text = letters || text = capitals.take 1 ++ letters.drop 1 || text = capitals

def isBoolWord (text : List Char) : Bool :=
  ["yes", "no", "true", "false", "on", "off"].any fun word => isSpelling word text

def isNullWord (text : List Char) : Bool :=
  text = [] || text = ['~'] || isSpelling "null" text

def isDigit (c : Char) : Bool := '0' ≤ c && c ≤ '9'

def isDigitOrBar (c : Char) : Bool := isDigit c || c = '_'

def isDigitRun : List Char → Bool
  | [] => false
  | c :: rest => isDigit c && rest.all isDigitOrBar

def isSixtieth : List Char → Bool
  | [c] => isDigit c
  | [c, d] => '0' ≤ c && c ≤ '5' && isDigit d
  | _ => false

def splitOn (c : Char) (text : List Char) : List (List Char) :=
  match text with
  | [] => [[]]
  | d :: rest =>
      match splitOn c rest with
      | [] => [[d]]
      | part :: parts => if d = c then [] :: part :: parts else (d :: part) :: parts

def dropSign : List Char → List Char
  | '-' :: rest => rest
  | '+' :: rest => rest
  | text => text

/-- Groups separated by colons, all but the first below sixty. -/
def isSexagesimal (text : List Char) : Bool :=
  match splitOn ':' text with
  | first :: second :: rest => isDigitRun first && (second :: rest).all isSixtieth
  | _ => false

def isInt (text : List Char) : Bool :=
  match dropSign text with
  | '0' :: 'b' :: rest => !rest.isEmpty && rest.all fun c => c = '0' || c = '1' || c = '_'
  | '0' :: 'x' :: rest =>
      !rest.isEmpty && rest.all fun c =>
        isDigitOrBar c || ('a' ≤ c && c ≤ 'f') || ('A' ≤ c && c ≤ 'F')
  | ['0'] => true
  | '0' :: rest => rest.all fun c => ('0' ≤ c && c ≤ '7') || c = '_'
  | text =>
      isDigitRun text || isSexagesimal text

def isExponent : List Char → Bool
  | [] => true
  | e :: sign :: rest =>
      (e = 'e' || e = 'E') && (sign = '-' || sign = '+') && !rest.isEmpty && rest.all isDigit
  | _ => false

def isReal (text : List Char) : Bool :=
  let unsigned := dropSign text
  match unsigned with
  | '.' :: rest =>
      isSpelling "inf" rest || (text = unsigned && (rest = ['n', 'a', 'n'] ||
        rest = ['N', 'a', 'N'] || rest = ['N', 'A', 'N'] ||
        (isDigitRun (rest.takeWhile isDigitOrBar) && isExponent (rest.dropWhile isDigitOrBar))))
  | _ =>
      let whole := unsigned.takeWhile (· ≠ '.')
      match unsigned.dropWhile (· ≠ '.') with
      | '.' :: fraction =>
          (isDigitRun whole && isExponent (fraction.dropWhile isDigitOrBar)) ||
            (isSexagesimal whole && fraction.all isDigitOrBar)
      | _ => false

structure TimestampText where
  year : List Char
  month : List Char
  day : List Char
  time? : Option (List Char × List Char × List Char × List Char)
  /-- The zone: none, universal time, or a sign with hours and minutes. -/
  zone? : Option (Option (Char × List Char × List Char))
  deriving Repr

def digitsUpTo (least most : Nat) (text : List Char) : Option (List Char × List Char) :=
  let run := (text.takeWhile isDigit).take most
  if least ≤ run.length then some (run, text.drop run.length) else none

def expect (c : Char) : List Char → Option (List Char)
  | d :: rest => if d = c then some rest else none
  | [] => none

def zone? (text : List Char) : Option (Option (Option (Char × List Char × List Char))) :=
  match text.dropWhile (fun c => c = ' ' || c = '\t') with
  | [] => if text.isEmpty then some none else none
  | ['Z'] => some (some none)
  | sign :: rest =>
      if sign = '-' || sign = '+' then do
        let (hours, rest) ← digitsUpTo 1 2 rest
        match rest with
        | [] => some (some (some (sign, hours, [])))
        | ':' :: rest =>
            let (minutes, rest) ← digitsUpTo 2 2 rest
            if rest.isEmpty then some (some (some (sign, hours, minutes))) else none
        | _ => none
      else none

/-- A date, or a date and a time with an optional fraction and zone. -/
def timestamp? (text : List Char) : Option TimestampText := do
  let (year, rest) ← digitsUpTo 4 4 text
  let rest ← expect '-' rest
  let (month, rest) ← digitsUpTo 1 2 rest
  let rest ← expect '-' rest
  let (day, rest) ← digitsUpTo 1 2 rest
  match rest with
  | [] => return ⟨year, month, day, none, none⟩
  | c :: after =>
      let rest ←
        if c = 'T' || c = 't' then some after
        else if c = ' ' || c = '\t' then
          some (rest.dropWhile fun c => c = ' ' || c = '\t')
        else none
      let (hour, rest) ← digitsUpTo 1 2 rest
      let rest ← expect ':' rest
      let (minute, rest) ← digitsUpTo 2 2 rest
      let rest ← expect ':' rest
      let (second, rest) ← digitsUpTo 2 2 rest
      let (fraction, rest) := match rest with
        | '.' :: rest => (rest.takeWhile isDigit, rest.dropWhile isDigit)
        | rest => ([], rest)
      let zone ← zone? rest
      return ⟨year, month, day, some (hour, minute, second, fraction), zone⟩

/-- A plain date needs two digits for month and day; one with a time may do with one. -/
def isTimestamp (text : List Char) : Bool :=
  match timestamp? text with
  | none => false
  | some t => t.time?.isSome || (t.month.length = 2 && t.day.length = 2)

def Tag.ofPlain (text : List Char) : Tag :=
  if isNullWord text then .null
  else if isBoolWord text then .bool
  else if isReal text then .real
  else if isInt text then .int
  else if text = ['<', '<'] then .merge
  else if text = ['='] then .value
  else if isTimestamp text then .timestamp
  else .text

end NativeVariants.Yaml
