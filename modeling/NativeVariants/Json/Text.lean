set_option autoImplicit false

/-!
Texts inside a record. A text is read as a row of units: characters that stand for themselves and
sixteen-bit codes written as escapes. A high code directly before a low one makes one character.
-/

namespace NativeVariants.Json

inductive Complaint where
  | valueExpected
  | nameExpected
  | colonExpected
  | commaExpected
  | unterminatedText
  | controlCharacter
  | badEscape
  | badCodeEscape
  | extraData
  | byteOrderMark
  /-- A numeral with too many digits; it has no text of its own. -/
  | numeralTooLong
  deriving DecidableEq, Repr

structure Error where
  complaint : Complaint
  position : Nat
  deriving DecidableEq, Repr

/-- A place in the text: the number of characters before it and those that follow. -/
structure Cursor where
  position : Nat
  rest : List Char
  deriving DecidableEq, Repr

inductive TextUnit where
  | char (c : Char)
  | code (n : Nat)
  deriving DecidableEq, Repr

def hexValue? (c : Char) : Option Nat :=
  if '0' ≤ c && c ≤ '9' then some (c.toNat - 48)
  else if 'a' ≤ c && c ≤ 'f' then some (c.toNat - 87)
  else if 'A' ≤ c && c ≤ 'F' then some (c.toNat - 55)
  else none

def code? (a b c d : Char) : Option Nat := do
  let a ← hexValue? a
  let b ← hexValue? b
  let c ← hexValue? c
  let d ← hexValue? d
  return ((a * 16 + b) * 16 + c) * 16 + d

def simpleEscape? : Char → Option Char
  | '"' => some '"'
  | '\\' => some '\\'
  | '/' => some '/'
  | 'b' => some '\x08'
  | 'f' => some '\x0c'
  | 'n' => some '\n'
  | 'r' => some '\r'
  | 't' => some '\t'
  | _ => none

/-- The units up to the closing quote. `start` is where the opening quote stands. -/
def readUnits (start : Nat) : Nat → List Char → Except Error (List TextUnit × Cursor)
  | _, [] => .error ⟨.unterminatedText, start⟩
  | position, '"' :: rest => .ok ([], ⟨position + 1, rest⟩)
  | _, ['\\'] => .error ⟨.unterminatedText, start⟩
  | position, '\\' :: 'u' :: a :: b :: c :: d :: rest =>
      if rest.isEmpty then .error ⟨.badCodeEscape, position + 1⟩
      else
        match code? a b c d with
        | none => .error ⟨.badCodeEscape, position + 1⟩
        | some n => do
            let (units, cursor) ← readUnits start (position + 6) rest
            return (.code n :: units, cursor)
  | position, '\\' :: c :: rest =>
      if c = 'u' then .error ⟨.badCodeEscape, position + 1⟩
      else
        match simpleEscape? c with
        | none => .error ⟨.badEscape, position⟩
        | some c => do
            let (units, cursor) ← readUnits start (position + 2) rest
            return (.char c :: units, cursor)
  | position, c :: rest =>
      if c.toNat < 0x20 then .error ⟨.controlCharacter, position⟩
      else do
        let (units, cursor) ← readUnits start (position + 1) rest
        return (.char c :: units, cursor)

def isHighCode (n : Nat) : Bool := 0xd800 ≤ n && n < 0xdc00

def isLowCode (n : Nat) : Bool := 0xdc00 ≤ n && n < 0xe000

/-- The characters of a row of units. Half of a pair that stands alone is no character and becomes
the replacement character. -/
def joinUnits : List TextUnit → List Char
  | [] => []
  | .char c :: rest => c :: joinUnits rest
  | .code high :: .code low :: rest =>
      if isHighCode high && isLowCode low then
        Char.ofNat (0x10000 + (high - 0xd800) * 0x400 + (low - 0xdc00)) :: joinUnits rest
      else single high :: joinUnits (.code low :: rest)
  | .code n :: rest => single n :: joinUnits rest
where
  single (n : Nat) : Char := if n.isValidChar then Char.ofNat n else '\ufffd'

/-- The text that begins after the opening quote. -/
def readText (cursor : Cursor) : Except Error (String × Cursor) := do
  let (units, cursor) ← readUnits (cursor.position - 1) cursor.position cursor.rest
  return (String.ofList (joinUnits units), cursor)

def hexDigit (n : Nat) : Char :=
  if n < 10 then Char.ofNat (48 + n) else Char.ofNat (87 + n)

def codeEscape (n : Nat) : List Char :=
  ['\\', 'u', hexDigit (n / 4096 % 16), hexDigit (n / 256 % 16), hexDigit (n / 16 % 16),
    hexDigit (n % 16)]

/-- How one character is written: ASCII as itself unless it needs an escape, every other character
as one code or a pair of codes. -/
def writeChar (c : Char) : List Char :=
  if c = '"' then ['\\', '"']
  else if c = '\\' then ['\\', '\\']
  else if c = '\n' then ['\\', 'n']
  else if c = '\r' then ['\\', 'r']
  else if c = '\t' then ['\\', 't']
  else if c = '\x0c' then ['\\', 'f']
  else if c = '\x08' then ['\\', 'b']
  else if 0x20 ≤ c.toNat && c.toNat ≤ 0x7e then [c]
  else if c.toNat < 0x10000 then codeEscape c.toNat
  else
    codeEscape (0xd800 + (c.toNat - 0x10000) / 0x400) ++
      codeEscape (0xdc00 + (c.toNat - 0x10000) % 0x400)

def writeText (text : String) : String :=
  String.ofList ('"' :: text.toList.flatMap writeChar ++ ['"'])

end NativeVariants.Json
