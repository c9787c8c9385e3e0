import NativeVariants.Text.Blank

set_option autoImplicit false

/-!
Decimal digits of all scripts, and whole numbers written with them. Every script writes its ten
digits in one row of ten code points, so a band of digits fixes their values.
-/

namespace NativeVariants.Text

/-- Code points of decimal digits. Each band holds whole rows of ten, from zero to nine. -/
def digitBands : List Nat := [
  0x30, 0x3a, 0x660, 0x66a, 0x6f0, 0x6fa, 0x7c0, 0x7ca, 0x966, 0x970, 0x9e6, 0x9f0,
  0xa66, 0xa70, 0xae6, 0xaf0, 0xb66, 0xb70, 0xbe6, 0xbf0, 0xc66, 0xc70, 0xce6, 0xcf0,
  0xd66, 0xd70, 0xde6, 0xdf0, 0xe50, 0xe5a, 0xed0, 0xeda, 0xf20, 0xf2a, 0x1040, 0x104a,
  0x1090, 0x109a, 0x17e0, 0x17ea, 0x1810, 0x181a, 0x1946, 0x1950, 0x19d0, 0x19da, 0x1a80, 0x1a8a,
  0x1a90, 0x1a9a, 0x1b50, 0x1b5a, 0x1bb0, 0x1bba, 0x1c40, 0x1c4a, 0x1c50, 0x1c5a, 0xa620, 0xa62a,
  0xa8d0, 0xa8da, 0xa900, 0xa90a, 0xa9d0, 0xa9da, 0xa9f0, 0xa9fa, 0xaa50, 0xaa5a, 0xabf0, 0xabfa,
  0xff10, 0xff1a, 0x104a0, 0x104aa, 0x10d30, 0x10d3a, 0x11066, 0x11070, 0x110f0, 0x110fa, 0x11136, 0x11140,
  0x111d0, 0x111da, 0x112f0, 0x112fa, 0x11450, 0x1145a, 0x114d0, 0x114da, 0x11650, 0x1165a, 0x116c0, 0x116ca,
  0x11730, 0x1173a, 0x118e0, 0x118ea, 0x11950, 0x1195a, 0x11c50, 0x11c5a, 0x11d50, 0x11d5a, 0x11da0, 0x11daa,
  0x16a60, 0x16a6a, 0x16ac0, 0x16aca, 0x16b50, 0x16b5a, 0x1d7ce, 0x1d800, 0x1e140, 0x1e14a, 0x1e2f0, 0x1e2fa,
  0x1e950, 0x1e95a, 0x1fbf0, 0x1fbfa]

/-- The value of a decimal digit in the given bands. -/
def digitIn : List Nat → Nat → Option Nat
  | lo :: hi :: rest, code =>
      if lo ≤ code && code < hi then some ((code - lo) % 10) else digitIn rest code
  | _, _ => none

def digitValue? (c : Char) : Option Nat := digitIn digitBands c.toNat

def isDecimal (c : Char) : Bool := (digitValue? c).isSome

/-- The value of a digit of any base up to thirty-six, in ASCII. -/
def asciiDigit? (c : Char) : Option Nat :=
  if '0' ≤ c && c ≤ '9' then some (c.toNat - 48)
  else if 'a' ≤ c && c ≤ 'z' then some (c.toNat - 87)
  else if 'A' ≤ c && c ≤ 'Z' then some (c.toNat - 55)
  else none

/-- A digit of the base: decimal digits of all scripts, then ASCII letters. -/
def baseDigit? (base : Nat) (c : Char) : Option Nat :=
  match (digitValue? c).or (asciiDigit? c) with
  | some value => if value < base then some value else none
  | none => none

/-- The value of a row of digits, most significant first. -/
def ofDigits (base : Nat) (digits : List Nat) : Nat :=
  digits.foldl (fun value digit => base * value + digit) 0

/-- The longest decimal numeral that is read or written. -/
def maxDigits : Nat := 4300

/-- Digits with single underscores between them; at least one digit. -/
def groupedDigits? (base : Nat) : List Char → Option (List Nat)
  | [] => none
  | [c] => (baseDigit? base c).map ([·])
  | c :: '_' :: rest => do
      let digit ← baseDigit? base c
      let digits ← groupedDigits? base rest
      return digit :: digits
  | c :: rest => do
      let digit ← baseDigit? base c
      let digits ← groupedDigits? base rest
      return digit :: digits

/-- A numeral without sign. Only bases that are powers of two have numerals of any length. -/
def readNat? (base : Nat) (text : List Char) : Option Nat := do
  let digits ← groupedDigits? base text
  if maxDigits < digits.length && !(base == 2 || base == 8 || base == 16) then none
  else return ofDigits base digits

/-- Blanks that may surround a numeral: all but the four ASCII separators. -/
def isNumeralBlank (c : Char) : Bool := isBlank c && !(0x1c ≤ c.toNat && c.toNat ≤ 0x1f)

def trimNumeral (text : List Char) : List Char :=
  ((text.dropWhile isNumeralBlank).reverse.dropWhile isNumeralBlank).reverse

/-- A whole number: blanks around it and one sign are allowed. -/
def readInt? (base : Nat) (text : List Char) : Option Int :=
  match trimNumeral text with
  | '-' :: rest => (readNat? base rest).map fun n => -(n : Int)
  | '+' :: rest => (readNat? base rest).map fun n => (n : Int)
  | rest => (readNat? base rest).map fun n => (n : Int)

/-- Whether the decimal text of a number is short enough to be written. -/
def isWritable (n : Int) : Bool := n.natAbs < Nat.pow 10 maxDigits

end NativeVariants.Text
