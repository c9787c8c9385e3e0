import NativeVariants.Number.Binary64
import NativeVariants.Text.Case
import NativeVariants.Text.Digit

set_option autoImplicit false

/-!
Doubles from their decimal texts: digits with an optional point and exponent, or one of the words
for infinity and the absence of a number.
-/

namespace NativeVariants.Number
open NativeVariants.Text

/-- Digits of all scripts, with single underscores between digits; the rest follows. -/
def takeDigits : List Char → List Nat × List Char
  | [] => ([], [])
  | c :: '_' :: d :: rest =>
      match digitValue? c, digitValue? d with
      | some digit, some _ =>
          let (digits, rest) := takeDigits (d :: rest)
          (digit :: digits, rest)
      | some digit, none => ([digit], '_' :: d :: rest)
      | none, _ => ([], c :: '_' :: d :: rest)
  | c :: rest =>
      match digitValue? c with
      | some digit =>
          let (digits, rest) := takeDigits rest
          (digit :: digits, rest)
      | none => ([], c :: rest)

/-- A whole exponent, of one digit at least, up to the end of the text. -/
def readExponent? (text : List Char) : Option Int :=
  let (negative, text) := match text with
    | '-' :: rest => (true, rest)
    | '+' :: rest => (false, rest)
    | rest => (false, rest)
  match takeDigits text with
  | (digit :: digits, []) =>
      let value : Int := ofDigits 10 (digit :: digits)
      some (if negative then -value else value)
  | _ => none

def readMagnitude? (negative : Bool) (text : List Char) : Option Binary64 :=
  let (whole, rest) := takeDigits text
  let (fraction, rest) := match rest with
    | '.' :: rest => takeDigits rest
    | rest => ([], rest)
  if whole.isEmpty && fraction.isEmpty then none
  else
    let exponent? := match rest with
      | [] => some 0
      | c :: rest => if c = 'e' || c = 'E' then readExponent? rest else none
    exponent?.map fun exponent =>
      Binary64.ofDecimal negative (ofDigits 10 (whole ++ fraction)) (exponent - fraction.length)

/-- A double: blanks around it and one sign are allowed. -/
def readBinary64? (text : List Char) : Option Binary64 :=
  let (negative, rest) := match trimNumeral text with
    | '-' :: rest => (true, rest)
    | '+' :: rest => (false, rest)
    | rest => (false, rest)
  let word := String.ofList (rest.map Char.toLower)
  if word = "inf" || word = "infinity" then some (.infinite negative)
  else if word = "nan" then some .nan
  else readMagnitude? negative rest

end NativeVariants.Number
