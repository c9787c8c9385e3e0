import NativeVariants.Datum
import NativeVariants.Number.Reading

set_option autoImplicit false

/-!
Values of macros whose body is one literal, perhaps with a sign and in parentheses. A body of any
other form has no value.
-/

namespace NativeVariants.Header
open Number Text

inductive LiteralFault where
  /-- The spelling has the form of a number and is none, or has too many digits. -/
  | badNumeral
  deriving DecidableEq, Repr

/-- Letters that may follow an integer. -/
def isIntSuffix (c : Char) : Bool := c = 'u' || c = 'U' || c = 'l' || c = 'L'

/-- Letters of which one may follow a decimal. -/
def isRealSuffix (c : Char) : Bool := c = 'f' || c = 'F' || c = 'l' || c = 'L'

/-- Whether nothing follows, or a line break alone. -/
def isEnd (text : List Char) : Bool := text.isEmpty || text = ['\n']

def isHexDigit (c : Char) : Bool :=
  ('0' ≤ c && c ≤ '9') || ('a' ≤ c && c ≤ 'f') || ('A' ≤ c && c ≤ 'F')

def startsHex : List Char → Bool
  | '0' :: x :: _ => x = 'x' || x = 'X'
  | _ => false

/-- An integer: hexadecimal or decimal digits and then suffix letters. -/
def isIntSpelling (text : List Char) : Bool :=
  let afterDigits :=
    if startsHex text && ((text.drop 2).head?.map isHexDigit).getD false then
      some ((text.drop 2).dropWhile isHexDigit)
    else if (text.head?.map isDecimal).getD false then some (text.dropWhile isDecimal)
    else none
  match afterDigits with
  | none => false
  | some rest => isEnd (rest.dropWhile isIntSuffix)

/-- An exponent with at least one digit is passed; anything else is left. -/
def dropExponent (text : List Char) : List Char :=
  match text with
  | c :: rest =>
      if c = 'e' || c = 'E' then
        let digits :=
          match rest with
          | d :: more => if d = '-' || d = '+' then more else rest
          | [] => []
        if (digits.head?.map isDecimal).getD false then digits.dropWhile isDecimal else text
      else text
  | [] => text

/-- A decimal: a point with digits on one side at least, an exponent, and a suffix letter. -/
def isRealSpelling (text : List Char) : Bool :=
  let whole := text.takeWhile isDecimal
  match text.dropWhile isDecimal with
  | '.' :: rest =>
      let fraction := rest.takeWhile isDecimal
      if whole.isEmpty && fraction.isEmpty then false
      else
        match dropExponent (rest.dropWhile isDecimal) with
        | c :: more => isEnd (c :: more) || (isRealSuffix c && isEnd more)
        | [] => true
  | _ => false

/-- Characters and escapes up to the closing quote, with which the text ends. -/
def closesText : List Char → Bool
  | [] => false
  | '"' :: rest => isEnd rest
  | '\\' :: c :: rest => c ≠ '\n' && closesText rest
  | ['\\'] => false
  | _ :: rest => closesText rest

def isTextSpelling : List Char → Bool
  | '"' :: rest => closesText rest
  | _ => false

def dropEnd (p : Char → Bool) (text : List Char) : List Char :=
  (text.reverse.dropWhile p).reverse

/-- The value of an integer. A leading zero makes it octal. -/
def intValue (text : List Char) : Except LiteralFault Int :=
  let digits := dropEnd isIntSuffix text
  let read? :=
    if startsHex digits then readInt? 16 (digits.drop 2)
    else if digits.length > 1 && digits.head? = some '0' then readInt? 8 digits
    else readInt? 10 digits
  match read? with
  | some n => .ok n
  | none => .error .badNumeral

def realValue (text : List Char) : Except LiteralFault Binary64 :=
  match readBinary64? (dropEnd isRealSuffix text) with
  | some x => .ok x
  | none => .error .badNumeral

/-- The value of one token. A text is taken as it stands between its quotes. -/
def literal (token : String) : Except LiteralFault (Option Datum) := do
  let text := token.toList
  if isIntSpelling text then return some (.int (← intValue text))
  else if isRealSpelling text then return some (.real (← realValue text))
  else if isTextSpelling text then
    return some (.text (String.ofList (text.tail.take (text.length - 2))))
  else return none

/-- The tokens within all pairs of parentheses that enclose them. -/
def unwrap : List String → List String
  | [] => []
  | first :: rest =>
      if first = "(" && rest.getLast? = some ")" then unwrap rest.dropLast else first :: rest
termination_by tokens => tokens.length
decreasing_by
  simp only [List.length_cons, List.length_dropLast]
  omega

def negated : Datum → Datum
  | .int n => .int (-n)
  | .real x => .real x.negate
  | value => value

/-- The value after a sign. A text has no negative. -/
def signed (negative : Bool) (value : Datum) : Option Datum :=
  match value with
  | .text _ => if negative then none else some value
  | _ => some (if negative then negated value else value)

def macroValue (tokens : List String) : Except LiteralFault (Option Datum) := do
  match unwrap tokens with
  | [token] => literal token
  | [sign, token] =>
      if sign = "-" || sign = "+" then
        return (← literal token).bind (signed (sign = "-"))
      else return none
  | _ => return none

/-- The value of a macro from its name and body. Some readers of headers hand over one token more
than the body has, so a body without a value is tried without its last token. -/
def definedValue (tokens : List String) : Except LiteralFault (Option Datum) := do
  let body := tokens.drop 1
  match ← macroValue body with
  | some value => return some value
  | none => if body.length > 1 then macroValue body.dropLast else return none

end NativeVariants.Header
