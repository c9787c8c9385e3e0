import NativeVariants.Text.Printable

set_option autoImplicit false

/-!
Quoted texts. A text stands between single quotes, or between double quotes when it holds single
quotes only; the quote, the backslash and everything unprintable are written as escapes.
-/

namespace NativeVariants.Text

def hexDigit (n : Nat) : Char :=
  if n < 10 then Char.ofNat (48 + n) else Char.ofNat (87 + n)

def hexDigits : Nat → Nat → List Char
  | 0, _ => []
  | width + 1, n => hexDigits width (n / 16) ++ [hexDigit (n % 16)]

def escapeCode (code : Nat) : List Char :=
  if code < 0x100 then '\\' :: 'x' :: hexDigits 2 code
  else if code < 0x10000 then '\\' :: 'u' :: hexDigits 4 code
  else '\\' :: 'U' :: hexDigits 8 code

def escapeChar (quote c : Char) : List Char :=
  if c = quote || c = '\\' then ['\\', c]
  else if c = '\t' then ['\\', 't']
  else if c = '\n' then ['\\', 'n']
  else if c = '\r' then ['\\', 'r']
  else if isPrintable c then [c]
  else escapeCode c.toNat

def quoteFor (text : List Char) : Char :=
  if text.contains '\'' && !text.contains '"' then '"' else '\''

def quotedChars (text : List Char) : List Char :=
  let quote := quoteFor text
  quote :: text.flatMap (escapeChar quote) ++ [quote]

def quoted (text : String) : String := String.ofList (quotedChars text.toList)

/-- Bytes in quotes: ASCII as above, every other byte as an escape. -/
def quotedBytes (bytes : List Nat) : String :=
  let text := bytes.map Char.ofNat
  let quote := quoteFor text
  let escape (c : Char) : List Char :=
    if c.toNat < 0x80 then escapeChar quote c else escapeCode c.toNat
  String.ofList ('b' :: quote :: text.flatMap escape ++ [quote])

end NativeVariants.Text
