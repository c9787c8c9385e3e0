import NativeVariants.Text.Bands

set_option autoImplicit false

/-!
Blank characters: white space and the separators that count as such, ASCII and beyond.
-/

namespace NativeVariants.Text

/-- Code points of blank characters. The zero-width space is not among them. -/
def blankBands : List Nat := [
  0x9, 0xe, 0x1c, 0x21, 0x85, 0x86, 0xa0, 0xa1, 0x1680, 0x1681, 0x2000, 0x200b,
  0x2028, 0x202a, 0x202f, 0x2030, 0x205f, 0x2060, 0x3000, 0x3001]

def isBlank (c : Char) : Bool := inBands blankBands c.toNat

def stripChars (text : List Char) : List Char :=
  ((text.dropWhile isBlank).reverse.dropWhile isBlank).reverse

def strip (text : String) : String := String.ofList (stripChars text.toList)

end NativeVariants.Text
