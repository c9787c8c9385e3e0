import NativeVariants.Number.Binary64

set_option autoImplicit false

/-!
The shortest decimal text of a double: the fewest digits that read back as the same number, and
of those the nearest to it. Grids of one, two, up to seventeen digits are tried in turn; on each
only the two neighbours of the number need a look.
-/

namespace NativeVariants.Number

/-- The numbers that round to one finite positive double, as integers over a common denominator. -/
structure Interval where
  low : Nat
  value : Nat
  high : Nat
  den : Nat
  /-- Whether the ends belong to it. -/
  closed : Bool

def Interval.ofFinite (significand : Nat) (exponent : Int) : Interval :=
  let unit := Nat.pow 2 (exponent - 2).toNat
  let below := if significand = Nat.pow 2 52 && Binary64.minExponent < exponent then 1 else 2
  { low := (4 * significand - below) * unit
    value := 4 * significand * unit
    high := (4 * significand + 2) * unit
    den := Nat.pow 2 (2 - exponent).toNat
    closed := significand % 2 = 0 }

def Interval.holds (i : Interval) (digits : Nat) (place : Int) : Bool :=
  let point := digits * Nat.pow 10 place.toNat * i.den
  let unit := Nat.pow 10 (-place).toNat
  if i.closed then i.low * unit ≤ point && point ≤ i.high * unit
  else i.low * unit < point && point < i.high * unit

/-- The number of digits before the decimal point, or minus the number of zeros after it. -/
def Interval.order (i : Interval) : Int :=
  let below (p : Int) : Bool := i.value * Nat.pow 10 (-p).toNat < Nat.pow 10 p.toNat * i.den
  let guess := ((i.value.log2 : Int) - i.den.log2) * 30103 / 100000
  if below (guess - 1) then guess - 1
  else if below guess then guess
  else if below (guess + 1) then guess + 1
  else guess + 2

/-- A point of the grid of the given place that reads back, if there is one. -/
def Interval.onGrid? (i : Interval) (place : Int) : Option Nat :=
  let num := i.value * Nat.pow 10 (-place).toNat
  let den := i.den * Nat.pow 10 place.toNat
  let floor := num / den
  match i.holds floor place, i.holds (floor + 1) place with
  | true, true => some (Binary64.nearest num den)
  | true, false => some floor
  | false, true => some (floor + 1)
  | false, false => none

/-- The first grid with a hit, from the coarsest of the given number of grids to the finest. -/
def Interval.search (i : Interval) (place : Int) : Nat → Nat × Int
  | 0 => (0, place)
  | grids + 1 =>
      match i.onGrid? place with
      | some digits => (digits, place)
      | none => i.search (place - 1) grids

def dropZeros : Nat → Nat → Int → Nat × Int
  | 0, digits, place => (digits, place)
  | fuel + 1, digits, place =>
      if digits ≠ 0 ∧ digits % 10 = 0 then dropZeros fuel (digits / 10) (place + 1)
      else (digits, place)

/-- The shortest digits of a finite positive double and the place of the last one. -/
def shortest (significand : Nat) (exponent : Int) : Nat × Int :=
  let i := Interval.ofFinite significand exponent
  let (digits, place) := i.search (i.order - 1) 17
  dropZeros 18 digits place

/-- How numbers are written out: the orders that are written without an exponent, and the least
number of digits of an exponent. -/
structure Style where
  leastOrder : Int
  greatestOrder : Int
  exponentDigits : Nat

/-- Plain notation from `0.0001` up to sixteen digits before the point; otherwise an exponent with
a sign and at least two digits. -/
def Style.standard : Style := ⟨-3, 16, 2⟩

def padLeft (width : Nat) (digits : String) : String :=
  String.ofList (List.replicate (width - digits.length) '0') ++ digits

def Style.write (style : Style) (digits : Nat) (place : Int) : String :=
  let text := toString digits
  let order := (text.length : Int) + place
  if style.leastOrder ≤ order && order ≤ style.greatestOrder then
    if 0 ≤ place then text ++ String.ofList (List.replicate place.toNat '0') ++ ".0"
    else if 0 < order then
      String.ofList (text.toList.take order.toNat) ++ "." ++
        String.ofList (text.toList.drop order.toNat)
    else "0." ++ String.ofList (List.replicate (-order).toNat '0') ++ text
  else
    let mantissa := String.ofList (text.toList.take 1) ++
      (if text.length = 1 then "" else "." ++ String.ofList (text.toList.drop 1))
    let exponent := order - 1
    mantissa ++ "e" ++ (if exponent < 0 then "-" else "+") ++
      padLeft style.exponentDigits (toString exponent.natAbs)

/-- The text of a double. A whole number keeps one zero after the point. -/
def Binary64.display : Binary64 → String
  | .finite negative significand exponent =>
      let sign := if negative then "-" else ""
      if significand = 0 then sign ++ "0.0"
      else
        let (digits, place) := shortest significand exponent
        sign ++ Style.standard.write digits place
  | .infinite negative => if negative then "-inf" else "inf"
  | .nan => "nan"

end NativeVariants.Number
