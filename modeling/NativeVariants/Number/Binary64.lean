set_option autoImplicit false

/-!
Double-precision numbers as exact data: a finite number is a significand times a power of two.
Every number is made by rounding an exact ratio once, to the nearest, ties to even.
-/

namespace NativeVariants.Number

inductive Binary64 where
  /-- `significand * 2 ^ exponent`, with a significand below `2 ^ 53`. -/
  | finite (negative : Bool) (significand : Nat) (exponent : Int)
  | infinite (negative : Bool)
  | nan
  deriving DecidableEq, Repr, Inhabited

namespace Binary64

def minExponent : Int := -1074

def maxExponent : Int := 971

def zero (negative : Bool) : Binary64 := .finite negative 0 minExponent

/-- The integer nearest to `num / den`, a tie going to the even one. -/
def nearest (num den : Nat) : Nat :=
  let quotient := num / den
  let twice := 2 * (num % den)
  if twice < den then quotient
  else if den < twice then quotient + 1
  else quotient + quotient % 2

/-- `num / den / 2 ^ exponent` as a ratio. -/
def scaled (num den : Nat) (exponent : Int) : Nat × Nat :=
  (num * Nat.pow 2 (-exponent).toNat, den * Nat.pow 2 exponent.toNat)

/-- The exponent under which `num / den` has a significand of 53 bits, or the least exponent. -/
def exponentOf (num den : Nat) : Int :=
  let guess : Int := (num.log2 : Int) - den.log2 - 53
  let (n, d) := scaled num den guess
  max minExponent (if n < d * Nat.pow 2 53 then guess else guess + 1)

/-- The double nearest to `num / den`; beyond the largest finite one, infinity. -/
def ofRatio (negative : Bool) (num den : Nat) : Binary64 :=
  if num = 0 then zero negative
  else
    let exponent := exponentOf num den
    let (n, d) := scaled num den exponent
    let significand := nearest n d
    let (significand, exponent) :=
      if significand = Nat.pow 2 53 then (Nat.pow 2 52, exponent + 1) else (significand, exponent)
    if maxExponent < exponent then .infinite negative
    else .finite negative significand exponent

def digitCount (n : Nat) : Nat := (Nat.toDigits 10 n).length

/-- The double nearest to `digits * 10 ^ exponent`. Magnitudes far outside the range are decided
by their order alone. -/
def ofDecimal (negative : Bool) (digits : Nat) (exponent : Int) : Binary64 :=
  let order := (digitCount digits : Int) + exponent
  if digits = 0 then zero negative
  else if 310 < order then .infinite negative
  else if order < -330 then zero negative
  else ofRatio negative (digits * Nat.pow 10 exponent.toNat) (Nat.pow 10 (-exponent).toNat)

def ofInt (n : Int) : Binary64 := ofRatio (n < 0) n.natAbs 1

def negate : Binary64 → Binary64
  | .finite negative significand exponent => .finite (!negative) significand exponent
  | .infinite negative => .infinite (!negative)
  | .nan => .nan

/-- A finite number as an integer over a power of two. -/
def ratio (negative : Bool) (significand : Nat) (exponent : Int) : Int × Nat :=
  let magnitude : Int := (significand * Nat.pow 2 exponent.toNat : Nat)
  (if negative then -magnitude else magnitude, Nat.pow 2 (-exponent).toNat)

def add : Binary64 → Binary64 → Binary64
  | .finite n s e, .finite n' s' e' =>
      let (a, d) := ratio n s e
      let (b, d') := ratio n' s' e'
      let sum := a * d' + b * d
      if sum = 0 then zero (n && n') else ofRatio (sum < 0) sum.natAbs (d * d')
  | .infinite n, .infinite n' => if n = n' then .infinite n else .nan
  | .nan, _ => .nan
  | _, .nan => .nan
  | .infinite n, _ => .infinite n
  | _, .infinite n => .infinite n

def mul : Binary64 → Binary64 → Binary64
  | .finite n s e, .finite n' s' e' =>
      let (a, d) := ratio n s e
      let (b, d') := ratio n' s' e'
      ofRatio (n != n') (a * b).natAbs (d * d')
  | .nan, _ => .nan
  | _, .nan => .nan
  | .infinite n, .infinite n' => .infinite (n != n')
  | .infinite n, .finite n' s _ => if s = 0 then .nan else .infinite (n != n')
  | .finite n s _, .infinite n' => if s = 0 then .nan else .infinite (n != n')

def truncate? : Binary64 → Option Int
  | .finite negative significand exponent =>
      let (num, den) := ratio negative significand exponent
      some (num.tdiv den)
  | _ => none

def toInt? : Binary64 → Option Int
  | .finite negative significand exponent =>
      let (num, den) := ratio negative significand exponent
      if num % den = 0 then some (num / den) else none
  | _ => none

def isZero : Binary64 → Bool
  | .finite _ significand _ => significand = 0
  | _ => false

end Binary64

end NativeVariants.Number
