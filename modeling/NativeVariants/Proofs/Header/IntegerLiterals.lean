import Mathlib.Data.Nat.Digits.Defs
import NativeVariants.Header.Literal
import NativeVariants.Proofs.Text.Numerals

set_option autoImplicit false

/-!
Macros whose body is an integer. An integer is digits in one of three bases with suffix letters
behind them; a sign, parentheses around it and one more token behind the body do not change which
number it is (`definedValue_integer`).
-/

namespace NativeVariants.Header
open Number Text

/-! ### Spellings of integers -/

inductive IntDigits : List Char → Prop
  | hexadecimal {x : Char} {digits : List Char} (mark : x = 'x' ∨ x = 'X') (nonempty : digits ≠ [])
      (each : ∀ c ∈ digits, isHexDigit c = true) : IntDigits ('0' :: x :: digits)
  | decimal {digits : List Char} (nonempty : digits ≠ [])
      (each : ∀ c ∈ digits, isDecimal c = true) : IntDigits digits

section Splitting

variable {p : Char → Bool} {inside rest : List Char}

theorem dropWhile_append_of_ends (all : ∀ c ∈ inside, p c = true)
    (ends : ∀ c ∈ rest.head?, p c = false) : (inside ++ rest).dropWhile p = rest := by
  rw [List.dropWhile_append_of_pos all]
  cases rest with
  | nil => rfl
  | cons c more => simp [ends c rfl]

theorem dropEnd_append (none : ∀ c ∈ inside.getLast?, p c = false) (all : ∀ c ∈ rest, p c = true) :
    dropEnd p (inside ++ rest) = inside := by
  rw [dropEnd, List.reverse_append, dropWhile_append_of_ends (by simpa using all),
    List.reverse_reverse]
  simpa using none

end Splitting

theorem isEnd_iff {tail : List Char} : isEnd tail = true ↔ tail = [] ∨ tail = ['\n'] := by
  simp [isEnd]

def EndsDigits (c : Char) : Prop :=
  isDecimal c = false ∧ isHexDigit c = false ∧ c ≠ 'x' ∧ c ≠ 'X'

theorem endsDigits_of_isIntSuffix {c : Char} (letter : isIntSuffix c = true) : EndsDigits c := by
  simp only [isIntSuffix, Bool.or_eq_true, decide_eq_true_eq] at letter
  rcases letter with ((rfl | rfl) | rfl) | rfl <;> exact ⟨by decide, by decide, by decide, by decide⟩

theorem endsDigits_newline : EndsDigits '\n' := ⟨by decide, by decide, by decide, by decide⟩

theorem startsHex_iff {text : List Char} :
    startsHex text = true ↔ ∃ x rest, text = '0' :: x :: rest ∧ (x = 'x' ∨ x = 'X') := by
  constructor
  · intro marked
    unfold startsHex at marked
    split at marked
    · rename_i x rest
      exact ⟨x, rest, rfl, by simpa using marked⟩
    · cases marked
  · rintro ⟨x, rest, rfl, mark⟩
    simpa [startsHex] using mark

/-- Decimal digits do not begin like a hexadecimal number. -/
theorem startsHex_append {digits rest : List Char} (nonempty : digits ≠ [])
    (each : ∀ c ∈ digits, isDecimal c = true) (ends : ∀ c ∈ rest.head?, c ≠ 'x' ∧ c ≠ 'X') :
    startsHex (digits ++ rest) = false := by
  by_contra marked
  obtain ⟨x, more, split, mark⟩ := startsHex_iff.mp (Bool.eq_true_of_not_eq_false marked)
  -- The mark would be the second digit, or what the only digit is followed by.
  match digits, rest, split with
  | [], _, _ => exact nonempty rfl
  | [_], _, split =>
      obtain rfl := (List.cons.inj split).2
      rcases mark with rfl | rfl
      · exact (ends 'x' rfl).1 rfl
      · exact (ends 'X' rfl).2 rfl
  | _ :: d :: _, _, split =>
      obtain rfl := (List.cons.inj (List.cons.inj split).2).1
      have decimal := each d (by simp)
      rcases mark with rfl | rfl <;> exact absurd decimal (by decide)

theorem takeWhile_ne_nil {p : Char → Bool} {text : List Char}
    (first : (text.head?.map p).getD false = true) : text.takeWhile p ≠ [] := by
  cases text with
  | nil => cases first
  | cons c rest =>
      have here : p c = true := first
      simp [here]

def afterInt? (text : List Char) : Option (List Char) :=
  if startsHex text && ((text.drop 2).head?.map isHexDigit).getD false then
    some ((text.drop 2).dropWhile isHexDigit)
  else if (text.head?.map isDecimal).getD false then some (text.dropWhile isDecimal)
  else none

theorem isIntSpelling_eq (text : List Char) :
    isIntSpelling text =
      match afterInt? text with
      | none => false
      | some rest => isEnd (rest.dropWhile isIntSuffix) := rfl

theorem afterInt?_append {digits rest : List Char} (isInt : IntDigits digits)
    (ends : ∀ c ∈ rest.head?, EndsDigits c) : afterInt? (digits ++ rest) = some rest := by
  cases isInt with
  | @hexadecimal x digits mark nonempty each =>
      have passed : (digits ++ rest).dropWhile isHexDigit = rest :=
        dropWhile_append_of_ends each fun c first => (ends c first).2.1
      obtain ⟨c, more, rfl⟩ := List.exists_cons_of_ne_nil nonempty
      have here := each c List.mem_cons_self
      simpa [afterInt?, startsHex, mark, here] using passed
  | decimal nonempty each =>
      have passed : (digits ++ rest).dropWhile isDecimal = rest :=
        dropWhile_append_of_ends each fun c first => (ends c first).1
      have unmarked := startsHex_append nonempty each fun c first => (ends c first).2.2
      obtain ⟨c, more, rfl⟩ := List.exists_cons_of_ne_nil nonempty
      have here := each c List.mem_cons_self
      rw [afterInt?, unmarked, passed]
      simp [here]

theorem digits_of_afterInt? {text rest : List Char} (found : afterInt? text = some rest) :
    ∃ digits, text = digits ++ rest ∧ IntDigits digits := by
  unfold afterInt? at found
  split at found
  · rename_i marked
    obtain ⟨marked, first⟩ := Bool.and_eq_true_iff.mp marked
    obtain ⟨x, more, rfl, mark⟩ := startsHex_iff.mp marked
    obtain rfl := Option.some.inj found
    refine ⟨'0' :: x :: more.takeWhile isHexDigit, ?_, .hexadecimal mark ?_ ?_⟩
    · simp
    · exact takeWhile_ne_nil first
    · exact List.all_eq_true.mp List.all_takeWhile
  · split at found
    · rename_i first
      obtain rfl := Option.some.inj found
      refine ⟨text.takeWhile isDecimal, List.takeWhile_append_dropWhile.symm, .decimal ?_ ?_⟩
      · exact takeWhile_ne_nil first
      · exact List.all_eq_true.mp List.all_takeWhile
    · cases found

theorem IntDigits.getLast?_not_suffix {digits : List Char} (isInt : IntDigits digits) :
    ∀ c ∈ digits.getLast?, isIntSuffix c = false := by
  intro c last
  by_contra letter
  have ends := endsDigits_of_isIntSuffix (Bool.eq_true_of_not_eq_false letter)
  cases isInt with
  | @hexadecimal x digits mark nonempty each =>
      have same : ('0' :: x :: digits).getLast? = digits.getLast? := by
        rw [List.getLast?_cons_of_ne_nil (List.cons_ne_nil _ _),
          List.getLast?_cons_of_ne_nil nonempty]
      rw [same] at last
      simpa [ends.2.1] using each c (List.mem_of_getLast? last)
  | decimal nonempty each => simpa [ends.1] using each c (List.mem_of_getLast? last)

theorem IntDigits.exists_head {digits : List Char} (isInt : IntDigits digits) :
    ∃ c rest, digits = c :: rest ∧ isDecimal c = true := by
  cases isInt with
  | hexadecimal mark nonempty each => exact ⟨'0', _, rfl, by decide⟩
  | decimal nonempty each =>
      obtain ⟨c, rest, rfl⟩ := List.exists_cons_of_ne_nil nonempty
      exact ⟨c, rest, rfl, each c List.mem_cons_self⟩

/-- A text that is cut into the digits of an integer, its suffix letters, and perhaps a line break. -/
structure SplitsInt (text digits suffix tail : List Char) : Prop where
  split : text = digits ++ (suffix ++ tail)
  isInt : IntDigits digits
  letters : ∀ c ∈ suffix, isIntSuffix c = true
  ends : tail = [] ∨ tail = ['\n']

/-- The digits of an integer go on neither in its suffix letters nor in the line break. -/
theorem SplitsInt.endsDigits_of_head {text digits suffix tail : List Char}
    (splits : SplitsInt text digits suffix tail) : ∀ c ∈ (suffix ++ tail).head?, EndsDigits c := by
  intro c first
  cases suffix with
  | nil =>
      rcases splits.ends with rfl | rfl
      · cases first
      · obtain rfl : '\n' = c := by simpa using first
        exact endsDigits_newline
  | cons d more =>
      obtain rfl : d = c := by simpa using first
      exact endsDigits_of_isIntSuffix (splits.letters d List.mem_cons_self)

theorem isIntSpelling_iff {text : List Char} :
    isIntSpelling text = true ↔ ∃ digits suffix tail, SplitsInt text digits suffix tail := by
  rw [isIntSpelling_eq]
  constructor
  · intro isInt
    split at isInt
    · cases isInt
    · rename_i rest found
      obtain ⟨digits, rfl, isDigits⟩ := digits_of_afterInt? found
      exact ⟨digits, rest.takeWhile isIntSuffix, rest.dropWhile isIntSuffix, by simp, isDigits,
        List.all_eq_true.mp List.all_takeWhile, isEnd_iff.mp isInt⟩
  · rintro ⟨digits, suffix, tail, splits⟩
    have ended := splits.endsDigits_of_head
    obtain ⟨rfl, isDigits, letters, ends⟩ := splits
    have left : (suffix ++ tail).dropWhile isIntSuffix = tail := by
      refine dropWhile_append_of_ends letters fun c first => ?_
      rcases ends with rfl | rfl
      · cases first
      · obtain rfl : '\n' = c := by simpa using first
        decide
    rw [afterInt?_append isDigits ended]
    simpa [left] using isEnd_iff.mpr ends

/-! ### Values of integers -/

def hexValue (c : Char) : Nat := if c.isDigit then c.toNat - 48 else c.toLower.toNat - 87

def spelledNumber (base : Nat) (digits : List Char) : Nat :=
  Nat.ofDigits base (digits.reverse.map hexValue)

theorem ofDigits_map_hexValue (base : Nat) (digits : List Char) :
    ofDigits base (digits.map hexValue) = spelledNumber base digits := by
  rw [spelledNumber, List.map_reverse, Nat.ofDigits_eq_foldr, List.foldr_reverse, ofDigits]
  congr
  funext value digit
  simp [Nat.add_comm]

theorem le_iff_toNat_le {a b : Char} : a ≤ b ↔ a.toNat ≤ b.toNat := UInt32.le_iff_toNat_le

def hexCodes : List Nat := List.range' 48 10 ++ List.range' 65 6 ++ List.range' 97 6

theorem mem_hexCodes {c : Char} (hex : isHexDigit c = true) : c.toNat ∈ hexCodes := by
  simp only [isHexDigit, Bool.or_eq_true, Bool.and_eq_true, decide_eq_true_eq,
    le_iff_toNat_le] at hex
  simp only [hexCodes, List.mem_append, List.mem_range'_1]
  have bounds : '0'.toNat = 48 ∧ '9'.toNat = 57 ∧ 'a'.toNat = 97 ∧ 'f'.toNat = 102 ∧
      'A'.toNat = 65 ∧ 'F'.toNat = 70 := ⟨rfl, rfl, rfl, rfl, rfl, rfl⟩
  omega

theorem hexValue_lt {c : Char} (hex : isHexDigit c = true) : hexValue c < 16 := by
  have all : ∀ code ∈ hexCodes, hexValue (Char.ofNat code) < 16 := by decide
  simpa using all c.toNat (mem_hexCodes hex)

theorem baseDigit?_of_isHexDigit {base : Nat} {c : Char} (hex : isHexDigit c = true)
    (small : hexValue c < base) : baseDigit? base c = some (hexValue c) := by
  have all : ∀ code ∈ hexCodes, (digitValue? (Char.ofNat code)).or
      (asciiDigit? (Char.ofNat code)) = some (hexValue (Char.ofNat code)) := by decide
  have value := all c.toNat (mem_hexCodes hex)
  rw [Char.ofNat_toNat] at value
  simp [baseDigit?, value, small]

/-- The digits of an integer in C and what they stand for: a decimal does not begin with a zero,
which makes an integer octal. -/
inductive Spells : List Char → Nat → Prop
  | decimal {digits : List Char} (nonempty : digits ≠ []) (each : ∀ c ∈ digits, c.isDigit = true)
      (noZero : digits.head? ≠ some '0') (short : digits.length ≤ maxDigits) :
      Spells digits (spelledNumber 10 digits)
  | octal {digits : List Char} (each : ∀ c ∈ digits, '0' ≤ c ∧ c ≤ '7') :
      Spells ('0' :: digits) (spelledNumber 8 digits)
  | hexadecimal {x : Char} {digits : List Char} (mark : x = 'x' ∨ x = 'X') (nonempty : digits ≠ [])
      (each : ∀ c ∈ digits, isHexDigit c = true) :
      Spells ('0' :: x :: digits) (spelledNumber 16 digits)

/-- The value of digits with the mark of their base. -/
def readDigits? (digits : List Char) : Option Int :=
  if startsHex digits then readInt? 16 (digits.drop 2)
  else if digits.length > 1 && digits.head? = some '0' then readInt? 8 digits
  else readInt? 10 digits

theorem readDigits?_of_mark {x : Char} (mark : x = 'x' ∨ x = 'X') (rest : List Char) :
    readDigits? ('0' :: x :: rest) = readInt? 16 rest := by
  have marked : startsHex ('0' :: x :: rest) = true := startsHex_iff.mpr ⟨x, rest, rfl, mark⟩
  simp [readDigits?, marked]

theorem intValue_eq (text : List Char) :
    intValue text =
      match readDigits? (dropEnd isIntSuffix text) with
      | some n => .ok n
      | none => .error .badNumeral := rfl

theorem hexValue_of_isDigit {c : Char} (digit : c.isDigit = true) : hexValue c = c.toNat - 48 :=
  if_pos digit

theorem isHexDigit_of_isDigit {c : Char} (digit : c.isDigit = true) : isHexDigit c = true := by
  have bounds := isDigit_iff.mp digit
  simp only [isHexDigit, Bool.or_eq_true, Bool.and_eq_true, decide_eq_true_eq, le_iff_toNat_le]
  have zero : '0'.toNat = 48 := rfl
  have nine : '9'.toNat = 57 := rfl
  omega

theorem isDigit_of_octal {c : Char} (octal : '0' ≤ c ∧ c ≤ '7') :
    c.isDigit = true ∧ hexValue c < 8 := by
  rw [le_iff_toNat_le, le_iff_toNat_le] at octal
  have zero : '0'.toNat = 48 := rfl
  have seven : '7'.toNat = 55 := rfl
  have digit : c.isDigit = true := isDigit_iff.mpr (by omega)
  rw [hexValue_of_isDigit digit]
  exact ⟨digit, by omega⟩

theorem readInt?_of_isHexDigit {base : Nat} {digits : List Char} (nonempty : digits ≠ [])
    (each : ∀ c ∈ digits, isHexDigit c = true ∧ hexValue c < base)
    (short : digits.length ≤ maxDigits ∨ base = 2 ∨ base = 8 ∨ base = 16) :
    readInt? base digits = some (spelledNumber base digits : Int) := by
  have values (c : Char) (inside : c ∈ digits) : baseDigit? base c = some (hexValue c) :=
    baseDigit?_of_isHexDigit (each c inside).1 (each c inside).2
  rw [← List.append_nil digits, readInt?_append nonempty (not_mem_nonDigitCodes_of_digits values)
    (by simp), List.append_nil, readNat?_of_forall values nonempty short, ofDigits_map_hexValue]
  rfl

theorem Spells.readDigits?_eq {digits : List Char} {value : Nat} (spells : Spells digits value) :
    readDigits? digits = some (value : Int) := by
  cases spells with
  | decimal nonempty each noZero short =>
      have unmarked : startsHex digits = false := by
        rw [← List.append_nil digits]
        exact startsHex_append nonempty (fun c inside => isDecimal_of_isDigit (each c inside)) nofun
      have areDigits (c : Char) (inside : c ∈ digits) :
          isHexDigit c = true ∧ hexValue c < 10 := by
        have digit := each c inside
        have bounds := isDigit_iff.mp digit
        rw [hexValue_of_isDigit digit]
        exact ⟨isHexDigit_of_isDigit digit, by omega⟩
      have read : readInt? 10 digits = _ := readInt?_of_isHexDigit nonempty areDigits (.inl short)
      simp [readDigits?, unmarked, noZero, read]
  | @octal digits each =>
      have all : ∀ c ∈ '0' :: digits, '0' ≤ c ∧ c ≤ '7' :=
        List.forall_mem_cons.mpr ⟨by decide, each⟩
      have areDigits (c : Char) (inside : c ∈ '0' :: digits) :
          isHexDigit c = true ∧ hexValue c < 8 := by
        obtain ⟨digit, small⟩ := isDigit_of_octal (all c inside)
        exact ⟨isHexDigit_of_isDigit digit, small⟩
      have read : readInt? 8 ('0' :: digits) = _ :=
        readInt?_of_isHexDigit (List.cons_ne_nil _ _) areDigits (.inr (.inr (.inl rfl)))
      have unmarked : startsHex ('0' :: digits) = false := by
        rw [← List.append_nil ('0' :: digits)]
        exact startsHex_append (List.cons_ne_nil '0' digits)
          (fun c inside => isDecimal_of_isDigit (isDigit_of_octal (all c inside)).1) nofun
      have same : spelledNumber 8 ('0' :: digits) = spelledNumber 8 digits := by
        have zero : hexValue '0' = 0 := rfl
        rw [spelledNumber, List.reverse_cons, List.map_append, Nat.ofDigits_append]
        simp [spelledNumber, zero]
      cases digits with
      | nil => decide
      | cons d more => simp [readDigits?, unmarked, read, same]
  | @hexadecimal x digits mark nonempty each =>
      have read : readInt? 16 digits = _ := readInt?_of_isHexDigit nonempty
        (fun c inside => ⟨each c inside, hexValue_lt (each c inside)⟩) (.inr (.inr (.inr rfl)))
      rw [readDigits?_of_mark mark, read]

structure IsInteger (token : String) (value : Nat) : Prop where
  spelled : ∃ digits suffix, token.toList = digits ++ suffix ∧ Spells digits value ∧
    ∀ c ∈ suffix, isIntSuffix c = true

theorem Spells.intDigits {digits : List Char} {value : Nat} (spells : Spells digits value) :
    IntDigits digits := by
  cases spells with
  | decimal nonempty each noZero short =>
      exact .decimal nonempty fun c inside => isDecimal_of_isDigit (each c inside)
  | octal each =>
      refine .decimal (List.cons_ne_nil _ _) (List.forall_mem_cons.mpr ⟨by decide, ?_⟩)
      exact fun c inside => isDecimal_of_isDigit (isDigit_of_octal (each c inside)).1
  | hexadecimal mark nonempty each => exact .hexadecimal mark nonempty each

theorem IsInteger.literal_eq {token : String} {value : Nat} (isInteger : IsInteger token value) :
    literal token = .ok (some (.int value)) := by
  obtain ⟨digits, suffix, split, spells, letters⟩ := isInteger.spelled
  have isInt : isIntSpelling token.toList = true :=
    isIntSpelling_iff.mpr ⟨digits, suffix, [], by simpa using split, spells.intDigits, letters,
      .inl rfl⟩
  have kept : dropEnd isIntSuffix (digits ++ suffix) = digits :=
    dropEnd_append spells.intDigits.getLast?_not_suffix letters
  have read : intValue token.toList = .ok (value : Int) := by
    rw [intValue_eq, split, kept, spells.readDigits?_eq]
  simp [literal, isInt, read]

/-- An integer is none of the tokens that may stand around it. -/
theorem IsInteger.ne_of_head {token other : String} {value : Nat}
    (isInteger : IsInteger token value)
    (noDigit : (other.toList.head?.map isDecimal).getD false = false) : token ≠ other := by
  rintro rfl
  obtain ⟨digits, suffix, split, spells, _⟩ := isInteger.spelled
  obtain ⟨c, rest, rfl, decimal⟩ := spells.intDigits.exists_head
  simp [split, decimal] at noDigit

/-! ### Macros -/

inductive Sign where
  | plus
  | minus
  deriving DecidableEq, Repr

def Sign.spelling : Sign → String
  | plus => "+"
  | minus => "-"

def Sign.factor : Sign → Int
  | plus => 1
  | minus => -1

def numberBody (sign? : Option Sign) (token : String) (pairs : Nat) : List String :=
  List.replicate pairs "(" ++ ((sign?.map Sign.spelling).toList ++ [token]) ++
    List.replicate pairs ")"

theorem unwrap_of_head_ne {first : String} (rest : List String) (noPair : first ≠ "(") :
    unwrap (first :: rest) = first :: rest := by
  rw [unwrap]
  simp [noPair]

theorem unwrap_of_last_ne (first : String) {rest : List String} (noPair : rest.getLast? ≠ some ")") :
    unwrap (first :: rest) = first :: rest := by
  rw [unwrap]
  simp [noPair]

/-- Pairs of parentheses around a body are taken off, one after the other. -/
theorem unwrap_pairs (pairs : Nat) (body : List String) :
    unwrap (List.replicate pairs "(" ++ body ++ List.replicate pairs ")") = unwrap body := by
  induction pairs with
  | zero => simp
  | succ pairs ih =>
      have outer : List.replicate (pairs + 1) "(" ++ body ++ List.replicate (pairs + 1) ")" =
          "(" :: (List.replicate pairs "(" ++ body ++ List.replicate pairs ")" ++ [")"]) := by
        rw [List.replicate_succ, List.replicate_succ']
        simp
      rw [outer, unwrap]
      simp only [List.getLast?_concat, List.dropLast_concat]
      simpa using ih

theorem macroValue_of_long {tokens : List String} (long : 3 ≤ (unwrap tokens).length) :
    macroValue tokens = .ok none := by
  rw [macroValue]
  split
  · simp_all
  · simp_all
  · rfl

theorem macroValue_of_unsigned {tokens : List String} {first second : String}
    (kept : unwrap tokens = [first, second]) (noMinus : first ≠ "-") (noPlus : first ≠ "+") :
    macroValue tokens = .ok none := by
  rw [macroValue, kept]
  simp only [noMinus, noPlus]
  rfl

theorem definedValue_cons (name : String) (body : List String) :
    definedValue (name :: body) =
      match macroValue body with
      | .error fault => .error fault
      | .ok (some value) => .ok (some value)
      | .ok none => if 1 < body.length then macroValue body.dropLast else .ok none := by
  rw [definedValue, List.drop_one, List.tail_cons]
  cases macroValue body with
  | error fault => rfl
  | ok value? => cases value? <;> rfl

section Bodies

variable {token : String} {value : Nat} (isInteger : IsInteger token value)

include isInteger

theorem macroValue_numberBody (sign? : Option Sign) (pairs : Nat) :
    macroValue (numberBody sign? token pairs) =
      .ok (some (.int (sign?.elim 1 Sign.factor * value))) := by
  rw [macroValue, numberBody, unwrap_pairs]
  cases sign? with
  | none =>
      have alone : unwrap [token] = [token] :=
        unwrap_of_head_ne [] (isInteger.ne_of_head (by decide))
      simp [alone, isInteger.literal_eq]
  | some sign =>
      have kept : unwrap [sign.spelling, token] = [sign.spelling, token] :=
        unwrap_of_head_ne [token] (by cases sign <;> decide)
      have joined : ((some sign).map Sign.spelling).toList ++ [token] = [sign.spelling, token] := rfl
      rw [joined, kept]
      simp only [isInteger.literal_eq]
      cases sign with
      | plus => simp [Sign.spelling, Sign.factor, signed]
      | minus => simp [Sign.spelling, Sign.factor, signed, negated]

theorem macroValue_numberBody_concat (sign? : Option Sign) (pairs : Nat) (extra : String) :
    macroValue (numberBody sign? token pairs ++ [extra]) = .ok none := by
  have noPair : token ≠ "(" := isInteger.ne_of_head (by decide)
  have bare : unwrap ((sign?.map Sign.spelling).toList ++ [token, extra]) =
      (sign?.map Sign.spelling).toList ++ [token, extra] := by
    cases sign? with
    | none => exact unwrap_of_head_ne _ noPair
    | some sign => exact unwrap_of_head_ne _ (by cases sign <;> decide)
  have noValue {tokens : List String}
      (kept : unwrap tokens = (sign?.map Sign.spelling).toList ++ [token, extra]) :
      macroValue tokens = .ok none := by
    cases sign? with
    | none =>
        exact macroValue_of_unsigned kept (isInteger.ne_of_head (by decide))
          (isInteger.ne_of_head (by decide))
    | some sign => exact macroValue_of_long (by simp [kept])
  by_cases isClosing : extra = ")"
  · -- One parenthesis too many: it is what is left when all pairs have been taken off.
    have inner : numberBody sign? token pairs ++ [extra] =
        List.replicate pairs "(" ++ ((sign?.map Sign.spelling).toList ++ [token, extra]) ++
          List.replicate pairs ")" := by
      have moved : List.replicate pairs ")" ++ [")"] = ")" :: List.replicate pairs ")" := by
        rw [← List.replicate_succ', List.replicate_succ]
      simp [numberBody, isClosing, moved]
    exact noValue (by rw [inner, unwrap_pairs, bare])
  · cases pairs with
    | zero => exact noValue (by simpa [numberBody] using bare)
    | succ pairs =>
        have outer : numberBody sign? token (pairs + 1) ++ [extra] =
            "(" :: (List.replicate pairs "(" ++ ((sign?.map Sign.spelling).toList ++ [token]) ++
              List.replicate (pairs + 1) ")" ++ [extra]) := by
          simp [numberBody, List.replicate_succ]
        refine macroValue_of_long ?_
        rw [outer, unwrap_of_last_ne "(" (by rw [List.getLast?_concat]; simpa using isClosing)]
        simp
        omega

/-- A sign, parentheses and one more token behind its body leave an integer macro its value. -/
theorem definedValue_integer (name : String) (sign? : Option Sign) (pairs : Nat)
    (extra? : Option String) :
    definedValue (name :: (numberBody sign? token pairs ++ extra?.toList)) =
      .ok (some (.int (sign?.elim 1 Sign.factor * value))) := by
  have own := macroValue_numberBody isInteger sign? pairs
  rw [definedValue_cons]
  cases extra? with
  | none => simp [own]
  | some extra =>
      have several : numberBody sign? token pairs ≠ [] := by simp [numberBody]
      have none := macroValue_numberBody_concat isInteger sign? pairs extra
      simp [none, own, several, List.length_pos_iff]

end Bodies

theorem definedValue_wrappedMask :
    IsInteger "0x1Fu" 31 ∧
      definedValue ["GGML_MASK", "(", "-", "0x1Fu", ")", ")"] = .ok (some (.int (-31))) := by
  have isInteger : IsInteger "0x1Fu" 31 :=
    ⟨"0x1F".toList, "u".toList, rfl,
      .hexadecimal (.inl rfl) (by decide) (List.all_eq_true.mp (by decide)),
      List.all_eq_true.mp (by decide)⟩
  exact ⟨isInteger, definedValue_integer isInteger "GGML_MASK" (some .minus) 1 (some ")")⟩

end NativeVariants.Header
