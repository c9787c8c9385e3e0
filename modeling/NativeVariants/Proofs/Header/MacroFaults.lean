import NativeVariants.Proofs.Header.DecimalLiterals
import NativeVariants.Proofs.Header.Unreadable

set_option autoImplicit false

/-!
Macros that cannot be evaluated. The forms of numbers admit more than can be read: a leading zero
with a digit beyond seven, a decimal with too many digits, and a suffix letter before a line break.
A macro with such a body stops the collection of its unit, and nothing else does once the pattern
lists can be used (`macros_evaluate_iff`).
-/

namespace NativeVariants.Header
open Number Text

def decimalValue (c : Char) : Nat := (digitValue? c).getD 0

inductive BadDigits : List Char → Prop
  /-- A leading zero makes the number octal. -/
  | octal {digits : List Char} {c : Char} (each : ∀ c ∈ digits, isDecimal c = true)
      (inside : c ∈ digits) (large : 8 ≤ decimalValue c) : BadDigits ('0' :: digits)
  | long {c : Char} {digits : List Char} (each : ∀ d ∈ c :: digits, isDecimal d = true)
      (noZero : c ≠ '0') (tooLong : maxDigits < (c :: digits).length) : BadDigits (c :: digits)

/-! ### Digits of all scripts -/

theorem digitIn_lt {bands : List Nat} {code value : Nat} (found : digitIn bands code = some value) :
    value < 10 := by
  induction bands, code using digitIn.induct with
  | case1 lo hi rest code inBand =>
      rw [digitIn, if_pos inBand] at found
      cases found
      omega
  | case2 lo hi rest code outside ih =>
      rw [digitIn, if_neg outside] at found
      exact ih found
  | case3 bands code noBand =>
      rw [digitIn] at found
      · cases found
      · exact noBand

theorem digitValue?_of_isDecimal {c : Char} (decimal : isDecimal c = true) :
    digitValue? c = some (decimalValue c) ∧ decimalValue c < 10 := by
  obtain ⟨value, found⟩ := Option.isSome_iff_exists.mp decimal
  have same : decimalValue c = value := by simp [decimalValue, found]
  rw [same]
  exact ⟨found, digitIn_lt found⟩

theorem baseDigit?_of_isDecimal {c : Char} {base : Nat} (decimal : isDecimal c = true) :
    baseDigit? base c = if decimalValue c < base then some (decimalValue c) else none := by
  simp [baseDigit?, (digitValue?_of_isDecimal decimal).1]

theorem blank_of_isEnd {tail : List Char} (ends : tail = [] ∨ tail = ['\n']) :
    ∀ c ∈ tail, isNumeralBlank c = true := by
  rcases ends with rfl | rfl
  · exact nofun
  · exact List.all_eq_true.mp (by decide)

section Decimals

variable {digits : List Char} (each : ∀ c ∈ digits, isDecimal c = true) (nonempty : digits ≠ [])

include each nonempty

theorem readNat?_eight_eq_none_iff :
    readNat? 8 digits = none ↔ ∃ c ∈ digits, 8 ≤ decimalValue c := by
  constructor
  · intro failed
    by_contra small
    have values (c : Char) (inside : c ∈ digits) : baseDigit? 8 c = some (decimalValue c) := by
      rw [baseDigit?_of_isDecimal (each c inside), if_pos]
      by_contra large
      exact small ⟨c, inside, Nat.le_of_not_lt large⟩
    rw [readNat?_of_forall values nonempty (.inr (.inr (.inl rfl)))] at failed
    cases failed
  · rintro ⟨c, inside, large⟩
    refine readNat?_eq_none_of_mem ?_ inside ?_
    · intro marked
      exact absurd (each '_' marked) (by decide)
    · rw [baseDigit?_of_isDecimal (each c inside), if_neg (Nat.not_lt.mpr large)]

theorem readNat?_ten_eq_none_iff : readNat? 10 digits = none ↔ maxDigits < digits.length := by
  have values (c : Char) (inside : c ∈ digits) : baseDigit? 10 c = some (decimalValue c) := by
    rw [baseDigit?_of_isDecimal (each c inside),
      if_pos (digitValue?_of_isDecimal (each c inside)).2]
  rw [readNat?, groupedDigits?_of_forall values nonempty]
  simp

/-- With or without a line break behind them, digits are read as they stand. -/
theorem readInt?_append_eq_none_iff {base : Nat} {tail : List Char}
    (ends : tail = [] ∨ tail = ['\n']) :
    readInt? base (digits ++ tail) = none ↔ readNat? base digits = none := by
  have plain (c : Char) (inside : c ∈ digits) : c.toNat ∉ nonDigitCodes :=
    not_mem_nonDigitCodes_of_isDecimal (each c inside)
  rw [readInt?_append nonempty plain (blank_of_isEnd ends), Option.map_eq_none_iff]

end Decimals

/-! ### Integers -/

theorem readDigits?_hexadecimal_ne_none {x : Char} {digits tail : List Char}
    (mark : x = 'x' ∨ x = 'X') (nonempty : digits ≠ []) (each : ∀ c ∈ digits, isHexDigit c = true)
    (ends : tail = [] ∨ tail = ['\n']) : readDigits? ('0' :: x :: digits ++ tail) ≠ none := by
  have values (c : Char) (inside : c ∈ digits) : baseDigit? 16 c = some (hexValue c) :=
    baseDigit?_of_isHexDigit (each c inside) (hexValue_lt (each c inside))
  rw [List.cons_append, List.cons_append, readDigits?_of_mark mark,
    readInt?_append nonempty (not_mem_nonDigitCodes_of_digits values) (blank_of_isEnd ends),
    readNat?_of_forall values nonempty (.inr (.inr (.inr rfl)))]
  simp

theorem startsHex_append_of_isEnd {digits tail : List Char} (nonempty : digits ≠ [])
    (each : ∀ c ∈ digits, isDecimal c = true) (ends : tail = [] ∨ tail = ['\n']) :
    startsHex (digits ++ tail) = false := by
  refine startsHex_append nonempty each ?_
  rcases ends with rfl | rfl <;> simp

/-- Behind a leading zero, the digits are read as octal ones unless nothing follows it. -/
theorem readDigits?_zero_append_eq_none_iff {rest tail : List Char}
    (each : ∀ c ∈ '0' :: rest, isDecimal c = true) (ends : tail = [] ∨ tail = ['\n']) :
    readDigits? ('0' :: rest ++ tail) = none ↔ BadDigits ('0' :: rest) := by
  have nonempty : '0' :: rest ≠ [] := List.cons_ne_nil _ _
  by_cases single : rest = [] ∧ tail = []
  · obtain ⟨rfl, rfl⟩ := single
    refine iff_of_false (by decide) ?_
    rintro (⟨_, inside, _⟩ | ⟨_, noZero, _⟩)
    · cases inside
    · exact noZero rfl
  have several : 1 < ('0' :: rest ++ tail).length := by
    have some : 0 < rest.length + tail.length := by
      rcases not_and_or.mp single with some | some
      · exact Nat.add_pos_left (List.length_pos_iff.mpr some) _
      · exact Nat.add_pos_right _ (List.length_pos_iff.mpr some)
    simp only [List.length_append, List.length_cons]
    omega
  have read : readDigits? ('0' :: rest ++ tail) = readInt? 8 ('0' :: rest ++ tail) := by
    rw [readDigits?, startsHex_append_of_isEnd nonempty each ends, if_neg Bool.false_ne_true,
      if_pos]
    simpa using several
  rw [read, readInt?_append_eq_none_iff each nonempty ends,
    readNat?_eight_eq_none_iff each nonempty]
  constructor
  · rintro ⟨c, inside, large⟩
    rcases List.mem_cons.mp inside with rfl | later
    · exact absurd large (by decide)
    · exact .octal (List.forall_mem_cons.mp each).2 later large
  · rintro (⟨_, inside, large⟩ | ⟨_, noZero, _⟩)
    · exact ⟨_, List.mem_cons_of_mem _ inside, large⟩
    · exact absurd rfl noZero

theorem readDigits?_append_eq_none_iff {digits tail : List Char} (isInt : IntDigits digits)
    (ends : tail = [] ∨ tail = ['\n']) :
    readDigits? (digits ++ tail) = none ↔ BadDigits digits := by
  cases isInt with
  | @hexadecimal x digits mark nonempty each =>
      have noDecimal : isDecimal x = false := by rcases mark with rfl | rfl <;> decide
      refine iff_of_false (readDigits?_hexadecimal_ne_none mark nonempty each ends) ?_
      rintro (⟨each, _, _⟩ | ⟨_, noZero, _⟩)
      · simpa [noDecimal] using each x List.mem_cons_self
      · exact noZero rfl
  | decimal nonempty each =>
      obtain ⟨c, rest, rfl⟩ := List.exists_cons_of_ne_nil nonempty
      by_cases zero : c = '0'
      · subst zero
        exact readDigits?_zero_append_eq_none_iff each ends
      · have read : readDigits? (c :: rest ++ tail) = readInt? 10 (c :: rest ++ tail) := by
          rw [readDigits?, startsHex_append_of_isEnd nonempty each ends]
          simp [zero]
        rw [read, readInt?_append_eq_none_iff each nonempty ends,
          readNat?_ten_eq_none_iff each nonempty]
        constructor
        · exact .long each zero
        · rintro (_ | ⟨_, _, tooLong⟩)
          · exact absurd rfl zero
          · exact tooLong

theorem baseDigit?_of_isIntSuffix {c : Char} {base : Nat} (small : base ≤ 16)
    (letter : isIntSuffix c = true) : baseDigit? base c = none := by
  have large : ∃ value, (digitValue? c).or (asciiDigit? c) = some value ∧ 16 ≤ value := by
    simp only [isIntSuffix, Bool.or_eq_true, decide_eq_true_eq] at letter
    rcases letter with ((rfl | rfl) | rfl) | rfl
    · exact ⟨30, by decide, by decide⟩
    · exact ⟨30, by decide, by decide⟩
    · exact ⟨21, by decide, by decide⟩
    · exact ⟨21, by decide, by decide⟩
  obtain ⟨value, found, large⟩ := large
  simp only [baseDigit?, found]
  exact if_neg (Nat.not_lt.mpr (small.trans large))

/-- Behind a line break a suffix letter is not dropped, and no digit. -/
theorem readInt?_of_letters {base : Nat} {digits suffix : List Char} (small : base ≤ 16)
    (plain : ∀ c ∈ digits, c.toNat ∉ nonDigitCodes) (some : suffix ≠ [])
    (letters : ∀ c ∈ suffix, isIntSuffix c = true) :
    readInt? base (digits ++ (suffix ++ ['\n'])) = none := by
  have letterCode {c : Char} (letter : isIntSuffix c = true) : c.toNat ∉ nonDigitCodes := by
    simp only [isIntSuffix, Bool.or_eq_true, decide_eq_true_eq] at letter
    rcases letter with ((rfl | rfl) | rfl) | rfl <;> decide
  have allPlain : ∀ c ∈ digits ++ suffix, c.toNat ∉ nonDigitCodes := by
    intro c inside
    rcases List.mem_append.mp inside with inDigits | inSuffix
    · exact plain c inDigits
    · exact letterCode (letters c inSuffix)
  have unmarked : '_' ∉ digits ++ suffix := fun inside => allPlain '_' inside (by decide)
  obtain ⟨c, more, rfl⟩ := List.exists_cons_of_ne_nil some
  have failed := readNat?_eq_none_of_mem unmarked
    (List.mem_append_right digits List.mem_cons_self)
    (baseDigit?_of_isIntSuffix small (letters c List.mem_cons_self))
  rw [← List.append_assoc, readInt?_append (by simp) allPlain (blank_of_isEnd (.inr rfl)), failed]
  rfl

/-- An integer cannot be read if its digits cannot, or if a suffix letter stands before a line
break. -/
theorem SplitsInt.intValue_eq_error_iff {text digits suffix tail : List Char}
    (splits : SplitsInt text digits suffix tail) :
    intValue text = .error .badNumeral ↔ BadDigits digits ∨ (suffix ≠ [] ∧ tail ≠ []) := by
  have failed : intValue text = .error .badNumeral ↔
      readDigits? (dropEnd isIntSuffix text) = none := by
    rw [intValue_eq]
    cases readDigits? (dropEnd isIntSuffix text) <;> simp
  rw [failed, splits.split]
  rcases splits.ends with rfl | rfl
  · have read := readDigits?_append_eq_none_iff splits.isInt (.inl rfl)
    rw [List.append_nil] at read ⊢
    rw [dropEnd_append splits.isInt.getLast?_not_suffix splits.letters, read]
    simp
  · have kept : dropEnd isIntSuffix (digits ++ (suffix ++ ['\n'])) =
        digits ++ (suffix ++ ['\n']) := by
      have last : ∀ c ∈ (digits ++ (suffix ++ ['\n'])).getLast?, isIntSuffix c = false := by
        rw [← List.append_assoc, List.getLast?_concat]
        simp [isIntSuffix]
      rw [← List.append_nil (digits ++ _), dropEnd_append last (by simp), List.append_nil]
    rw [kept]
    by_cases some : suffix = []
    · rw [some, List.nil_append, readDigits?_append_eq_none_iff splits.isInt (.inr rfl)]
      simp
    refine iff_of_true ?_ (.inr ⟨some, by simp⟩)
    cases splits.isInt with
    | @hexadecimal x digits mark nonempty each =>
        have values (c : Char) (inside : c ∈ digits) : baseDigit? 16 c = .some (hexValue c) :=
          baseDigit?_of_isHexDigit (each c inside) (hexValue_lt (each c inside))
        rw [List.cons_append, List.cons_append, readDigits?_of_mark mark]
        exact readInt?_of_letters (by decide) (not_mem_nonDigitCodes_of_digits values) some
          splits.letters
    | decimal nonempty each =>
        have plain (c : Char) (inside : c ∈ digits) : c.toNat ∉ nonDigitCodes :=
          not_mem_nonDigitCodes_of_isDecimal (each c inside)
        have unmarked : startsHex (digits ++ (suffix ++ ['\n'])) = false := by
          refine startsHex_append nonempty each fun c first => ?_
          exact (splits.endsDigits_of_head c first).2.2
        rw [readDigits?, unmarked, if_neg Bool.false_ne_true]
        split
        · exact readInt?_of_letters (by decide) plain some splits.letters
        · exact readInt?_of_letters (by decide) plain some splits.letters

/-- The spelling has the form of a number, but no number is read from it. -/
inductive IsBadNumeral : List Char → Prop
  | digits {text digits suffix tail : List Char} (splits : SplitsInt text digits suffix tail)
      (bad : BadDigits digits) : IsBadNumeral text
  | brokenInt {text digits suffix tail : List Char} (splits : SplitsInt text digits suffix tail)
      (broken : suffix ≠ [] ∧ tail ≠ []) : IsBadNumeral text
  | brokenReal {text whole fraction exponent suffix tail : List Char}
      (splits : SplitsReal text whole fraction exponent suffix tail)
      (broken : suffix ≠ [] ∧ tail ≠ []) : IsBadNumeral text

/-! ### Tokens and macros -/

theorem SplitsInt.point_not_mem {text digits suffix tail : List Char}
    (splits : SplitsInt text digits suffix tail) : '.' ∉ text := by
  rw [splits.split, List.mem_append, List.mem_append]
  rintro (inDigits | inSuffix | inTail)
  · cases splits.isInt with
    | @hexadecimal x digits mark nonempty each =>
        rcases List.mem_cons.mp inDigits with same | later
        · exact absurd same (by decide)
        rcases List.mem_cons.mp later with rfl | digit
        · exact absurd mark (by decide)
        · exact absurd (each '.' digit) (by decide)
    | decimal nonempty each => exact absurd (each '.' inDigits) (by decide)
  · exact absurd (splits.letters '.' inSuffix) (by decide)
  · rcases splits.ends with rfl | rfl
    · cases inTail
    · exact absurd inTail (by decide)

theorem SplitsReal.isIntSpelling_eq {text whole fraction exponent suffix tail : List Char}
    (splits : SplitsReal text whole fraction exponent suffix tail) :
    isIntSpelling text = false := by
  by_contra isInt
  obtain ⟨digits, _, _, splitsInt⟩ := isIntSpelling_iff.mp (Bool.eq_true_of_not_eq_false isInt)
  refine splitsInt.point_not_mem ?_
  rw [splits.split]
  simp

theorem literal_eq (token : String) :
    literal token =
      if isIntSpelling token.toList then (intValue token.toList).map (some ∘ Datum.int)
      else if isRealSpelling token.toList then (realValue token.toList).map (some ∘ Datum.real)
      else if isTextSpelling token.toList then
        .ok (some (.text (String.ofList (token.toList.tail.take (token.toList.length - 2)))))
      else .ok none := by
  rw [literal]
  split
  · cases intValue token.toList <;> rfl
  split
  · cases realValue token.toList <;> rfl
  split
  · rfl
  · rfl

theorem map_eq_error_iff {ε α β : Type} {f : α → β} {x : Except ε α} {e : ε} :
    x.map f = .error e ↔ x = .error e := by
  cases x <;> simp [Except.map]

/-- A token cannot be evaluated if it is a number that cannot be read, and then only. -/
theorem literal_eq_error_iff {token : String} :
    literal token = .error .badNumeral ↔ IsBadNumeral token.toList := by
  rw [literal_eq]
  constructor
  · intro failed
    split at failed
    · rename_i isInt
      obtain ⟨digits, suffix, tail, splits⟩ := isIntSpelling_iff.mp isInt
      rcases splits.intValue_eq_error_iff.mp (map_eq_error_iff.mp failed) with bad | broken
      · exact .digits splits bad
      · exact .brokenInt splits broken
    split at failed
    · rename_i isReal
      obtain ⟨whole, fraction, exponent, suffix, tail, splits⟩ := isRealSpelling_iff.mp isReal
      exact .brokenReal splits (splits.realValue_eq_error_iff.mp (map_eq_error_iff.mp failed))
    split at failed
    · cases failed
    · cases failed
  · intro bad
    cases bad with
    | digits splits bad =>
        rw [if_pos (isIntSpelling_iff.mpr ⟨_, _, _, splits⟩), map_eq_error_iff]
        exact splits.intValue_eq_error_iff.mpr (.inl bad)
    | brokenInt splits broken =>
        rw [if_pos (isIntSpelling_iff.mpr ⟨_, _, _, splits⟩), map_eq_error_iff]
        exact splits.intValue_eq_error_iff.mpr (.inr broken)
    | brokenReal splits broken =>
        rw [splits.isIntSpelling_eq, if_neg Bool.false_ne_true,
          if_pos (isRealSpelling_iff.mpr ⟨_, _, _, _, _, splits⟩), map_eq_error_iff]
        exact splits.realValue_eq_error_iff.mpr broken

inductive IsMacroValue : Datum → Prop
  | int (n : Int) : IsMacroValue (.int n)
  | real (x : Binary64) : IsMacroValue (.real x)
  | text (s : String) : IsMacroValue (.text s)

theorem map_eq_ok_iff {ε α β : Type} {f : α → β} {x : Except ε α} {b : β} :
    x.map f = .ok b ↔ ∃ a, x = .ok a ∧ f a = b := by
  cases x <;> simp [Except.map]

theorem isMacroValue_of_literal {token : String} {value : Datum}
    (found : literal token = .ok (some value)) : IsMacroValue value := by
  rw [literal_eq] at found
  split at found
  · obtain ⟨n, _, same⟩ := map_eq_ok_iff.mp found
    cases same
    exact .int n
  split at found
  · obtain ⟨x, _, same⟩ := map_eq_ok_iff.mp found
    cases same
    exact .real x
  split at found
  · cases found
    exact .text _
  · cases found

theorem IsMacroValue.signed {value result : Datum} {negative : Bool} (isValue : IsMacroValue value)
    (found : Header.signed negative value = some result) : IsMacroValue result := by
  cases isValue with
  | int n => cases negative <;> cases found <;> exact .int _
  | real x => cases negative <;> cases found <;> exact .real _
  | text s =>
      cases negative with
      | false => cases found; exact .text s
      | true => cases found

/-- A body has the value of its token, with its sign. -/
theorem macroValue_eq (body : List String) :
    macroValue body =
      match unwrap body with
      | [token] => literal token
      | [sign, token] =>
          if sign = "-" || sign = "+" then
            (literal token).map fun value? => value?.bind (signed (sign = "-"))
          else .ok none
      | _ => .ok none := by
  rw [macroValue]
  rcases unwrap body with _ | ⟨sign, _ | ⟨token, _ | ⟨more, rest⟩⟩⟩
  · rfl
  · rfl
  · dsimp only
    split
    · cases literal token <;> rfl
    · rfl
  · rfl

theorem isMacroValue_of_macroValue {body : List String} {value : Datum}
    (found : macroValue body = .ok (some value)) : IsMacroValue value := by
  rw [macroValue_eq] at found
  split at found
  · exact isMacroValue_of_literal found
  · split at found
    · obtain ⟨value?, read, same⟩ := map_eq_ok_iff.mp found
      obtain ⟨own, rfl, withSign⟩ := Option.bind_eq_some_iff.mp same
      exact (isMacroValue_of_literal read).signed withSign
    · cases found
  · cases found

/-- The body is one token, perhaps with a sign and within parentheses, that cannot be evaluated. -/
def IsBadBody (body : List String) : Prop :=
  ∃ token, IsBadNumeral token.toList ∧
    (unwrap body = [token] ∨ unwrap body = ["-", token] ∨ unwrap body = ["+", token])

theorem macroValue_eq_error_iff {body : List String} :
    macroValue body = .error .badNumeral ↔ IsBadBody body := by
  rw [macroValue_eq]
  constructor
  · intro failed
    split at failed
    · rename_i token single
      exact ⟨token, literal_eq_error_iff.mp failed, .inl single⟩
    · rename_i sign token pair
      split at failed
      · rename_i isSign
        refine ⟨token, literal_eq_error_iff.mp (map_eq_error_iff.mp failed), .inr ?_⟩
        rw [pair]
        simpa using isSign
      · cases failed
    · cases failed
  · rintro ⟨token, bad, single | minus | plus⟩
    · rw [single]
      exact literal_eq_error_iff.mpr bad
    · rw [minus]
      exact map_eq_error_iff.mpr (literal_eq_error_iff.mpr bad)
    · rw [plus]
      exact map_eq_error_iff.mpr (literal_eq_error_iff.mpr bad)

/-- A macro that cannot be evaluated: its body cannot, or it has no value and cannot be evaluated
without its last token. -/
def IsBadMacro (body : List String) : Prop :=
  IsBadBody body ∨ macroValue body = .ok none ∧ 1 < body.length ∧ IsBadBody body.dropLast

theorem definedValue_eq_error_iff {tokens : List String} :
    definedValue tokens = .error .badNumeral ↔ IsBadMacro (tokens.drop 1) := by
  have named : definedValue tokens = definedValue ("" :: tokens.drop 1) := rfl
  rw [named, definedValue_cons, IsBadMacro, ← macroValue_eq_error_iff, ← macroValue_eq_error_iff]
  rcases macroValue (tokens.drop 1) with ⟨⟨⟩⟩ | _ | value
  · simp
  · by_cases several : 1 < tokens.length - 1 <;> simp [several]
  · simp

/-! ### Units -/

structure Allowlist.IsUsable (allow : Allowlist) : Prop where
  functions : ¬Unusable allow.functions
  types : ¬Unusable allow.types
  constants : ¬Unusable allow.constants

/-- A macro whose name is accepted, and has no value yet, cannot be evaluated. -/
def HeaderUnit.HasBadMacro (allow : Allowlist) (known : Known) (u : HeaderUnit) : Prop :=
  ∃ before name tokens after, u.declarations = before ++ .define name tokens :: after ∧
    allow.acceptsConstant name = .ok true ∧
    (before.foldl (Surface.add allow (u.declarations.foldl (Known.after allow) known))
      .empty).constants.contains name = false ∧
    IsBadMacro (tokens.drop 1)

section Units

variable {allow : Allowlist}

theorem Declaration.isUnreadable_iff_of_isUsable (usable : allow.IsUsable)
    {constants : Table String Datum} {d : Declaration} :
    d.IsUnreadable allow constants ↔ ∃ name tokens, d = .define name tokens ∧
      allow.acceptsConstant name = .ok true ∧ constants.contains name = false ∧
      IsBadMacro (tokens.drop 1) := by
  cases d with
  | define name tokens =>
      simp [IsUnreadable, usable.constants, definedValue_eq_error_iff]
  | _ => simp [IsUnreadable, usable.functions, usable.types, usable.constants]

theorem HeaderUnit.isUnreadable_iff_of_isUsable (usable : allow.IsUsable) {known : Known}
    {u : HeaderUnit} : u.IsUnreadable allow known ↔ u.HasBadMacro allow known := by
  constructor
  · rintro ⟨before, d, after, split, unreadable⟩
    obtain ⟨name, tokens, rfl, bad⟩ :=
      (Declaration.isUnreadable_iff_of_isUsable usable).mp unreadable
    exact ⟨before, name, tokens, after, split, bad⟩
  · rintro ⟨before, name, tokens, after, split, bad⟩
    exact ⟨before, _, after, split,
      (Declaration.isUnreadable_iff_of_isUsable usable).mpr ⟨name, tokens, rfl, bad⟩⟩

/-- Nothing is reported about a unit without errors: it has a surface or goes astray. -/
theorem strays_iff_noSurface {known : Known} {header : String} {u : HeaderUnit}
    (sound : ∀ d ∈ u.diagnostics, d.isError = false) :
    Strays (collectUnit allow known header u).surface ↔
      ¬∃ s, (collectUnit allow known header u).surface = .ok s := by
  have checked := (checkDiagnostics_eq_ok_iff header u.diagnostics).mpr sound
  have quiet : Reports (fun _ => False) (do
      ofExcept (reported (checkDiagnostics header u.diagnostics))
      u.declarations.forM (register allow)
      u.declarations.forM (collect allow) : Collect Unit) := by
    rw [checked]
    refine (reports_ofExcept (.ok ())).bind fun _ => ?_
    refine (reports_forM fun d _ => reports_register allow d).bind fun _ => ?_
    exact reports_forM fun d _ => reports_collect allow d
  refine Strays.map_iff.trans ((Strays.iff_not_returned quiet).trans (not_congr ?_))
  unfold collectUnit
  constructor
  · rintro ⟨a, p, ran⟩
    exact ⟨p.surface, map_eq_ok_iff.mpr ⟨a, congrArg Prod.fst ran,
      congrArg (fun outcome => outcome.2.surface) ran⟩⟩
  · rintro ⟨s, yielded⟩
    obtain ⟨a, ran, _⟩ := map_eq_ok_iff.mp yielded
    exact ⟨a, _, Prod.ext ran rfl⟩

end Units

/-- A macro body has a number or a text as its value, or none, unless its token has the form of a
number and cannot be read. A unit without errors has a surface unless one of its macros cannot be
evaluated. -/
theorem macros_evaluate_iff (body : List String) (allow : Allowlist) (known : Known)
    (header : String) (u : HeaderUnit) (usable : allow.IsUsable)
    (sound : ∀ d ∈ u.diagnostics, d.isError = false) :
    (macroValue body = .error .badNumeral ↔ IsBadBody body) ∧
      (¬IsBadBody body → ∃ value?, macroValue body = .ok value? ∧
        ∀ value ∈ value?, IsMacroValue value) ∧
      ((∃ s, (collectUnit allow known header u).surface = .ok s) ↔
        ¬u.HasBadMacro allow known) := by
  refine ⟨macroValue_eq_error_iff, fun good => ?_, ?_⟩
  · rcases evaluated : macroValue body with ⟨⟨⟩⟩ | value?
    · exact absurd (macroValue_eq_error_iff.mp evaluated) good
    · refine ⟨value?, rfl, fun value found => ?_⟩
      obtain rfl := Option.mem_def.mp found
      exact isMacroValue_of_macroValue evaluated
  · refine (not_iff_comm.mp ?_).symm
    rw [← strays_iff_noSurface sound, strays_collectUnit_iff, and_iff_right sound,
      HeaderUnit.isUnreadable_iff_of_isUsable usable]

def constantUnit (token : String) : HeaderUnit where
  declarations := [.define "GGML_MODE" ["GGML_MODE", token]]
  diagnostics := []

theorem Allowlist.default_isUsable : Allowlist.default.IsUsable := by
  have compiled (patterns : List Datum) (found : (compile patterns).isOk = true) :
      ¬Unusable patterns := by
    rintro ⟨failure, failed⟩
    simp [failed, Except.isOk, Except.toBool] at found
  exact ⟨compiled _ (by decide +kernel), compiled _ (by decide +kernel),
    compiled _ (by decide +kernel)⟩

/-- In octal, seven is a digit. -/
theorem constantUnit_evaluates :
    Allowlist.default.IsUsable ∧ (∀ d ∈ (constantUnit "07").diagnostics, d.isError = false) ∧
      (macroValue ["07"]).toOption.join.map Datum.display = some "7" ∧ ¬IsBadBody ["07"] ∧
      ¬(constantUnit "07").HasBadMacro .default .empty := by
  have read : (macroValue ["07"]).toOption.join.map Datum.display = some "7" := by decide +kernel
  have names : (collectUnit .default .empty "ggml.h" (constantUnit "07")).surface.toOption.map
      Surface.names = some ["GGML_MODE"] := by
    decide +kernel
  obtain ⟨s, yielded, _⟩ := exists_surface names
  obtain ⟨fails_iff, _, yields_iff⟩ := macros_evaluate_iff ["07"] .default .empty "ggml.h"
    (constantUnit "07") Allowlist.default_isUsable nofun
  refine ⟨Allowlist.default_isUsable, nofun, read, fun bad => ?_, yields_iff.mp ⟨s, yielded⟩⟩
  rw [fails_iff.mpr bad] at read
  cases read

/-- Nine is none, and the unit has no surface. -/
theorem constantUnit_fails :
    (macroValue ["09"]).isOk = false ∧ (constantUnit "09").diagnostics = [] ∧
      (collectUnit .default .empty "ggml.h" (constantUnit "09")).surface.isOk = false := by
  decide +kernel

end NativeVariants.Header
