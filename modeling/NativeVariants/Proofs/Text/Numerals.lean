import Mathlib.Data.List.Basic
import NativeVariants.Text.Digit

set_option autoImplicit false

/-!
The codes of letters and digits. Numerals that were written are read back (`readNat?_toString`), as
long as they are short enough.
-/

namespace NativeVariants.Text

variable {c : Char} {digits : List Char} {base : Nat}

theorem isDigit_iff : c.isDigit = true ↔ 48 ≤ c.toNat ∧ c.toNat < 58 := by
  rw [Char.isDigit, Bool.and_eq_true, decide_eq_true_eq, decide_eq_true_eq]
  exact and_congr_right fun _ => Nat.lt_succ_iff.symm

theorem toNat_of_isAlphanum (alnum : c.isAlphanum = true) : 48 ≤ c.toNat ∧ c.toNat < 123 := by
  unfold Char.isAlphanum Char.isAlpha Char.isUpper Char.isLower at alnum
  simp only [Bool.or_eq_true, Bool.and_eq_true, decide_eq_true_eq, UInt32.le_iff_toNat_le,
    isDigit_iff] at alnum
  have code : c.toNat = c.val.toNat := rfl
  have bounds : 'A'.val.toNat = 65 ∧ 'Z'.val.toNat = 90 ∧ 'a'.val.toNat = 97 ∧
      'z'.val.toNat = 122 := ⟨rfl, rfl, rfl, rfl⟩
  omega

theorem digitValue?_of_isDigit (digit : c.isDigit = true) :
    digitValue? c = some (c.toNat - 48) := by
  obtain ⟨low, high⟩ := isDigit_iff.mp digit
  have small : (c.toNat - 48) % 10 = c.toNat - 48 := Nat.mod_eq_of_lt (by omega)
  unfold digitValue? digitBands
  rw [digitIn, if_pos (by simpa using ⟨low, high⟩), small]

theorem isDecimal_of_isDigit (digit : c.isDigit = true) : isDecimal c = true := by
  rw [isDecimal, digitValue?_of_isDigit digit]
  rfl

theorem baseDigit?_of_isDigit (digit : c.isDigit = true) :
    baseDigit? 10 c = some (c.toNat - 48) := by
  have small : c.toNat - 48 < 10 := by
    have bounds := isDigit_iff.mp digit
    omega
  unfold baseDigit?
  rw [digitValue?_of_isDigit digit]
  exact if_pos small

def nonDigitCodes : List Nat :=
  List.range' 0x9 5 ++ List.range' 0x1c 5 ++ [0x2b, 0x2d, 0x5f, 0x85, 0xa0, 0x1680] ++
    List.range' 0x2000 11 ++ [0x2028, 0x2029, 0x202f, 0x205f, 0x3000]

theorem mem_nonDigitCodes_of_isBlank (blank : isBlank c = true) : c.toNat ∈ nonDigitCodes := by
  simp only [isBlank, blankBands, inBands, Bool.or_eq_true, Bool.and_eq_true,
    decide_eq_true_eq, Bool.false_eq_true, or_false] at blank
  simp only [nonDigitCodes, List.mem_append, List.mem_range'_1, List.mem_cons, List.not_mem_nil,
    or_false]
  omega

theorem digitValue?_of_mem_nonDigitCodes (nonDigit : c.toNat ∈ nonDigitCodes) :
    digitValue? c = none := by
  have inNoScript : ∀ code ∈ nonDigitCodes, digitIn digitBands code = none := by decide
  exact inNoScript c.toNat nonDigit

theorem baseDigit?_of_mem_nonDigitCodes (nonDigit : c.toNat ∈ nonDigitCodes) :
    baseDigit? base c = none := by
  have notAscii : ∀ code ∈ nonDigitCodes, asciiDigit? (Char.ofNat code) = none := by decide
  have noAscii : asciiDigit? c = none := by simpa using notAscii c.toNat nonDigit
  simp [baseDigit?, digitValue?_of_mem_nonDigitCodes nonDigit, noAscii]

/-- Digits are none of the characters that may stand around or between them. -/
theorem not_mem_nonDigitCodes_of_isDecimal (decimal : isDecimal c = true) :
    c.toNat ∉ nonDigitCodes := by
  intro nonDigit
  simp [isDecimal, digitValue?_of_mem_nonDigitCodes nonDigit] at decimal

theorem isNumeralBlank_of_not_mem (digit : c.toNat ∉ nonDigitCodes) :
    isNumeralBlank c = false := by
  by_contra blank
  simp only [isNumeralBlank, Bool.not_eq_false, Bool.and_eq_true] at blank
  exact digit (mem_nonDigitCodes_of_isBlank blank.1)

theorem toLower_of_isDecimal (decimal : isDecimal c = true) : c.toLower = c := by
  have upper : ∀ code ∈ List.range' 65 26, digitIn digitBands code = none := by decide
  unfold Char.toLower
  split
  · rename_i isUpper
    have code : c.toNat ∈ List.range' 65 26 := by
      rw [List.mem_range'_1]
      have low : 'A'.val.toNat ≤ c.val.toNat := UInt32.le_iff_toNat_le.mp isUpper.1
      have high : c.val.toNat ≤ 'Z'.val.toNat := UInt32.le_iff_toNat_le.mp isUpper.2
      exact ⟨low, Nat.lt_succ_of_le high⟩
    simp [isDecimal, digitValue?, upper c.toNat code] at decimal
  · rfl

/-- Without underscores every character is a digit or a fault. -/
theorem groupedDigits?_eq_mapM (nonempty : digits ≠ []) (unmarked : '_' ∉ digits) :
    groupedDigits? base digits = digits.mapM (baseDigit? base) := by
  induction digits with
  | nil => exact absurd rfl nonempty
  | cons c rest ih =>
      cases rest with
      | nil => cases found : baseDigit? base c <;> simp [groupedDigits?, found]
      | cons d more =>
          have noMark : d ≠ '_' := fun same => unmarked (by simp [same])
          have later := ih (by simp) fun inside => unmarked (List.mem_cons_of_mem c inside)
          rw [groupedDigits?, later, List.mapM_cons (a := c)]
          · simp
          · simp [noMark]

theorem trimNumeral_append {blanks : List Char} (nonempty : digits ≠ [])
    (solid : ∀ c ∈ digits, isNumeralBlank c = false)
    (blank : ∀ c ∈ blanks, isNumeralBlank c = true) : trimNumeral (digits ++ blanks) = digits := by
  have left : (digits ++ blanks).dropWhile isNumeralBlank = digits ++ blanks := by
    obtain ⟨c, rest, rfl⟩ := List.exists_cons_of_ne_nil nonempty
    simp [solid c List.mem_cons_self]
  have right : digits.reverse.dropWhile isNumeralBlank = digits.reverse := by
    obtain ⟨c, rest, same⟩ := List.exists_cons_of_ne_nil (List.reverse_ne_nil_iff.mpr nonempty)
    have inside : c ∈ digits := by
      rw [← List.mem_reverse, same]
      exact List.mem_cons_self
    simp [same, solid c inside]
  have dropped : (blanks.reverse ++ digits.reverse).dropWhile isNumeralBlank = digits.reverse := by
    rw [List.dropWhile_append_of_pos (by simpa using blank), right]
  rw [trimNumeral, left, List.reverse_append, dropped, List.reverse_reverse]

theorem readInt?_append {blanks : List Char} (nonempty : digits ≠ [])
    (plain : ∀ c ∈ digits, c.toNat ∉ nonDigitCodes)
    (blank : ∀ c ∈ blanks, isNumeralBlank c = true) :
    readInt? base (digits ++ blanks) = (readNat? base digits).map fun n : Nat => (n : Int) := by
  have solid (c : Char) (inside : c ∈ digits) : isNumeralBlank c = false :=
    isNumeralBlank_of_not_mem (plain c inside)
  obtain ⟨c, rest, rfl⟩ := List.exists_cons_of_ne_nil nonempty
  have here := plain c List.mem_cons_self
  have noMinus : c ≠ '-' := by rintro rfl; exact here (by decide)
  have noPlus : c ≠ '+' := by rintro rfl; exact here (by decide)
  rw [readInt?, trimNumeral_append nonempty solid blank]
  split
  · rename_i same
    exact absurd (List.cons.inj same).1 noMinus
  · rename_i same
    exact absurd (List.cons.inj same).1 noPlus
  · cases readNat? base (c :: rest) <;> rfl

section Digits

variable {value : Char → Nat} (each : ∀ c ∈ digits, baseDigit? base c = some (value c))

include each

theorem not_mem_nonDigitCodes_of_digits (c : Char) (inside : c ∈ digits) :
    c.toNat ∉ nonDigitCodes := by
  intro nonDigit
  have digit := each c inside
  rw [baseDigit?_of_mem_nonDigitCodes nonDigit] at digit
  cases digit

theorem groupedDigits?_of_forall (nonempty : digits ≠ []) :
    groupedDigits? base digits = some (digits.map value) := by
  rw [groupedDigits?_eq_mapM nonempty 
    (fun inside => not_mem_nonDigitCodes_of_digits each '_' inside (by decide))]
  clear nonempty
  induction digits with
  | nil => rfl
  | cons c rest ih =>
      rw [List.forall_mem_cons] at each
      simp [each.1, ih each.2]

theorem readNat?_of_forall (nonempty : digits ≠ [])
    (short : digits.length ≤ maxDigits ∨ base = 2 ∨ base = 8 ∨ base = 16) :
    readNat? base digits = some (ofDigits base (digits.map value)) := by
  rw [readNat?, groupedDigits?_of_forall each nonempty]
  simp
  omega

end Digits

theorem readNat?_eq_none_of_mem (unmarked : '_' ∉ digits) (inside : c ∈ digits)
    (noDigit : baseDigit? base c = none) : readNat? base digits = none := by
  have nonempty : digits ≠ [] := List.ne_nil_of_mem inside
  have failed : digits.mapM (baseDigit? base) = none := by
    clear nonempty unmarked
    induction digits with
    | nil => cases inside
    | cons d rest ih =>
        rcases List.mem_cons.mp inside with rfl | later
        · simp [noDigit]
        · cases here : baseDigit? base d <;> simp [here, ih later]
  rw [readNat?, groupedDigits?_eq_mapM nonempty unmarked, failed]
  rfl

theorem groupedDigits?_of_isDigit (nonempty : digits ≠ [])
    (each : ∀ c ∈ digits, c.isDigit = true) :
    groupedDigits? 10 digits = some (digits.map fun c => c.toNat - 48) :=
  groupedDigits?_of_forall (fun c inside => baseDigit?_of_isDigit (each c inside)) nonempty

theorem isDigit_of_mem_toString {n : Nat} (inside : c ∈ (toString n).toList) :
    c.isDigit = true := by
  have spelled : (toString n).toList = Nat.toDigits 10 n := Nat.toList_repr
  rw [spelled] at inside
  exact Nat.isDigit_of_mem_toDigits (by decide) (by decide) inside

theorem toList_toString_ne_nil (n : Nat) : (toString n).toList ≠ [] := by
  have spelled : (toString n).toList = Nat.toDigits 10 n := Nat.toList_repr
  rw [spelled]
  exact Nat.toDigits_ne_nil

theorem isWritable_of_le {n k : Nat} (le : n ≤ k) (writable : isWritable k = true) :
    isWritable n = true :=
  decide_eq_true (Nat.lt_of_le_of_lt le (of_decide_eq_true writable))

-- Over any bound, so that the power of the largest one is not computed.
theorem length_toDigits_le_iff {n k : Nat} (pos : 0 < k) :
    (Nat.toDigits 10 n).length ≤ k ↔ n < Nat.pow 10 k :=
  Nat.length_toDigits_le_iff (by decide) pos

/-- A numeral is read back unless it is too long to be written. -/
theorem readNat?_toString {n : Nat} (writable : isWritable n = true) :
    readNat? 10 (toString n).toList = some n := by
  have length : (Nat.toDigits 10 n).length ≤ maxDigits :=
    (length_toDigits_le_iff (by decide)).mpr (of_decide_eq_true writable)
  have value : ofDigits 10 ((Nat.toDigits 10 n).map fun c => c.toNat - 48) = n := by
    rw [ofDigits, List.foldl_map]
    exact Nat.ofDigitChars_ten_toDigits
  have spelled : (toString n).toList = Nat.toDigits 10 n := Nat.toList_repr
  rw [readNat?, groupedDigits?_of_isDigit (toList_toString_ne_nil n)
    fun _ => isDigit_of_mem_toString, spelled]
  simp [value, length]

/-- A numeral that is too long to be written is too long to be read. -/
theorem isWritable_of_readNat? {n k : Nat} (read : readNat? 10 (toString n).toList = some k) :
    isWritable n = true := by
  have spelled : (toString n).toList = Nat.toDigits 10 n := Nat.toList_repr
  rw [readNat?, groupedDigits?_of_isDigit (toList_toString_ne_nil n)
    fun _ => isDigit_of_mem_toString, spelled] at read
  by_cases long : maxDigits < (Nat.toDigits 10 n).length
  · simp [long] at read
  · exact decide_eq_true ((length_toDigits_le_iff (by decide)).mp (Nat.le_of_not_lt long))

end NativeVariants.Text
