import Mathlib.Data.List.TakeWhile
import NativeVariants.Proofs.Header.IntegerLiterals
import NativeVariants.Text.Quoted

set_option autoImplicit false

/-!
Spellings of texts, in C and in the bindings module. Both have escapes, but not the same ones. What
is quoted for the bindings module is read there as the text that it was, and takes one line
(`literal?_quotedChars`).
-/

namespace NativeVariants.Header
open Text

/-- How texts are spelled: their quotes, and what a backslash and the characters behind it stand
for. -/
structure Dialect where
  quotes : List Char
  /-- Each of these letters stands for a code. -/
  letters : List (Char × Nat)
  /-- Behind each of these there is a hexadecimal code, with a fixed number of digits or with all
  that there are. -/
  marks : List (Char × Option Nat)
  /-- Before these a backslash stands for itself. -/
  keeps : Char → Bool

/-- Line breaks end a spelling that has not been closed. -/
def isLineBreak (c : Char) : Bool := c = '\n' || c = '\r'

def isOctalDigit (c : Char) : Bool := '0' ≤ c && c ≤ '7'

def sharedLetters : List (Char × Nat) :=
  [('\'', 39), ('"', 34), ('\\', 92), ('a', 7), ('b', 8), ('t', 9), ('n', 10), ('v', 11), ('f', 12),
    ('r', 13)]

namespace Dialect

def c : Dialect where
  quotes := ['"']
  letters := sharedLetters ++ [('?', 63)]
  marks := [('x', none)]
  keeps _ := false

/-- The dialect of the bindings module, but for codes that are given by their names. -/
def bindings : Dialect where
  quotes := ['\'', '"']
  letters := sharedLetters
  marks := [('x', some 2), ('u', some 4), ('U', some 8)]
  keeps c := c ≠ 'N' && !isLineBreak c

/-- The digits of a hexadecimal code. A code of a fixed length is one of a character. -/
def codeDigits? (length? : Option Nat) (text : List Char) : Option (List Char) :=
  match length? with
  | none =>
      let digits := text.takeWhile isHexDigit
      if digits.isEmpty then none else some digits
  | some length =>
      let digits := text.take length
      if digits.length = length && digits.all isHexDigit && spelledNumber 16 digits < 0x110000 then
        some digits
      else none

/-- What stands behind a backslash: the codes it stands for, and how many characters it takes. An
octal code has three digits at most. -/
def escape? (d : Dialect) : List Char → Option (List Nat × Nat)
  | [] => none
  | c :: rest =>
      if isOctalDigit c then
        let digits := c :: (rest.take 2).takeWhile isOctalDigit
        some ([spelledNumber 8 digits], digits.length)
      else
        match d.marks.lookup c, d.letters.lookup c with
        | some length?, _ =>
            (codeDigits? length? rest).map fun digits =>
              ([spelledNumber 16 digits], digits.length + 1)
        | none, some code => some ([code], 1)
        | none, none => if d.keeps c then some (['\\'.toNat, c.toNat], 1) else none

/-- The codes of a text behind its opening quote. The text ends with the closing one. -/
def codes? (d : Dialect) (quote : Char) : List Char → Option (List Nat)
  | [] => none
  | c :: rest =>
      if c = quote then if rest.isEmpty then some [] else none
      else if isLineBreak c then none
      else if c = '\\' then
        match d.escape? rest with
        | none => none
        | some (codes, width) => (d.codes? quote (rest.drop width)).map (codes ++ ·)
      else (d.codes? quote rest).map (c.toNat :: ·)
termination_by text => text.length
decreasing_by
  · simp only [List.length_drop, List.length_cons]
    omega
  · simp

def literal? (d : Dialect) : List Char → Option (List Nat)
  | [] => none
  | quote :: rest => if quote ∈ d.quotes then d.codes? quote rest else none

/-! ### What is read -/

section Reading

variable {d : Dialect} {quote : Char} {text rest : List Char}

theorem isHexDigit_of_isOctalDigit {c : Char} (octal : isOctalDigit c = true) :
    isHexDigit c = true := by
  have bounds : '0' ≤ c ∧ c ≤ '7' := by simpa [isOctalDigit] using octal
  exact isHexDigit_of_isDigit (isDigit_of_octal bounds).1

theorem prefix_of_codeDigits? {length? : Option Nat} {digits : List Char}
    (found : codeDigits? length? text = some digits) :
    digits <+: text ∧ ∀ c ∈ digits, isHexDigit c = true := by
  cases length? with
  | none =>
      simp only [codeDigits?, Option.ite_none_left_eq_some, Option.some.injEq] at found
      obtain ⟨_, rfl⟩ := found
      exact ⟨List.takeWhile_prefix _, fun c => List.mem_takeWhile_imp⟩
  | some length =>
      simp only [codeDigits?, Option.ite_none_right_eq_some, Option.some.injEq, Bool.and_eq_true,
        List.all_eq_true] at found
      obtain ⟨⟨⟨_, each⟩, _⟩, rfl⟩ := found
      exact ⟨List.take_prefix length text, each⟩

/-- Behind a backslash there is a character, perhaps with hexadecimal digits. Unless a backslash may
stand for itself before it, they stand for one code. -/
theorem prefix_of_escape? {c : Char} {codes : List Nat} {width : Nat}
    (found : d.escape? (c :: text) = some (codes, width)) :
    ∃ digits, digits <+: text ∧ width = digits.length + 1 ∧ (∀ x ∈ digits, isHexDigit x = true) ∧
      (d.keeps c = false → codes.length = 1) := by
  rw [escape?] at found
  split at found
  · cases found
    refine ⟨_, (List.takeWhile_prefix isOctalDigit).trans (List.take_prefix 2 text), rfl, ?_, ?_⟩
    · exact fun x inside => isHexDigit_of_isOctalDigit (List.mem_takeWhile_imp inside)
    · exact fun _ => rfl
  split at found
  · obtain ⟨digits, read, same⟩ := Option.map_eq_some_iff.mp found
    obtain ⟨isPrefix, each⟩ := prefix_of_codeDigits? read
    cases same
    exact ⟨digits, isPrefix, rfl, each, fun _ => rfl⟩
  · cases found
    exact ⟨[], List.nil_prefix, rfl, by simp, fun _ => rfl⟩
  · split at found
    · rename_i kept
      cases found
      exact ⟨[], List.nil_prefix, rfl, by simp, fun lost => absurd kept (by simp [lost])⟩
    · cases found

theorem eq_cons_of_escape? {codes : List Nat} {width : Nat}
    (found : d.escape? text = some (codes, width)) :
    ∃ c digits, text = c :: (digits ++ text.drop width) ∧ (∀ x ∈ digits, isHexDigit x = true) ∧
      (d.keeps c = false → codes.length = 1) := by
  cases text with
  | nil => cases found
  | cons c more =>
      obtain ⟨digits, ⟨rest, rfl⟩, rfl, each, single⟩ := prefix_of_escape? found
      exact ⟨c, digits, by simp, each, single⟩

/-- If no backslash stands for itself, every escape stands for one code and so takes more characters
than it stands for. -/
theorem eq_append_of_codes? (strict : ∀ c, d.keeps c = false) {codes : List Nat}
    (found : d.codes? quote text = some codes) :
    ∃ body, text = body ++ [quote] ∧
      if '\\' ∈ body then codes.length < body.length else codes = body.map Char.toNat := by
  induction text using codes?.induct d quote generalizing codes with
  | case1 => simp [codes?] at found
  | case2 rest atEnd =>
      rw [List.isEmpty_iff.mp atEnd] at found ⊢
      refine ⟨[], rfl, ?_⟩
      simpa [codes?] using found.symm
  | case3 rest goesOn => simp [codes?, goesOn] at found
  | case4 c rest noQuote isBreak => simp [codes?, noQuote, isBreak] at found
  | case5 rest failed noQuote noBreak => simp [codes?, noQuote, noBreak, failed] at found
  | case6 rest own width escaped noQuote noBreak ih =>
      obtain ⟨c, digits, split, _, single⟩ := eq_cons_of_escape? escaped
      simp only [codes?, noQuote, noBreak, escaped, if_false, if_true, Bool.false_eq_true,
        Option.map_eq_some_iff] at found
      obtain ⟨later, read, rfl⟩ := found
      obtain ⟨body, closed, counts⟩ := ih read
      refine ⟨'\\' :: c :: (digits ++ body), ?_, ?_⟩
      · rw [split, closed]
        simp
      · have one := single (strict c)
        have short : later.length ≤ body.length := by
          split at counts
          · exact counts.le
          · simp [counts]
        rw [if_pos List.mem_cons_self]
        simp only [List.length_append, List.length_cons]
        omega
  | case7 c rest noQuote noBreak noEscape ih =>
      simp only [codes?, noQuote, noBreak, noEscape, if_false, Bool.false_eq_true,
        Option.map_eq_some_iff] at found
      obtain ⟨later, read, rfl⟩ := found
      obtain ⟨body, rfl, counts⟩ := ih read
      refine ⟨c :: body, rfl, ?_⟩
      have same : '\\' ∈ c :: body ↔ '\\' ∈ body := by simp [Ne.symm noEscape]
      split at counts
      · rename_i inside
        rw [if_pos (same.mpr inside)]
        simpa using counts
      · rename_i outside
        rw [if_neg (mt same.mp outside), counts]
        rfl

theorem codes?_of_escape {escape : List Char} {codes : List Nat} (noQuote : quote ≠ '\\')
    (found : d.escape? (escape ++ rest) = some (codes, escape.length)) :
    d.codes? quote ('\\' :: (escape ++ rest)) = (d.codes? quote rest).map (codes ++ ·) := by
  have noBreak : isLineBreak '\\' = false := by decide
  simp [codes?, noQuote.symm, noBreak, found]

theorem codes?_of_plain {c : Char} (noQuote : c ≠ quote) (noEscape : c ≠ '\\')
    (noBreak : isLineBreak c = false) :
    d.codes? quote (c :: rest) = (d.codes? quote rest).map (c.toNat :: ·) := by
  simp [codes?, noQuote, noEscape, noBreak]

end Reading

/-! ### What is quoted -/

section Quoting

theorem hexDigit_spells : ∀ n < 16, isHexDigit (hexDigit n) = true ∧ hexValue (hexDigit n) = n ∧
    isPrintable (hexDigit n) = true := by
  decide +kernel

theorem length_hexDigits (width n : Nat) : (hexDigits width n).length = width := by
  induction width generalizing n with
  | zero => rfl
  | succ width ih => simp [hexDigits, ih]

theorem exists_of_mem_hexDigits {width n : Nat} {c : Char} (inside : c ∈ hexDigits width n) :
    ∃ digit < 16, c = hexDigit digit := by
  induction width generalizing n with
  | zero => cases inside
  | succ width ih =>
      rcases List.mem_append.mp inside with before | last
      · exact ih before
      · exact ⟨n % 16, Nat.mod_lt n (by decide), List.mem_singleton.mp last⟩

theorem spelledNumber_concat (base : Nat) (digits : List Char) (c : Char) :
    spelledNumber base (digits ++ [c]) = hexValue c + base * spelledNumber base digits := by
  simp [spelledNumber, Nat.ofDigits_cons]

theorem spelledNumber_hexDigits (width n : Nat) :
    spelledNumber 16 (hexDigits width n) = n % 16 ^ width := by
  induction width generalizing n with
  | zero => simp [hexDigits, spelledNumber, Nat.mod_one]
  | succ width ih =>
      have last := (hexDigit_spells (n % 16) (Nat.mod_lt n (by decide))).2.1
      rw [hexDigits, spelledNumber_concat, ih, last, Nat.pow_succ', Nat.mod_mul]

theorem codeDigits?_hexDigits {width n : Nat} (fits : n < 16 ^ width) (small : n < 0x110000)
    (rest : List Char) : codeDigits? (some width) (hexDigits width n ++ rest) =
      some (hexDigits width n) := by
  have taken : (hexDigits width n ++ rest).take width = hexDigits width n :=
    List.take_left' (length_hexDigits width n)
  have each : (hexDigits width n).all isHexDigit = true := by
    refine List.all_eq_true.mpr fun c inside => ?_
    obtain ⟨digit, below, rfl⟩ := exists_of_mem_hexDigits inside
    exact (hexDigit_spells digit below).1
  have value : spelledNumber 16 (hexDigits width n) = n := by
    rw [spelledNumber_hexDigits, Nat.mod_eq_of_lt fits]
  simp [codeDigits?, taken, each, value, small, length_hexDigits]

theorem exists_escapeCode {code : Nat} (small : code < 0x110000) :
    ∃ mark width, (mark, some width) ∈ bindings.marks ∧ code < 16 ^ width ∧
      escapeCode code = '\\' :: mark :: hexDigits width code := by
  unfold escapeCode
  split
  · exact ⟨'x', 2, by decide, by omega, rfl⟩
  split
  · exact ⟨'u', 4, by decide, by omega, rfl⟩
  · exact ⟨'U', 8, by decide, by omega, rfl⟩

theorem toNat_lt (c : Char) : c.toNat < 0x110000 := by
  have valid : c.toNat < 0xd800 ∨ 0xdfff < c.toNat ∧ c.toNat < 0x110000 := c.valid
  omega

theorem isLineBreak_of_isPrintable {c : Char} (printable : isPrintable c = true) :
    isLineBreak c = false := by
  have breaks : isPrintable '\n' = false ∧ isPrintable '\r' = false := by decide +kernel
  by_contra isBreak
  simp only [isLineBreak, Bool.not_eq_false, Bool.or_eq_true, decide_eq_true_eq] at isBreak
  rcases isBreak with rfl | rfl
  · simp [breaks.1] at printable
  · simp [breaks.2] at printable

/-- A character is written as an escape with a letter, as itself, or as its code. -/
inductive WrittenAs (quote c : Char) : List Char → Prop
  | letter {letter : Char} (isLetter : (letter, c.toNat) ∈ sharedLetters) :
      WrittenAs quote c ['\\', letter]
  | plain (noQuote : c ≠ quote) (noEscape : c ≠ '\\') (printable : isPrintable c = true) :
      WrittenAs quote c [c]
  | code : WrittenAs quote c (escapeCode c.toNat)

variable {quote c : Char} (isQuote : quote ∈ bindings.quotes)

include isQuote

theorem writtenAs_escapeChar : WrittenAs quote c (escapeChar quote c) := by
  have quotes : ∀ quote ∈ bindings.quotes, (quote, quote.toNat) ∈ sharedLetters :=
    List.forall_mem_cons.mpr ⟨by decide, List.forall_mem_singleton.mpr (by decide)⟩
  unfold escapeChar
  split
  · rename_i self
    simp only [Bool.or_eq_true, decide_eq_true_eq] at self
    rcases self with rfl | rfl
    · exact .letter (quotes c isQuote)
    · exact .letter (by decide)
  rename_i other
  simp only [Bool.or_eq_true, decide_eq_true_eq, not_or] at other
  refine iteInduction (fun same => .letter (by subst same; decide)) fun _ => ?_
  refine iteInduction (fun same => .letter (by subst same; decide)) fun _ => ?_
  refine iteInduction (fun same => .letter (by subst same; decide)) fun _ => ?_
  exact iteInduction (fun printable => .plain other.1 other.2 printable) fun _ => .code

/-- However a character is written, it is read as itself. -/
theorem codes?_escapeChar (rest : List Char) :
    bindings.codes? quote (escapeChar quote c ++ rest) =
      (bindings.codes? quote rest).map (c.toNat :: ·) := by
  have noEscape : quote ≠ '\\' := by
    rintro rfl
    exact absurd isQuote (by decide)
  have written : WrittenAs quote c (escapeChar quote c) := writtenAs_escapeChar isQuote
  generalize escapeChar quote c = spelling at written
  cases written with
  | @letter letter isLetter =>
      have found : ∀ entry ∈ sharedLetters, isOctalDigit entry.1 = false ∧
          bindings.marks.lookup entry.1 = none ∧
          bindings.letters.lookup entry.1 = some entry.2 := by decide
      obtain ⟨noDigit, noMark, code⟩ := found _ isLetter
      have read : bindings.escape? ([letter] ++ rest) = some ([c.toNat], [letter].length) := by
        simp [escape?, noDigit, noMark, code]
      exact codes?_of_escape noEscape read
  | plain noQuote noEscape printable =>
      exact codes?_of_plain noQuote noEscape (isLineBreak_of_isPrintable printable)
  | code =>
      have found : ∀ entry ∈ bindings.marks, isOctalDigit entry.1 = false ∧
          bindings.marks.lookup entry.1 = some entry.2 := by decide
      obtain ⟨mark, width, isMark, fits, spelled⟩ := exists_escapeCode (toNat_lt c)
      obtain ⟨noDigit, ofMark⟩ := found _ isMark
      have value : spelledNumber 16 (hexDigits width c.toNat) = c.toNat := by
        rw [spelledNumber_hexDigits, Nat.mod_eq_of_lt fits]
      have read : bindings.escape? (mark :: hexDigits width c.toNat ++ rest) =
          some ([c.toNat], (mark :: hexDigits width c.toNat).length) := by
        simp [escape?, noDigit, ofMark, codeDigits?_hexDigits fits (toNat_lt c), value]
      rw [spelled]
      exact codes?_of_escape noEscape read

theorem codes?_flatMap_escapeChar (text : List Char) :
    bindings.codes? quote (text.flatMap (escapeChar quote) ++ [quote]) =
      some (text.map Char.toNat) := by
  induction text with
  | nil => simp [codes?]
  | cons c rest ih =>
      rw [List.flatMap_cons, List.append_assoc, codes?_escapeChar isQuote, ih]
      rfl

theorem isPrintable_of_mem_escapeChar {x : Char} (inside : x ∈ escapeChar quote c) :
    isPrintable x = true := by
  have escape : isPrintable '\\' = true := by decide +kernel
  have written : WrittenAs quote c (escapeChar quote c) := writtenAs_escapeChar isQuote
  generalize escapeChar quote c = spelling at written inside
  cases written with
  | @letter letter isLetter =>
      have letters : ∀ entry ∈ sharedLetters, isPrintable entry.1 = true := by decide +kernel
      rcases List.mem_pair.mp inside with rfl | rfl
      · exact escape
      · exact letters _ isLetter
  | plain _ _ printable =>
      rw [List.mem_singleton.mp inside]
      exact printable
  | code =>
      have marks : ∀ entry ∈ bindings.marks, isPrintable entry.1 = true := by decide +kernel
      obtain ⟨mark, width, isMark, _, spelled⟩ := exists_escapeCode (toNat_lt c)
      rw [spelled, List.mem_cons, List.mem_cons] at inside
      rcases inside with rfl | rfl | isDigit
      · exact escape
      · exact marks _ isMark
      · obtain ⟨digit, below, rfl⟩ := exists_of_mem_hexDigits isDigit
        exact (hexDigit_spells digit below).2.2

end Quoting

theorem quoteFor_mem_quotes (text : List Char) : quoteFor text ∈ bindings.quotes := by
  unfold quoteFor
  split <;> decide

/-- What is quoted is read back, as the codes of its characters. -/
theorem literal?_quotedChars (text : List Char) :
    bindings.literal? (quotedChars text) = some (text.map Char.toNat) := by
  have isQuote := quoteFor_mem_quotes text
  rw [quotedChars, List.cons_append, literal?, if_pos isQuote]
  exact codes?_flatMap_escapeChar isQuote text

theorem isPrintable_of_mem_quotedChars {text : List Char} {c : Char}
    (inside : c ∈ quotedChars text) : isPrintable c = true := by
  have isQuote := quoteFor_mem_quotes text
  have quotes : ∀ quote ∈ bindings.quotes, isPrintable quote = true :=
    List.all_eq_true.mp (by decide +kernel)
  rw [quotedChars, List.mem_append, List.mem_cons, List.mem_singleton] at inside
  rcases inside with (rfl | written) | rfl
  · exact quotes _ isQuote
  · obtain ⟨own, _, inEscape⟩ := List.mem_flatMap.mp written
    exact isPrintable_of_mem_escapeChar isQuote inEscape
  · exact quotes _ isQuote

end Dialect

end NativeVariants.Header
