import Mathlib.Data.List.Basic
import NativeVariants.Json.Text

set_option autoImplicit false

/-!
Texts in a record are read as they were written. Every character is written as one unit or as a high
code with a low one, and the units of a written text join to the text again (`joinUnits_written`),
whatever stands behind its closing quote (`reads_text`).
-/

namespace NativeVariants.Json

/-- Reading takes the value off the head of the text, wherever the text stands. -/
def Reads {α : Type} (reader : Cursor → Except Error (α × Cursor)) (text : List Char) (a : α)
    (rest : List Char) : Prop :=
  ∀ position, ∃ position', reader ⟨position, text⟩ = .ok (a, ⟨position', rest⟩)

/-! ### Codes -/

theorem hexValue?_hexDigit : ∀ n < 16, hexValue? (hexDigit n) = some n := by decide

theorem code?_hexDigits {n : Nat} (small : n < 0x10000) :
    code? (hexDigit (n / 4096 % 16)) (hexDigit (n / 256 % 16)) (hexDigit (n / 16 % 16))
      (hexDigit (n % 16)) = some n := by
  have digit : ∀ m, hexValue? (hexDigit (m % 16)) = some (m % 16) :=
    fun m => hexValue?_hexDigit _ (Nat.mod_lt _ (by decide))
  have whole : (((n / 4096 % 16) * 16 + n / 256 % 16) * 16 + n / 16 % 16) * 16 + n % 16 = n := by
    omega
  unfold code?
  simp only [digit]
  exact congrArg some whole

theorem not_isHighCode_toNat (c : Char) : isHighCode c.toNat = false := by
  have valid : c.toNat < 0xd800 ∨ 0xdfff < c.toNat ∧ c.toNat < 0x110000 := c.valid
  simp only [isHighCode, Bool.and_eq_false_iff, decide_eq_false_iff_not]
  omega

/-! ### Units -/

/-- Units up to the closing quote are taken off the text, wherever it stands. -/
def ReadsUnits (text : List Char) (units : List TextUnit) (rest : List Char) : Prop :=
  ∀ start, Reads (fun cursor => readUnits start cursor.position cursor.rest) text units rest

namespace ReadsUnits

variable {text rest : List Char} {units : List TextUnit}

theorem close (rest : List Char) : ReadsUnits ('"' :: rest) [] rest :=
  fun _ position => ⟨position + 1, rfl⟩

theorem plain {c : Char} (noQuote : c ≠ '"') (noEscape : c ≠ '\\') (printable : 0x20 ≤ c.toNat)
    (reads : ReadsUnits text units rest) : ReadsUnits (c :: text) (.char c :: units) rest := by
  intro start position
  obtain ⟨position', read⟩ := reads start (position + 1)
  refine ⟨position', ?_⟩
  simp only at read ⊢
  rw [readUnits, if_neg (Nat.not_lt.mpr printable), read]
  · rfl
  all_goals simp [noQuote, noEscape]

theorem escaped {e c : Char} (isEscape : simpleEscape? e = some c)
    (reads : ReadsUnits text units rest) :
    ReadsUnits ('\\' :: e :: text) (.char c :: units) rest := by
  have noCode : e ≠ 'u' := by
    rintro rfl
    cases isEscape
  intro start position
  obtain ⟨position', read⟩ := reads start (position + 2)
  refine ⟨position', ?_⟩
  simp only at read ⊢
  rw [readUnits, if_neg noCode, isEscape]
  · simp only
    rw [read]
    rfl
  · exact fun _ _ _ _ _ isCode => absurd isCode noCode

theorem code {n : Nat} (small : n < 0x10000) (goesOn : text ≠ [])
    (reads : ReadsUnits text units rest) :
    ReadsUnits (codeEscape n ++ text) (.code n :: units) rest := by
  intro start position
  obtain ⟨position', read⟩ := reads start (position + 6)
  refine ⟨position', ?_⟩
  have more : text.isEmpty = false := by simpa using goesOn
  have value := code?_hexDigits small
  simp only [codeEscape, List.cons_append, List.nil_append] at read ⊢
  rw [readUnits, more, value]
  simp only [Bool.false_eq_true, if_false]
  rw [read]
  rfl

end ReadsUnits

/-! ### Characters -/

/-- A character is written as a short escape, as itself, or with one or two codes. -/
inductive WrittenAs (c : Char) : List Char → Prop where
  | escape {e : Char} (isEscape : simpleEscape? e = some c) : WrittenAs c ['\\', e]
  | plain (noQuote : c ≠ '"') (noEscape : c ≠ '\\') (printable : 0x20 ≤ c.toNat) : WrittenAs c [c]
  | code (small : c.toNat < 0x10000) : WrittenAs c (codeEscape c.toNat)
  | pair (large : 0x10000 ≤ c.toNat) :
      WrittenAs c (codeEscape (0xd800 + (c.toNat - 0x10000) / 0x400) ++
        codeEscape (0xdc00 + (c.toNat - 0x10000) % 0x400))

theorem writtenAs_writeChar (c : Char) : WrittenAs c (writeChar c) := by
  unfold writeChar
  refine iteInduction (fun same => .escape (congrArg some same.symm)) fun noQuote => ?_
  refine iteInduction (fun same => .escape (congrArg some same.symm)) fun noEscape => ?_
  -- The escapes of the blanks.
  iterate 5 refine iteInduction (fun same => .escape (congrArg some same.symm)) fun _ => ?_
  refine iteInduction (fun printable => ?_) fun _ => ?_
  · simp only [Bool.and_eq_true, decide_eq_true_eq] at printable
    exact .plain noQuote noEscape printable.1
  · exact iteInduction .code fun large => .pair (Nat.not_lt.mp large)

theorem joinUnits_code (n : Nat) (notHigh : isHighCode n = false) (units : List TextUnit) :
    joinUnits (.code n :: units) = joinUnits.single n :: joinUnits units := by
  cases units with
  | nil => rfl
  | cons unit rest =>
      cases unit with
      | char c => rfl
      | code low =>
          rw [joinUnits, notHigh]
          rfl

theorem joinUnits_pair {high low : Nat} (isHigh : isHighCode high = true)
    (isLow : isLowCode low = true) (units : List TextUnit) :
    joinUnits (.code high :: .code low :: units) =
      Char.ofNat (0x10000 + (high - 0xd800) * 0x400 + (low - 0xdc00)) :: joinUnits units := by
  rw [joinUnits, isHigh, isLow]
  rfl

/-- The units of a written character join to it, whatever follows. -/
theorem exists_units (c : Char) :
    ∃ units, (∀ more, joinUnits (units ++ more) = c :: joinUnits more) ∧
      ∀ text more rest, text ≠ [] → ReadsUnits text more rest →
        ReadsUnits (writeChar c ++ text) (units ++ more) rest := by
  have valid : c.toNat < 0xd800 ∨ 0xdfff < c.toNat ∧ c.toNat < 0x110000 := c.valid
  have written := writtenAs_writeChar c
  generalize writeChar c = text at written
  cases written with
  | escape isEscape =>
      exact ⟨[.char c], fun _ => rfl, fun _ _ _ _ reads => reads.escaped isEscape⟩
  | plain noQuote noEscape printable =>
      exact ⟨[.char c], fun _ => rfl, fun _ _ _ _ reads => reads.plain noQuote noEscape printable⟩
  | code small =>
      refine ⟨[.code c.toNat], fun more => ?_, fun _ _ _ goesOn reads => reads.code small goesOn⟩
      have isValid : c.toNat.isValidChar := c.valid
      rw [List.singleton_append, joinUnits_code _ (not_isHighCode_toNat c), joinUnits.single,
        if_pos isValid, Char.ofNat_toNat]
  | pair large =>
      refine ⟨[.code (0xd800 + (c.toNat - 0x10000) / 0x400),
        .code (0xdc00 + (c.toNat - 0x10000) % 0x400)], fun more => ?_,
        fun text more rest goesOn reads => ?_⟩
      · have isHigh : isHighCode (0xd800 + (c.toNat - 0x10000) / 0x400) = true := by
          simp only [isHighCode, Bool.and_eq_true, decide_eq_true_eq]
          omega
        have isLow : isLowCode (0xdc00 + (c.toNat - 0x10000) % 0x400) = true := by
          simp only [isLowCode, Bool.and_eq_true, decide_eq_true_eq]
          omega
        have whole : 0x10000 + (0xd800 + (c.toNat - 0x10000) / 0x400 - 0xd800) * 0x400 +
            (0xdc00 + (c.toNat - 0x10000) % 0x400 - 0xdc00) = c.toNat := by
          omega
        rw [List.cons_append, List.singleton_append, joinUnits_pair isHigh isLow, whole,
          Char.ofNat_toNat]
      · have low := reads.code (n := 0xdc00 + (c.toNat - 0x10000) % 0x400) (by omega) goesOn
        rw [List.append_assoc]
        exact low.code (by omega) (by simp [codeEscape])

theorem exists_units_of_written (cs rest : List Char) :
    ∃ units, joinUnits units = cs ∧
      ReadsUnits (cs.flatMap writeChar ++ '"' :: rest) units rest := by
  induction cs with
  | nil => exact ⟨[], rfl, .close rest⟩
  | cons c cs ih =>
      obtain ⟨later, joined, readLater⟩ := ih
      obtain ⟨units, joins, reads⟩ := exists_units c
      refine ⟨units ++ later, by rw [joins, joined], ?_⟩
      rw [List.flatMap_cons, List.append_assoc]
      exact reads _ _ _ (by simp) readLater

/-- A carriage return is never written as itself. -/
theorem ne_return_of_mem_writeChar {c x : Char} (inside : x ∈ writeChar c) : x ≠ '\r' := by
  have digits : ∀ n < 16, hexDigit n ≠ '\r' := by decide
  have noReturn : ∀ n, '\r' ∉ codeEscape n := by
    intro n inCode
    simp only [codeEscape, List.mem_cons, List.not_mem_nil, or_false] at inCode
    rcases inCode with same | same | same | same | same | same
    · cases same
    · cases same
    all_goals exact digits _ (Nat.mod_lt _ (by decide)) same.symm
  rintro rfl
  have written := writtenAs_writeChar c
  generalize writeChar c = text at written inside
  cases written with
  | escape isEscape =>
      rcases List.mem_pair.mp inside with same | rfl
      · cases same
      · cases isEscape
  | plain noQuote noEscape printable =>
      obtain rfl := List.mem_singleton.mp inside
      exact absurd printable (by decide)
  | code small => exact noReturn _ inside
  | pair large => exact (List.mem_append.mp inside).elim (noReturn _) (noReturn _)

/-! ### Texts -/

theorem reads_text (text : String) (rest : List Char) :
    Reads readText (text.toList.flatMap writeChar ++ '"' :: rest) text rest := by
  intro position
  obtain ⟨units, joined, reads⟩ := exists_units_of_written text.toList rest
  obtain ⟨position', read⟩ := reads (position - 1) position
  refine ⟨position', ?_⟩
  simp only at read
  unfold readText
  simp only
  rw [read]
  simp only [bind, Except.bind, pure, Except.pure, joined, String.ofList_toList]

theorem toList_writeText (text : String) :
    (writeText text).toList = '"' :: (text.toList.flatMap writeChar ++ ['"']) := by
  unfold writeText
  rw [String.toList_ofList]
  rfl

end NativeVariants.Json
