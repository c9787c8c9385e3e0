import NativeVariants.Proofs.Header.IntegerLiterals

set_option autoImplicit false

/-!
Decimals with a point. Every spelling of one is read as a number, unless a suffix letter is followed
by a line break (`SplitsReal.realValue_eq_error_iff`).
-/

namespace NativeVariants.Header
open Number Text

inductive IsExponent : List Char → Prop
  | none : IsExponent []
  | unsigned {e : Char} {digits : List Char} (mark : e = 'e' ∨ e = 'E') (nonempty : digits ≠ [])
      (each : ∀ c ∈ digits, isDecimal c = true) : IsExponent (e :: digits)
  | signed {e sign : Char} {digits : List Char} (mark : e = 'e' ∨ e = 'E')
      (isSign : sign = '-' ∨ sign = '+') (nonempty : digits ≠ [])
      (each : ∀ c ∈ digits, isDecimal c = true) : IsExponent (e :: sign :: digits)

/-- A text that is cut into the parts of a decimal, its suffix letter, and perhaps a line break. -/
structure SplitsReal (text whole fraction exponent suffix tail : List Char) : Prop where
  split : text = whole ++ '.' :: (fraction ++ (exponent ++ (suffix ++ tail)))
  areWhole : ∀ c ∈ whole, isDecimal c = true
  areFraction : ∀ c ∈ fraction, isDecimal c = true
  anyDigit : whole ≠ [] ∨ fraction ≠ []
  isExponent : IsExponent exponent
  letter : suffix = [] ∨ ∃ c, suffix = [c] ∧ isRealSuffix c = true
  ends : tail = [] ∨ tail = ['\n']

/-! ### Spellings of decimals -/

theorem dropExponent_split (text : List Char) :
    ∃ exponent, text = exponent ++ dropExponent text ∧ IsExponent exponent := by
  unfold dropExponent
  cases text with
  | nil => exact ⟨[], rfl, .none⟩
  | cons e rest =>
      by_cases mark : e = 'e' ∨ e = 'E'
      · cases rest with
        | nil => exact ⟨[], by simp, .none⟩
        | cons d more =>
            by_cases isSign : d = '-' ∨ d = '+'
            · by_cases first : (more.head?.map isDecimal).getD false = true
              · refine ⟨e :: d :: more.takeWhile isDecimal, ?_, .signed mark isSign
                  (takeWhile_ne_nil first) (List.all_eq_true.mp List.all_takeWhile)⟩
                simp [mark, isSign, first]
              · exact ⟨[], by simp [mark, isSign, first], .none⟩
            · by_cases first : isDecimal d = true
              · refine ⟨e :: (d :: more).takeWhile isDecimal, ?_, .unsigned mark
                  (takeWhile_ne_nil first) (List.all_eq_true.mp List.all_takeWhile)⟩
                simp [mark, isSign, first]
              · exact ⟨[], by simp [mark, isSign, first], .none⟩
      · exact ⟨[], by simp [mark], .none⟩

theorem dropExponent_append {exponent rest : List Char} (isExponent : IsExponent exponent)
    (ends : ∀ c ∈ rest.head?, isDecimal c = false ∧ c ≠ 'e' ∧ c ≠ 'E') :
    dropExponent (exponent ++ rest) = rest := by
  have passed {digits : List Char} (each : ∀ c ∈ digits, isDecimal c = true) :
      (digits ++ rest).dropWhile isDecimal = rest :=
    dropWhile_append_of_ends each fun c first => (ends c first).1
  cases isExponent with
  | none =>
      cases rest with
      | nil => rfl
      | cons c more =>
          have noMark := (ends c rfl).2
          simp [dropExponent, noMark]
  | @unsigned e digits mark nonempty each =>
      obtain ⟨d, more, rfl⟩ := List.exists_cons_of_ne_nil nonempty
      have decimal := each d List.mem_cons_self
      have noSign : ¬(d = '-' ∨ d = '+') := by
        rintro (rfl | rfl) <;> exact absurd decimal (by decide)
      have dropped := passed each
      simpa [dropExponent, mark, noSign, decimal] using dropped
  | @signed e sign digits mark isSign nonempty each =>
      obtain ⟨d, more, rfl⟩ := List.exists_cons_of_ne_nil nonempty
      have decimal := each d List.mem_cons_self
      have dropped := passed each
      simpa [dropExponent, mark, isSign, decimal] using dropped

theorem isDecimal_point : isDecimal '.' = false := by decide

def EndsReal (c : Char) : Prop := isDecimal c = false ∧ c ≠ 'e' ∧ c ≠ 'E' ∧ c ≠ '_'

theorem endsReal_of_isRealSuffix {c : Char} (letter : isRealSuffix c = true) : EndsReal c := by
  simp only [isRealSuffix, Bool.or_eq_true, decide_eq_true_eq] at letter
  rcases letter with ((rfl | rfl) | rfl) | rfl <;> exact ⟨by decide, by decide, by decide, by decide⟩

namespace SplitsReal

variable {text whole fraction exponent suffix tail : List Char}
  (splits : SplitsReal text whole fraction exponent suffix tail)

include splits

theorem endsReal_of_head : ∀ c ∈ (suffix ++ tail).head?, EndsReal c := by
  intro c first
  rcases splits.letter with rfl | ⟨d, rfl, letter⟩
  · rcases splits.ends with rfl | rfl
    · cases first
    · obtain rfl : '\n' = c := by simpa using first
      exact ⟨by decide, by decide, by decide, by decide⟩
  · obtain rfl : d = c := by simpa using first
    exact endsReal_of_isRealSuffix letter

/-- The digits behind the point end at an exponent or behind it. -/
theorem endsReal_of_exponent :
    ∀ c ∈ (exponent ++ (suffix ++ tail)).head?, isDecimal c = false ∧ c ≠ '_' := by
  intro c first
  cases splits.isExponent with
  | none =>
      have ends := splits.endsReal_of_head c first
      exact ⟨ends.1, ends.2.2.2⟩
  | @unsigned e digits mark nonempty each =>
      obtain rfl : e = c := by simpa using first
      rcases mark with rfl | rfl <;> exact ⟨by decide, by decide⟩
  | @signed e sign digits mark isSign nonempty each =>
      obtain rfl : e = c := by simpa using first
      rcases mark with rfl | rfl <;> exact ⟨by decide, by decide⟩

theorem isRealSpelling_eq : isRealSpelling text = true := by
  have whole' : text.takeWhile isDecimal = whole := by
    rw [splits.split, List.takeWhile_append_of_pos splits.areWhole]
    simp [isDecimal_point]
  have afterWhole : text.dropWhile isDecimal =
      '.' :: (fraction ++ (exponent ++ (suffix ++ tail))) := by
    rw [splits.split]
    exact dropWhile_append_of_ends splits.areWhole (by simp [isDecimal_point])
  have fraction' : (fraction ++ (exponent ++ (suffix ++ tail))).takeWhile isDecimal = fraction := by
    rw [List.takeWhile_append_of_pos splits.areFraction]
    have ends := splits.endsReal_of_exponent
    cases found : exponent ++ (suffix ++ tail) with
    | nil => simp
    | cons c more =>
        rw [found] at ends
        simp [(ends c rfl).1]
  have afterFraction : (fraction ++ (exponent ++ (suffix ++ tail))).dropWhile isDecimal =
      exponent ++ (suffix ++ tail) :=
    dropWhile_append_of_ends splits.areFraction fun c first =>
      (splits.endsReal_of_exponent c first).1
  have afterExponent : dropExponent (exponent ++ (suffix ++ tail)) = suffix ++ tail :=
    dropExponent_append splits.isExponent fun c first =>
      have ends := splits.endsReal_of_head c first
      ⟨ends.1, ends.2.1, ends.2.2.1⟩
  have digits : (whole.isEmpty && fraction.isEmpty) = false := by
    rcases splits.anyDigit with any | any <;> simp [any]
  simp only [isRealSpelling, afterWhole, whole', fraction', afterFraction, afterExponent, digits]
  have ends : isEnd tail = true := isEnd_iff.mpr splits.ends
  rcases splits.letter with rfl | ⟨c, rfl, letter⟩
  · rcases splits.ends with rfl | rfl <;> simp [isEnd]
  · simp [letter, ends]

end SplitsReal

theorem isRealSpelling_iff {text : List Char} :
    isRealSpelling text = true ↔
      ∃ whole fraction exponent suffix tail,
        SplitsReal text whole fraction exponent suffix tail := by
  constructor
  · intro isReal
    simp only [isRealSpelling] at isReal
    split at isReal
    · rename_i rest afterWhole
      split at isReal
      · cases isReal
      · rename_i some
        obtain ⟨exponent, split, isExponent⟩ := dropExponent_split (rest.dropWhile isDecimal)
        have cut : text = text.takeWhile isDecimal ++ '.' :: (rest.takeWhile isDecimal ++
            (exponent ++ dropExponent (rest.dropWhile isDecimal))) := by
          rw [← split, List.takeWhile_append_dropWhile, ← afterWhole,
            List.takeWhile_append_dropWhile]
        have splits {suffix tail : List Char}
            (left : dropExponent (rest.dropWhile isDecimal) = suffix ++ tail)
            (letter : suffix = [] ∨ ∃ c, suffix = [c] ∧ isRealSuffix c = true)
            (ends : tail = [] ∨ tail = ['\n']) :
            SplitsReal text (text.takeWhile isDecimal) (rest.takeWhile isDecimal) exponent
              suffix tail :=
          { split := by rw [← left]; exact cut
            areWhole := List.all_eq_true.mp List.all_takeWhile
            areFraction := List.all_eq_true.mp List.all_takeWhile
            anyDigit := by simpa [Decidable.or_iff_not_imp_left] using some
            isExponent
            letter
            ends }
        split at isReal
        · rename_i c more left
          rcases Bool.or_eq_true_iff.mp isReal with ends | both
          · exact ⟨_, _, _, [], c :: more, splits left (.inl rfl) (isEnd_iff.mp ends)⟩
          · obtain ⟨letter, ends⟩ := Bool.and_eq_true_iff.mp both
            exact ⟨_, _, _, [c], more, splits left (.inr ⟨c, rfl, letter⟩) (isEnd_iff.mp ends)⟩
        · rename_i left
          exact ⟨_, _, _, [], [], splits left (.inl rfl) (.inl rfl)⟩
    · cases isReal
  · rintro ⟨whole, fraction, exponent, suffix, tail, splits⟩
    exact splits.isRealSpelling_eq

/-! ### Values of decimals -/

theorem takeDigits_append {digits rest : List Char} (each : ∀ c ∈ digits, isDecimal c = true)
    (ends : ∀ c ∈ rest.head?, isDecimal c = false ∧ c ≠ '_') :
    takeDigits (digits ++ rest) = (digits.map fun c => (digitValue? c).getD 0, rest) := by
  induction digits with
  | nil =>
      cases rest with
      | nil => rfl
      | cons c more =>
          have noDigit : digitValue? c = none := by simpa [isDecimal] using (ends c rfl).1
          rw [List.nil_append, takeDigits.eq_def]
          split <;> simp_all
  | cons c more ih =>
      rw [List.forall_mem_cons] at each
      have later := ih each.2
      obtain ⟨value, digit⟩ := Option.isSome_iff_exists.mp each.1
      have noMark : ∀ d ∈ (more ++ rest).head?, d ≠ '_' := by
        intro d first
        cases more with
        | nil => exact (ends d first).2
        | cons e further =>
            obtain rfl : e = d := by simpa using first
            rintro rfl
            exact absurd (each.2 '_' List.mem_cons_self) (by decide)
      rw [List.cons_append, takeDigits]
      · simp [digit, later]
      · intro d further split
        exact noMark '_' (by simp [split]) rfl

/-- Digits that are read up to the end of the text make a number. -/
theorem readExponent?_isSome {exponent suffix : List Char} {e : Char} {rest : List Char}
    (isExponent : IsExponent exponent) (split : exponent = e :: rest)
    (ends : ∀ c ∈ suffix.head?, EndsReal c) :
    (readExponent? (rest ++ suffix)).isSome = suffix.isEmpty := by
  have ended : ∀ c ∈ suffix.head?, isDecimal c = false ∧ c ≠ '_' := fun c first =>
    ⟨(ends c first).1, (ends c first).2.2.2⟩
  cases isExponent with
  | none => cases split
  | @unsigned _ digits mark nonempty each =>
      obtain ⟨rfl, rfl⟩ := List.cons.inj split
      have taken := takeDigits_append each ended
      obtain ⟨d, more, rfl⟩ := List.exists_cons_of_ne_nil nonempty
      have decimal := each d List.mem_cons_self
      have noMinus : d ≠ '-' := by rintro rfl; exact absurd decimal (by decide)
      have noPlus : d ≠ '+' := by rintro rfl; exact absurd decimal (by decide)
      rw [List.cons_append] at taken ⊢
      cases suffix with
      | nil =>
          rw [List.append_nil] at taken ⊢
          simp [readExponent?, noMinus, noPlus, taken]
      | cons c further => simp [readExponent?, noMinus, noPlus, taken]
  | @signed _ sign digits mark isSign nonempty each =>
      obtain ⟨rfl, rfl⟩ := List.cons.inj split
      have taken := takeDigits_append each ended
      obtain ⟨d, more, rfl⟩ := List.exists_cons_of_ne_nil nonempty
      rcases isSign with rfl | rfl <;> cases suffix <;> simp_all [readExponent?]

section Reading

variable {text whole fraction exponent suffix tail : List Char}
  (splits : SplitsReal text whole fraction exponent suffix tail)

include splits

theorem SplitsReal.readMagnitude?_isSome (negative : Bool) :
    (readMagnitude? negative (whole ++ '.' :: (fraction ++ (exponent ++ suffix)))).isSome =
      suffix.isEmpty := by
  have bare : SplitsReal (whole ++ '.' :: (fraction ++ (exponent ++ (suffix ++ [])))) whole fraction
      exponent suffix [] :=
    ⟨rfl, splits.areWhole, splits.areFraction, splits.anyDigit, splits.isExponent, splits.letter, .inl rfl⟩
  have ends := bare.endsReal_of_head
  have ended := bare.endsReal_of_exponent
  rw [List.append_nil] at ends ended
  have takenWhole : takeDigits (whole ++ '.' :: (fraction ++ (exponent ++ suffix))) = _ :=
    takeDigits_append splits.areWhole (by simp [isDecimal_point])
  have takenFraction := takeDigits_append splits.areFraction ended
  have digits : ((whole.map fun c => (digitValue? c).getD 0).isEmpty &&
      (fraction.map fun c => (digitValue? c).getD 0).isEmpty) = false := by
    rcases splits.anyDigit with any | any <;> simp [any]
  simp only [readMagnitude?, takenWhole, takenFraction, digits, Bool.false_eq_true, if_false,
    Option.isSome_map]
  cases splits.isExponent with
  | none =>
      cases suffix with
      | nil => rfl
      | cons c more =>
          have noMark := ends c rfl
          simp [noMark.2.1, noMark.2.2.1]
  | @unsigned e digits mark nonempty each =>
      have read := readExponent?_isSome splits.isExponent rfl ends
      simpa [mark] using read
  | @signed e sign digits mark isSign nonempty each =>
      have read := readExponent?_isSome splits.isExponent rfl ends
      simpa [mark] using read

theorem SplitsReal.isNumeralBlank_of_mem (c : Char)
    (inside : c ∈ whole ++ '.' :: (fraction ++ (exponent ++ suffix))) :
    isNumeralBlank c = false := by
  have ofDecimal {c : Char} (decimal : isDecimal c = true) : isNumeralBlank c = false :=
    isNumeralBlank_of_not_mem (not_mem_nonDigitCodes_of_isDecimal decimal)
  have ofMark {c : Char} (mark : c = 'e' ∨ c = 'E') : isNumeralBlank c = false := by
    rcases mark with rfl | rfl <;> decide
  rw [List.mem_append, List.mem_cons, List.mem_append, List.mem_append] at inside
  rcases inside with inWhole | rfl | inFraction | inExponent | inSuffix
  · exact ofDecimal (splits.areWhole c inWhole)
  · decide
  · exact ofDecimal (splits.areFraction c inFraction)
  · cases splits.isExponent with
    | none => cases inExponent
    | unsigned mark nonempty each =>
        rcases List.mem_cons.mp inExponent with rfl | digit
        · exact ofMark mark
        · exact ofDecimal (each c digit)
    | signed mark isSign nonempty each =>
        rcases List.mem_cons.mp inExponent with rfl | later
        · exact ofMark mark
        rcases List.mem_cons.mp later with rfl | digit
        · rcases isSign with rfl | rfl <;> decide
        · exact ofDecimal (each c digit)
  · rcases splits.letter with rfl | ⟨d, rfl, letter⟩
    · cases inSuffix
    · obtain rfl := List.mem_singleton.mp inSuffix
      simp only [isRealSuffix, Bool.or_eq_true, decide_eq_true_eq] at letter
      rcases letter with ((rfl | rfl) | rfl) | rfl <;> decide

/-- A decimal begins with no sign, and it is no word for a number. -/
theorem SplitsReal.exists_head :
    ∃ c rest, whole ++ '.' :: (fraction ++ (exponent ++ suffix)) = c :: rest ∧
      c ≠ '-' ∧ c ≠ '+' ∧ c.toLower ≠ 'i' ∧ c.toLower ≠ 'n' := by
  cases whole with
  | nil => exact ⟨'.', _, rfl, by decide, by decide, by decide, by decide⟩
  | cons c more =>
      have decimal := splits.areWhole c List.mem_cons_self
      rw [← List.cons_append]
      refine ⟨c, _, rfl, ?_, ?_, ?_, ?_⟩
      · rintro rfl
        exact absurd decimal (by decide)
      · rintro rfl
        exact absurd decimal (by decide)
      · rw [toLower_of_isDecimal decimal]
        rintro rfl
        exact absurd decimal (by decide)
      · rw [toLower_of_isDecimal decimal]
        rintro rfl
        exact absurd decimal (by decide)

theorem SplitsReal.readBinary64?_isSome (blanks : List Char)
    (blank : ∀ c ∈ blanks, isNumeralBlank c = true) :
    (readBinary64? (whole ++ '.' :: (fraction ++ (exponent ++ suffix)) ++ blanks)).isSome =
      suffix.isEmpty := by
  have read := splits.readMagnitude?_isSome false
  have trimmed := trimNumeral_append (by simp) splits.isNumeralBlank_of_mem blank
  obtain ⟨c, rest, same, noMinus, noPlus, noI, noN⟩ := splits.exists_head
  have noWord (word : String)
      (first : word.toList.head? = some 'i' ∨ word.toList.head? = some 'n') :
      String.singleton c.toLower ++ String.ofList (rest.map Char.toLower) ≠ word := by
    rintro rfl
    rcases first with first | first
    · exact noI (by simpa using first)
    · exact noN (by simpa using first)
  have noInf := noWord "inf" (by decide)
  have noInfinity := noWord "infinity" (by decide)
  have noNan := noWord "nan" (by decide)
  rw [readBinary64?, trimmed]
  rw [same] at read ⊢
  simpa [noMinus, noPlus, noInf, noInfinity, noNan] using read

/-- A decimal ends with a digit or its point, so that its suffix letter is all that is dropped. -/
theorem SplitsReal.dropEnd_eq :
    dropEnd isRealSuffix (whole ++ '.' :: (fraction ++ (exponent ++ suffix))) =
      whole ++ '.' :: (fraction ++ exponent) := by
  have digit (front : List Char) {digits : List Char} (nonempty : digits ≠ [])
      (each : ∀ c ∈ digits, isDecimal c = true) :
      ∀ c ∈ (front ++ digits).getLast?, isRealSuffix c = false := by
    intro c last
    rw [List.getLast?_append_of_ne_nil _ nonempty] at last
    by_contra letter
    have ends := endsReal_of_isRealSuffix (Bool.eq_true_of_not_eq_false letter)
    simpa [ends.1] using each c (List.mem_of_getLast? last)
  have last : ∀ c ∈ (whole ++ '.' :: (fraction ++ exponent)).getLast?, isRealSuffix c = false := by
    cases splits.isExponent with
    | none =>
        rw [List.append_nil]
        cases fraction with
        | nil => simp [isRealSuffix]
        | cons d more => simpa using digit (whole ++ ['.']) (by simp) splits.areFraction
    | @unsigned e digits mark nonempty each =>
        simpa using digit (whole ++ '.' :: (fraction ++ [e])) nonempty each
    | @signed e sign digits mark isSign nonempty each =>
        simpa using digit (whole ++ '.' :: (fraction ++ [e, sign])) nonempty each
  have letters : ∀ c ∈ suffix, isRealSuffix c = true := by
    rcases splits.letter with rfl | ⟨d, rfl, letter⟩ <;> simp_all
  simpa using dropEnd_append last letters

/-- A decimal is read unless a suffix letter is followed by a line break. -/
theorem SplitsReal.realValue_eq_error_iff :
    realValue text = .error .badNumeral ↔ suffix ≠ [] ∧ tail ≠ [] := by
  have failed : realValue text = .error .badNumeral ↔
      (readBinary64? (dropEnd isRealSuffix text)).isSome = false := by
    unfold realValue
    cases readBinary64? (dropEnd isRealSuffix text) <;> simp
  rw [failed]
  rcases splits.ends with rfl | rfl
  · have bare : SplitsReal (whole ++ '.' :: (fraction ++ (exponent ++ ([] ++ [])))) whole fraction
        exponent [] [] :=
      ⟨rfl, splits.areWhole, splits.areFraction, splits.anyDigit, splits.isExponent, .inl rfl,
        .inl rfl⟩
    have read := bare.readBinary64?_isSome [] nofun
    rw [List.append_nil, List.append_nil] at read
    rw [splits.split, List.append_nil, splits.dropEnd_eq, read]
    simp
  · have joined : text = whole ++ '.' :: (fraction ++ (exponent ++ suffix)) ++ ['\n'] := by
      rw [splits.split]
      simp
    have kept : dropEnd isRealSuffix text = text := by
      have last : ∀ c ∈ text.getLast?, isRealSuffix c = false := by
        rw [joined, List.getLast?_concat]
        simp [isRealSuffix]
      rw [← List.append_nil text, dropEnd_append last (by simp), List.append_nil]
    have read := splits.readBinary64?_isSome ['\n'] (List.all_eq_true.mp (by decide))
    rw [kept, joined, read]
    simp

end Reading

end NativeVariants.Header
