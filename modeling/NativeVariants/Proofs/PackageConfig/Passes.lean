import NativeVariants.Proofs.PackageConfig.Renaming

set_option autoImplicit false

/-!
What a renaming pass makes of a text. The basename takes the place of some primary names, each before
a separator (`Renamed`). A thing that begins with the primary name and goes on with a character that
the basename does not have begins only where it began before the pass (`Renamed.begins`), unless the
basename can be confused with the end of what is around it (`IsStable`).
-/

namespace NativeVariants.PackageConfig
open Pattern Text

/-- Characters that stand next to a name in a configuration, or mean something in a template. -/
def specials : List Char := ['-', ')', ':', '\\', '\x00']

/-- A word of letters, digits and underscores, or of other characters that are neither blank nor
special. -/
structure IsWord (basename : List Char) : Prop where
  some : basename ≠ []
  solid : ∀ c ∈ basename, isBlank c = false
  plain : ∀ c ∈ basename, c ∉ specials

/-- Neither the primary name nor the name of a module comes about where the basename meets the text
before it. -/
structure IsStable (basename : List Char) : Prop where
  notAfter : ¬primary <:+ basename
  notWithin : ¬basename <:+ primary
  noModule : ∀ m ∈ modules, ¬basename.takeWhile isWordChar <:+ m.toList

/-- What may follow a name that is replaced. -/
def IsSeparator (c : Char) : Prop := c = '-' ∨ c = ')' ∨ isBlank c = true

/-- The primary name begins a text and goes on in the given way. -/
def Begins (goesOn : List Char → Prop) (text : List Char) : Prop :=
  ∃ rest, text = primary ++ rest ∧ goesOn rest

/-- Nothing begins at any place of a gap that is followed by a text. -/
def Nowhere (goesOn : List Char → Prop) (gap after : List Char) : Prop :=
  ∀ part, part ≠ [] → part <:+ gap → ¬Begins goesOn (part ++ after)

section Nowhere

variable {goesOn : List Char → Prop} {gap more after : List Char} {c : Char}

theorem nowhere_nil (goesOn : List Char → Prop) (after : List Char) : Nowhere goesOn [] after := by
  intro part some suffix
  exact absurd (List.suffix_nil.mp suffix) some

theorem nowhere_cons_iff :
    Nowhere goesOn (c :: gap) after ↔
      ¬Begins goesOn (c :: (gap ++ after)) ∧ Nowhere goesOn gap after := by
  constructor
  · intro nowhere
    constructor
    · exact nowhere (c :: gap) (List.cons_ne_nil c gap) (List.suffix_refl _)
    · intro part some suffix
      exact nowhere part some (suffix.trans (List.suffix_cons c gap))
  · rintro ⟨here, later⟩ part some suffix
    rcases List.suffix_cons_iff.mp suffix with rfl | inRest
    · exact here
    · exact later part some inRest

theorem nowhere_append_iff :
    Nowhere goesOn (gap ++ more) after ↔
      Nowhere goesOn gap (more ++ after) ∧ Nowhere goesOn more after := by
  induction gap with
  | nil => simp [nowhere_nil]
  | cons c gap ih => simp [nowhere_cons_iff, ih, and_assoc]

theorem not_begins_of_ne (other : c ≠ 'g') (rest : List Char) : ¬Begins goesOn (c :: rest) := by
  rintro ⟨_, same, _⟩
  exact other (List.cons.inj same).1

/-- Without its first letter the name begins nowhere. -/
theorem nowhere_of_not_mem (absent : 'g' ∉ gap) (after : List Char) : Nowhere goesOn gap after := by
  induction gap with
  | nil => exact nowhere_nil _ _
  | cons c gap ih =>
      rw [List.mem_cons, not_or] at absent
      rw [nowhere_cons_iff]
      exact ⟨not_begins_of_ne (Ne.symm absent.1) _, ih absent.2⟩

end Nowhere

/-! ### Words and separators -/

section Words

variable {basename first second rest after : List Char} {c d : Char}

theorem isBlank_of_isWordChar (inWord : isWordChar c = true) : isBlank c = false := by
  rw [isWordChar, Bool.or_eq_true, decide_eq_true_eq] at inWord
  rcases inWord with alnum | rfl
  · have bounds := toNat_of_isAlphanum alnum
    simp [isBlank, blankBands, inBands]
    omega
  · decide

theorem IsSeparator.not_isWordChar (separates : IsSeparator c) : isWordChar c = false := by
  rcases separates with rfl | rfl | blank
  · decide
  · decide
  · exact Bool.eq_false_iff.mpr fun inWord => by simp [isBlank_of_isWordChar inWord] at blank

theorem IsSeparator.not_mem_primary (separates : IsSeparator c) : c ∉ primary := by
  have inWord : primary.all isWordChar = true := by decide
  intro inside
  exact absurd (List.all_eq_true.mp inWord c inside) (by simp [separates.not_isWordChar])

theorem isWord_of_isWordChar (some : basename ≠ []) (inWord : basename.all isWordChar = true) :
    IsWord basename := by
  rw [List.all_eq_true] at inWord
  refine ⟨some, fun c inside => isBlank_of_isWordChar (inWord c inside), fun c inside special => ?_⟩
  have others : specials.any isWordChar = false := by decide
  exact List.any_eq_false.mp others c special (inWord c inside)

theorem IsSeparator.takeWhile_append (separates : IsSeparator c) (first rest : List Char) :
    (first ++ c :: rest).takeWhile isWordChar = first.takeWhile isWordChar := by
  induction first with
  | nil => simp [separates.not_isWordChar]
  | cons d first ih => simp only [List.cons_append, List.takeWhile_cons, ih]

theorem IsWord.not_mem (word : IsWord basename) (special : c ∈ specials) : c ∉ basename :=
  fun inside => word.plain c inside special

/-- Two cuts of a text, each at a character that is not before the other one, are the same. -/
theorem eq_of_append_cons (same : first ++ c :: rest = second ++ d :: after) (inFirst : d ∉ first)
    (inSecond : c ∉ second) : first = second := by
  rcases List.append_eq_append_iff.mp same with ⟨middle, rfl, rest⟩ | ⟨middle, rfl, rest⟩
  · cases middle with
    | nil => exact (List.append_nil first).symm
    | cons e middle =>
        obtain ⟨rfl, _⟩ := List.cons.inj rest
        exact absurd (by simp) inSecond
  · cases middle with
    | nil => exact List.append_nil second
    | cons e middle =>
        obtain ⟨rfl, _⟩ := List.cons.inj rest
        exact absurd (by simp) inFirst

end Words

/-! ### What a pass makes of a text -/

/-- Some names begin with the basename instead of the primary name. -/
inductive Renamed (basename : List Char) : List Char → List Char → Prop
  | nil : Renamed basename [] []
  | char (c : Char) {rest rest' : List Char} (later : Renamed basename rest rest') :
      Renamed basename (c :: rest) (c :: rest')
  | name {c : Char} {rest rest' : List Char} (separates : IsSeparator c)
      (later : Renamed basename (c :: rest) (c :: rest')) :
      Renamed basename (primary ++ c :: rest) (basename ++ c :: rest')

/-- The way in which a name goes on is told apart from the basename, and no pass changes it. -/
structure IsKept (basename : List Char) (goesOn : List Char → Prop) : Prop where
  head {rest : List Char} (on : goesOn rest) : ∃ c after, rest = c :: after ∧ c ∉ basename
  back {c : Char} {after after' : List Char} (renamed : Renamed basename after after')
    (on : goesOn (c :: after')) : goesOn (c :: after)

/-- At the separator after it the basename does not begin anything. -/
theorem IsStable.nowhere_basename {basename : List Char} {goesOn : List Char → Prop} {c : Char}
    (stable : IsStable basename) (kept : IsKept basename goesOn) (separates : IsSeparator c)
    (rest : List Char) : Nowhere goesOn basename (c :: rest) := by
  rintro part some suffix ⟨_, whole, on⟩
  obtain ⟨d, after, rfl, apart⟩ := kept.head on
  have same : part = primary :=
    eq_of_append_cons whole (fun inside => apart (suffix.subset inside)) separates.not_mem_primary
  exact stable.notAfter (same ▸ suffix)

namespace Renamed

variable {basename text text' more more' gap after' : List Char} {goesOn : List Char → Prop}
  {c : Char}

theorem refl (basename text : List Char) : Renamed basename text text := by
  induction text with
  | nil => exact .nil
  | cons c rest ih => exact .char c ih

theorem append (first : Renamed basename text text') (second : Renamed basename more more') :
    Renamed basename (text ++ more) (text' ++ more') := by
  induction first with
  | nil => exact second
  | char c later ih => exact .char c ih
  | name separates later ih =>
      simp only [List.append_assoc, List.cons_append]
      exact .name separates ih

/-- The end of a primary name was there before, if a character that the basename does not have
follows. -/
theorem of_append (stable : IsStable basename) (renamed : Renamed basename text (gap ++ c :: after'))
    (within : gap <:+ primary) (apart : c ∉ basename) :
    ∃ after, text = gap ++ c :: after ∧ Renamed basename after after' := by
  have noName {d : Char} {rest gap : List Char} (separates : IsSeparator d)
      (within : gap <:+ primary) : basename ++ d :: rest ≠ gap ++ c :: after' := by
    intro whole
    have same : basename = gap := eq_of_append_cons whole apart fun inside =>
      separates.not_mem_primary (within.subset inside)
    exact stable.notWithin (same ▸ within)
  induction gap generalizing text with
  | nil =>
      generalize whole : [] ++ c :: after' = text' at renamed
      cases renamed with
      | nil => cases whole
      | char d later =>
          cases whole
          exact ⟨_, rfl, later⟩
      | name separates later => exact absurd whole.symm (noName separates within)
  | cons d gap ih =>
      generalize whole : d :: gap ++ c :: after' = text' at renamed
      cases renamed with
      | nil => cases whole
      | char e later =>
          cases whole
          obtain ⟨after, rfl, continued⟩ := ih later ((List.suffix_cons d gap).trans within)
          exact ⟨after, rfl, continued⟩
      | name separates later => exact absurd whole.symm (noName separates within)

/-- What begins after a pass began before it. -/
theorem begins (stable : IsStable basename) (kept : IsKept basename goesOn)
    (renamed : Renamed basename text text') (begun : Begins goesOn text') : Begins goesOn text := by
  obtain ⟨_, rfl, on⟩ := begun
  obtain ⟨c, after', rfl, apart⟩ := kept.head on
  obtain ⟨after, rfl, later⟩ := renamed.of_append stable (List.suffix_refl _) apart
  exact ⟨c :: after, rfl, kept.back later on⟩

/-- Where nothing began, nothing begins after a pass. -/
theorem nowhere (stable : IsStable basename) (kept : IsKept basename goesOn)
    (renamed : Renamed basename text text') (following : Renamed basename more more')
    (before : Nowhere goesOn text more) : Nowhere goesOn text' more' := by
  induction renamed with
  | nil => exact nowhere_nil _ _
  | char c later ih =>
      rw [nowhere_cons_iff] at before ⊢
      refine ⟨fun begun => before.1 ?_, ih before.2⟩
      exact (Renamed.char c (later.append following)).begins stable kept begun
  | name separates later ih =>
      rw [nowhere_append_iff] at before ⊢
      exact ⟨stable.nowhere_basename kept separates _, ih before.2⟩

/-- A pass keeps the word at the head of a text, or the basename begins within that word. -/
theorem takeWhile_eq_or (renamed : Renamed basename text text') :
    text'.takeWhile isWordChar = text.takeWhile isWordChar ∨
      basename.takeWhile isWordChar <:+ text'.takeWhile isWordChar := by
  induction renamed with
  | nil => exact .inl rfl
  | char c later ih =>
      by_cases inWord : isWordChar c = true
      · simp only [List.takeWhile_cons_of_pos inWord, List.cons.injEq, true_and]
        exact ih.imp_right fun suffix => suffix.trans (List.suffix_cons _ _)
      · simp [List.takeWhile_cons_of_neg inWord]
  | name separates later ih =>
      right
      simp [separates.takeWhile_append]

end Renamed

end NativeVariants.PackageConfig
