import NativeVariants.Proofs.Text.Numerals
import NativeVariants.Proofs.Text.Squeezing

set_option autoImplicit false

/-!
Names as they are written in keys. A normalized name is the words it consists of, joined by
underscores, and what follows one of the underscores is normalized as well (`envKey_of_split`).
-/

namespace NativeVariants
open Text

/-! ### Letters and digits -/

/-- In upper case a letter stays a letter, and changes no more. -/
theorem isAlphanum_toUpper {c : Char} (alnum : c.isAlphanum = true) :
    c.toUpper.isAlphanum = true ∧ c.toUpper.toUpper = c.toUpper := by
  have all : ∀ n < 123, (Char.ofNat n).isAlphanum = true →
      (Char.ofNat n).toUpper.isAlphanum = true ∧
        (Char.ofNat n).toUpper.toUpper = (Char.ofNat n).toUpper := by
    decide +kernel
  have here := all c.toNat (Text.toNat_of_isAlphanum alnum).2
  rw [Char.ofNat_toNat] at here
  exact here alnum

theorem moveCase_of_lt {runs : CaseRuns} {code : Nat} (above : ∀ run ∈ runs, code < run.1) :
    moveCase runs code = code := by
  induction runs with
  | nil => rfl
  | cons run rest ih =>
      obtain ⟨low, later⟩ := List.forall_mem_cons.mp above
      have before : decide (run.1 ≤ code) = false := decide_eq_false (Nat.not_le.mpr low)
      rw [moveCase, before]
      exact ih later

theorem moveCase_cons_of_lt {run : Nat × Nat × Nat × Nat} {rest : CaseRuns} {code : Nat}
    (above : ∀ other ∈ rest, code < other.1) : moveCase (run :: rest) code = moveCase [run] code := by
  rw [moveCase, moveCase, moveCase_of_lt above, moveCase]

/-- Only one run of the tables is about ASCII. -/
theorem upperChar_of_ascii {c : Char} (ascii : c.toNat < 128) :
    upperSpellings.lookup c.toNat = none ∧ upperChar c = c.toUpper := by
  have spellings : ∀ entry ∈ upperSpellings, 128 ≤ entry.1 := by decide +kernel
  have others : ∀ run ∈ upperRuns.tail, 128 ≤ run.1 := by decide +kernel
  have letters : ∀ n < 128,
      Char.ofNat (moveCase [(0x61, 0x7a, 1, 0x41)] n) = (Char.ofNat n).toUpper := by
    decide +kernel
  constructor
  · rw [List.lookup_eq_none_iff]
    intro entry listed
    have above := spellings entry listed
    exact bne_iff_ne.mpr (by omega)
  · have first : upperRuns = (0x61, 0x7a, 1, 0x41) :: upperRuns.tail := rfl
    have above : ∀ run ∈ upperRuns.tail, c.toNat < run.1 :=
      fun run listed => ascii.trans_le (others run listed)
    rw [upperChar, first, moveCase_cons_of_lt above, letters _ ascii, Char.ofNat_toNat]

theorem toList_upper_of_ascii {text : List Char} (ascii : ∀ c ∈ text, c.toNat < 128) :
    (upper (String.ofList text)).toList = text.map Char.toUpper := by
  unfold upper
  rw [String.toList_ofList, String.toList_ofList, List.map_eq_flatMap]
  refine List.flatMap_congr fun c inside => ?_
  obtain ⟨unlisted, moved⟩ := upperChar_of_ascii (ascii c inside)
  rw [unlisted, moved]

theorem lt_of_isAlphanum {c : Char} (alnum : c.isAlphanum = true) : c.toNat < 128 :=
  (toNat_of_isAlphanum alnum).2.trans (by decide)

theorem map_intercalate (f : Char → Char) (separator : List Char) (words : List (List Char)) :
    (separator.intercalate words).map f = (separator.map f).intercalate (words.map (·.map f)) := by
  induction words with
  | nil => rfl
  | cons word rest ih =>
      cases rest with
      | nil => simp
      | cons next more => simp [ih]

/-! ### Normalized names -/

def IsKeyWord (word : List Char) : Prop :=
  word ≠ [] ∧ ∀ c ∈ word, c.isAlphanum = true ∧ c.toUpper = c

def keyWords (name : String) : List (List Char) :=
  (runsOf Char.isAlphanum name.toList).map (·.map Char.toUpper)

theorem isSqueezed_runs (name : String) : IsSqueezed Char.isAlphanum '_'
    (['_'].intercalate (runsOf Char.isAlphanum name.toList)) :=
  isSqueezed_intercalate (by decide) fun _ => of_mem_runsOf

theorem toList_envKey_eq_map (name : String) : (envKey name).toList =
    (['_'].intercalate (runsOf Char.isAlphanum name.toList)).map Char.toUpper := by
  unfold envKey
  rw [trim_squeeze (by decide), toList_upper_of_ascii]
  intro c inside
  rcases (isSqueezed_runs name).spelled c inside with alnum | rfl
  · exact lt_of_isAlphanum alnum
  · decide

theorem toList_envKey (name : String) :
    (envKey name).toList = ['_'].intercalate (keyWords name) := by
  rw [toList_envKey_eq_map, keyWords, map_intercalate]
  rfl

theorem isKeyWord_of_mem {name : String} {word : List Char} (inside : word ∈ keyWords name) :
    IsKeyWord word := by
  obtain ⟨run, found, rfl⟩ := List.mem_map.mp inside
  obtain ⟨nonempty, alnum⟩ := of_mem_runsOf found
  refine ⟨fun none => nonempty (List.map_eq_nil_iff.mp none), ?_⟩
  intro c inWord
  obtain ⟨d, inRun, rfl⟩ := List.mem_map.mp inWord
  exact isAlphanum_toUpper (alnum d inRun)

theorem IsKeyWord.underscore_not_mem {word : List Char} (isWord : IsKeyWord word) : '_' ∉ word :=
  fun inside => absurd (isWord.2 '_' inside).1 (by decide)

theorem keyWords_of_words {words : List (List Char)} (areWords : ∀ word ∈ words, IsKeyWord word) :
    keyWords (String.ofList (['_'].intercalate words)) = words := by
  unfold keyWords
  rw [String.toList_ofList, runsOf_intercalate (by decide)]
  · have same : ∀ word ∈ words, word.map Char.toUpper = word := fun word inside =>
      (List.map_congr_left fun c inWord => ((areWords word inside).2 c inWord).2).trans
        (List.map_id' word)
    exact (List.map_congr_left same).trans (List.map_id' words)
  · exact fun word inside =>
      ⟨(areWords word inside).1, fun c inWord => ((areWords word inside).2 c inWord).1⟩

theorem envKey_of_words {words : List (List Char)} (areWords : ∀ word ∈ words, IsKeyWord word) :
    envKey (String.ofList (['_'].intercalate words)) = String.ofList (['_'].intercalate words) := by
  apply String.toList_injective
  rw [toList_envKey, keyWords_of_words areWords, String.toList_ofList]

theorem envKey_of_split {name : String} {first rest : List Char}
    (split : (envKey name).toList = first ++ '_' :: rest) :
    envKey (String.ofList rest) = String.ofList rest := by
  have some : keyWords name ≠ [] := by
    intro none
    rw [toList_envKey, none] at split
    cases first <;> cases split
  have apart : ∀ word ∈ keyWords name, '_' ∉ word :=
    fun word inside => (isKeyWord_of_mem inside).underscore_not_mem
  have words : keyWords name = first.splitOn '_' ++ rest.splitOn '_' := by
    rw [← List.splitOn_intercalate '_' apart some, ← toList_envKey, split]
    exact List.splitOnP_append_cons first rest (by simp)
  have joined : ['_'].intercalate (rest.splitOn '_') = rest := List.intercalate_splitOn '_'
  rw [← joined]
  apply envKey_of_words
  intro word inside
  have isWord : word ∈ keyWords name := by
    rw [words]
    exact List.mem_append_right _ inside
  exact isKeyWord_of_mem isWord

end NativeVariants
