import Mathlib
import NativeVariants.Proofs.Metadata.KeyWords
import NativeVariants.Proofs.Text.Squeezing

set_option autoImplicit false

/-!
The form of names in keys. It is that of the runs of letters and digits in upper case with single
underscores between them (`envKey_eq_uppers`), and a name in this form stays as it is
(`envKey_eq_self_iff`). Two names come to the same form exactly if they have the same words
(`envKey_eq_iff`), and a separator between two names becomes an underscore (`envKey_append`).
-/

namespace NativeVariants
open Text

def SameLetters (text other : List Char) : Prop := text.map Char.toLower = other.map Char.toLower

instance (text other : List Char) : Decidable (SameLetters text other) :=
  inferInstanceAs (Decidable (_ = _))

theorem sameLetters_iff {text other : List Char} :
    SameLetters text other ↔ text.map Char.toUpper = other.map Char.toUpper := by
  constructor
  · intro same
    have raised := congrArg (List.map Char.toUpper) same
    simpa [Function.comp_def] using raised
  · intro same
    have lowered := congrArg (List.map Char.toLower) same
    simpa [SameLetters, Function.comp_def] using lowered

/-! ### The form of keys -/

/-- Words of capitals and digits with single underscores between them, and nothing around them. -/
structure IsKeyForm (key : String) : Prop where
  squeezed : IsSqueezed Char.isAlphanum '_' key.toList
  capitals : ∀ c ∈ key.toList, c.toUpper = c

/-- The two names have the same words, in whatever letter case. -/
def SameWords (name other : String) : Prop :=
  List.Forall₂ SameLetters (runsOf Char.isAlphanum name.toList) (runsOf Char.isAlphanum other.toList)

instance (name other : String) : Decidable (SameWords name other) :=
  inferInstanceAs (Decidable (List.Forall₂ SameLetters _ _))

section Form

variable {name other : String}

theorem envKey_eq_uppers (name : String) : envKey name = "_".intercalate
    ((runsOf Char.isAlphanum name.toList).map fun run => upper (String.ofList run)) := by
  apply String.toList_injective
  rw [toList_envKey, keyWords, String.toList_intercalate, List.map_map]
  congr 1
  refine List.map_congr_left fun run found => ?_
  rw [Function.comp_apply, toList_upper_of_ascii]
  exact fun c inside => lt_of_isAlphanum ((of_mem_runsOf found).2 c inside)

theorem isKeyForm_envKey (name : String) : IsKeyForm (envKey name) where
  squeezed := by
    rw [toList_envKey]
    refine isSqueezed_intercalate (by decide) fun word inside => ?_
    have isWord := isKeyWord_of_mem inside
    exact ⟨isWord.1, fun c inWord => (isWord.2 c inWord).1⟩
  capitals c inside := by
    rw [toList_envKey_eq_map] at inside
    obtain ⟨d, _, rfl⟩ := List.mem_map.mp inside
    exact Char.toUpper_toUpper_eq_toUpper d

theorem envKey_eq_self_iff : envKey name = name ↔ IsKeyForm name := by
  constructor
  · intro same
    exact same ▸ isKeyForm_envKey name
  · intro isForm
    apply String.toList_injective
    rw [toList_envKey_eq_map, isForm.squeezed.intercalate_runsOf (by decide)]
    exact (List.map_congr_left isForm.capitals).trans (List.map_id' _)

theorem keyWords_envKey (name : String) : keyWords (envKey name) = keyWords name := by
  have areWords : ∀ word ∈ keyWords name, IsKeyWord word := fun _ => isKeyWord_of_mem
  have found := keyWords_of_words areWords
  rwa [← toList_envKey, String.ofList_toList] at found

theorem keyWords_eq_iff : keyWords name = keyWords other ↔ SameWords name other := by
  have raised : SameLetters = fun text other => text.map Char.toUpper = other.map Char.toUpper :=
    funext fun _ => funext fun _ => propext sameLetters_iff
  unfold keyWords SameWords
  rw [raised, ← List.forall₂_eq_eq_eq, List.forall₂_map_left_iff, List.forall₂_map_right_iff]

theorem envKey_eq_iff : envKey name = envKey other ↔ SameWords name other := by
  rw [← keyWords_eq_iff]
  constructor
  · intro same
    rw [← keyWords_envKey name, same, keyWords_envKey]
  · intro same
    apply String.toList_injective
    rw [toList_envKey, toList_envKey, same]

example : SameWords "llama.cpp" "--LLAMA cpp" ∧ ¬SameWords "llama.cpp" "llamacpp" := by
  decide +kernel

theorem keyWords_append {separator : Char} (outside : separator.isAlphanum = false) :
    keyWords (name ++ String.singleton separator ++ other) = keyWords name ++ keyWords other := by
  unfold keyWords
  rw [String.toList_append, String.toList_append, String.toList_singleton, List.append_assoc,
    List.singleton_append, runsOf_append_cons outside, List.map_append]

theorem keyWords_ne_nil (some : envKey name ≠ "") : keyWords name ≠ [] := by
  intro none
  apply some
  apply String.toList_injective
  rw [toList_envKey, none]
  rfl

theorem envKey_eq_intercalate (name : String) :
    envKey name = "_".intercalate ((keyWords name).map String.ofList) := by
  apply String.toList_injective
  rw [toList_envKey, String.toList_intercalate, List.map_map]
  congr 1
  exact ((List.map_congr_left fun _ _ => String.toList_ofList).trans (List.map_id _)).symm

theorem envKey_append {separator : Char} (outside : separator.isAlphanum = false)
    (first : envKey name ≠ "") (second : envKey other ≠ "") :
    envKey (name ++ String.singleton separator ++ other) = envKey name ++ "_" ++ envKey other := by
  simp only [envKey_eq_intercalate]
  rw [keyWords_append outside, List.map_append, String.intercalate_append_of_ne_nil]
  · simpa using keyWords_ne_nil first
  · simpa using keyWords_ne_nil second

end Form

/-- A key spells a name by its words: the runs of letters and digits, in upper case. -/
theorem envKey_isNormalForm (name : String) :
    HasRuns Char.isAlphanum name.toList (runsOf Char.isAlphanum name.toList) ∧
    envKey name = "_".intercalate
      ((runsOf Char.isAlphanum name.toList).map fun run => upper (String.ofList run)) ∧
    envKey name = upper (String.ofList (trim '_' (squeeze Char.isAlphanum '_' name.toList))) ∧
    IsKeyForm (envKey name) ∧
    envKey (envKey name) = envKey name ∧
    (envKey name = name ↔ IsKeyForm name) ∧
    (∀ other, envKey name = envKey other ↔ SameWords name other) ∧
    ∀ separator other, separator.isAlphanum = false → envKey name ≠ "" → envKey other ≠ "" →
      envKey (name ++ String.singleton separator ++ other) = envKey name ++ "_" ++ envKey other := by
  refine ⟨hasRuns_iff.mpr rfl, envKey_eq_uppers name, rfl,
    isKeyForm_envKey name, envKey_eq_self_iff.mpr (isKeyForm_envKey name), envKey_eq_self_iff,
    fun other => envKey_eq_iff, fun separator other outside first second => ?_⟩
  exact envKey_append outside first second

/-- A blank between names stands for an underscore, as any other separator does. -/
theorem envKey_isNormalForm_ggmlTooling :
    ' '.isAlphanum = false ∧ envKey "--ggml" ≠ "" ∧ envKey "Tööling v2." ≠ "" ∧
      envKey "--ggml Tööling v2." = "GGML_T_LING_V2" := by
  have outside : ' '.isAlphanum = false := by decide
  have first : envKey "--ggml" ≠ "" := by decide +kernel
  have second : envKey "Tööling v2." ≠ "" := by decide +kernel
  obtain ⟨_, _, _, _, _, _, _, joined⟩ := envKey_isNormalForm "--ggml"
  refine ⟨outside, first, second, (joined ' ' "Tööling v2." outside first second).trans ?_⟩
  decide +kernel

end NativeVariants
