import Mathlib.Data.List.Find
import NativeVariants.Proofs.PackageConfig.Targets

set_option autoImplicit false

/-!
The renaming of libraries leaves imported targets alone (`rename_split`). A mark holds no library
name, and to the text on either side it is no more than the end of that text; so both passes change
each gap between marks as if it stood alone.
-/

namespace NativeVariants.Pattern

theorem pieces_of_plain {text : List Char} (plain : '\\' ∉ text) :
    pieces text = .ok (text.map .plain) := by
  induction text with
  | nil => rfl
  | cons c rest ih =>
      rw [List.mem_cons, not_or] at plain
      have other : c ≠ '\\' := Ne.symm plain.1
      rw [pieces, ih plain.2]
      · rfl
      · exact fun same _ => other same
      · exact fun _ _ same _ => other same

namespace Template

theorem ofPieces_of_plain (text : List Char) {fuel : Nat} (enough : text.length < fuel) :
    ofPieces fuel (text.map .plain) = .ok (text.map .char) := by
  induction text generalizing fuel with
  | nil =>
      cases fuel <;> rfl
  | cons c rest ih =>
      rw [List.length_cons] at enough
      obtain ⟨fuel, rfl⟩ : ∃ n, fuel = n + 1 := ⟨fuel - 1, by omega⟩
      rw [List.map_cons, ofPieces, ih (by omega)]
      rfl

/-- A template without escapes is the text itself. -/
theorem read_of_plain {text : String} (plain : '\\' ∉ text.toList) :
    read text = .ok (text.toList.map .char) := by
  unfold read
  rw [pieces_of_plain plain]
  exact ofPieces_of_plain text.toList (by simp)

theorem expand_chars (text matched : List Char) : expand (text.map .char) matched = text := by
  unfold expand
  rw [List.flatMap_map]
  exact List.flatMap_singleton' text

end Template

end NativeVariants.Pattern

namespace NativeVariants.PackageConfig
open Pattern Text

variable {c : Char} {m : String} {basename text gap rest : List Char}

/-! ### A mark ends a text -/

/-- The text is empty or begins with a mark. -/
def AtMark (rest : List Char) : Prop := ∀ c ∈ rest.head?, c = '\x00'

theorem atMark_marked (index : Nat) (gaps : List (List Char)) : AtMark (marked index gaps) := by
  cases gaps with
  | nil => exact fun c inNone => by cases inNone
  | cons gap more => exact fun c isHead => by cases isHead; rfl

def moduleName (m : String) : List Char := primary ++ '-' :: m.toList

theorem not_mem_moduleName (known : m ∈ modules) : '\x00' ∉ moduleName m := by
  have plain : ∀ m ∈ coreModules ++ Backend.all.map (·.suffix), '\x00' ∉ moduleName m := by
    decide
  apply plain m
  rw [modules, List.mem_append, List.mem_mergeSort, ← List.mem_append] at known
  exact known

theorem prefix_append_iff {name : List Char} (plain : '\x00' ∉ name) (atMark : AtMark rest) :
    name <+: gap ++ rest ↔ name <+: gap := by
  constructor
  · intro starts
    rcases List.prefix_or_prefix_of_prefix starts (List.prefix_append gap rest) with within | beyond
    · exact within
    · -- A name that went on beyond the gap would hold the mark.
      obtain ⟨further, rfl⟩ := beyond
      cases further with
      | nil => exact ⟨[], by simp⟩
      | cons c further =>
          obtain ⟨after, same⟩ := (List.prefix_append_right_inj gap).mp starts
          have isMark : c = '\x00' := atMark c (by rw [← same]; rfl)
          subst isMark
          exact absurd (by simp) plain
  · exact fun starts => starts.trans (List.prefix_append gap rest)

theorem endsWord_append (atMark : AtMark rest) (text : List Char) :
    endsWord (text ++ rest) = endsWord text := by
  cases text with
  | cons c text => rfl
  | nil =>
      cases rest with
      | nil => rfl
      | cons c rest =>
          obtain rfl := atMark c rfl
          rfl

/-- Whether a name stands at the head of a text as a whole word does not depend on what follows a
mark. -/
theorem standsAt_append {name : List Char} (plain : '\x00' ∉ name) (atMark : AtMark rest)
    (gap : List Char) :
    (name.isPrefixOf (gap ++ rest) && endsWord ((gap ++ rest).drop name.length)) =
      (name.isPrefixOf gap && endsWord (gap.drop name.length)) := by
  by_cases within : name <+: gap
  · obtain ⟨after, rfl⟩ := within
    have starts : ∀ more, name.isPrefixOf (name ++ more) = true := fun more =>
      List.isPrefixOf_iff_prefix.mpr (List.prefix_append name more)
    rw [List.append_assoc, starts, starts, List.drop_left, List.drop_left,
      endsWord_append atMark]
  · have outside : ¬name <+: gap ++ rest := fun starts =>
      within ((prefix_append_iff plain atMark).mp starts)
    rw [← List.isPrefixOf_iff_prefix, Bool.not_eq_true] at within outside
    rw [within, outside, Bool.false_and, Bool.false_and]

/-- Where no module can begin, none is found. -/
theorem moduleAt?_eq_find? (text : List Char) :
    moduleAt? text = modules.find? fun m =>
      (moduleName m).isPrefixOf text && endsWord (text.drop (moduleName m).length) := by
  unfold moduleAt?
  split
  · rfl
  · rename_i elsewhere
    refine (List.find?_eq_none.mpr fun m _ stands => elsewhere ?_).symm
    have starts := List.isPrefixOf_iff_prefix.mp (Bool.and_eq_true_iff.mp stands).1
    have lead : primary ++ ['-'] <+: moduleName m := ⟨m.toList, by simp [moduleName]⟩
    exact List.isPrefixOf_iff_prefix.mpr (lead.trans starts)

theorem moduleAt?_append (atMark : AtMark rest) (gap : List Char) :
    moduleAt? (gap ++ rest) = moduleAt? gap := by
  rw [moduleAt?_eq_find?, moduleAt?_eq_find?]
  exact List.find?_congr fun m known => standsAt_append (not_mem_moduleName known) atMark gap

theorem prefix_of_moduleAt (found : moduleAt? text = some m) : moduleName m <+: text := by
  rw [moduleAt?_eq_find?] at found
  have stands := List.find?_some found
  simp only [Bool.and_eq_true] at stands
  exact List.isPrefixOf_iff_prefix.mp stands.1

theorem renameModules_append (basename : List Char) (atMark : AtMark rest) (gap : List Char) :
    renameModules basename (gap ++ rest) =
      renameModules basename gap ++ renameModules basename rest := by
  fun_induction renameModules basename gap with
  | case1 => rfl
  | case2 c gap none ih =>
      have same := moduleAt?_append atMark (c :: gap)
      rw [none] at same
      rw [List.cons_append] at same ⊢
      rw [renameModules, same, ih, List.cons_append]
  | case3 c gap m found ih =>
      -- What is dropped for the name lies within the gap.
      have same := moduleAt?_append atMark (c :: gap)
      have long := (prefix_of_moduleAt found).length_le
      rw [found] at same
      rw [List.cons_append] at same ⊢
      have inGap : primary.length + m.length ≤ gap.length := by
        rw [moduleName, List.length_append, List.length_cons, String.length_toList,
          List.length_cons] at long
        omega
      rw [renameModules, same]
      simp only [List.drop_append_of_le_length inGap, ih, List.append_assoc]

theorem primary_eq : primary = ['g', 'g', 'm', 'l'] := rfl

theorem isPrimaryAt_of_ne (before? : Option Char) (other : c ≠ 'g') (rest : List Char) :
    isPrimaryAt before? (c :: rest) = false := by
  have differs : ('g' == c) = false := beq_false_of_ne other.symm
  have apart : primary.isPrefixOf (c :: rest) = false := by
    rw [primary_eq, List.isPrefixOf, differs, Bool.false_and]
  unfold isPrimaryAt
  rw [apart, Bool.and_false, Bool.false_and]

theorem prefix_of_isPrimaryAt {before? : Option Char}
    (isPrimary : isPrimaryAt before? text = true) : primary <+: text := by
  simp only [isPrimaryAt, Bool.and_eq_true] at isPrimary
  exact List.isPrefixOf_iff_prefix.mp isPrimary.1.2

theorem isPrimaryAt_append (before? : Option Char) (atMark : AtMark rest) (gap : List Char) :
    isPrimaryAt before? (gap ++ rest) = isPrimaryAt before? gap := by
  by_cases within : primary <+: gap
  · obtain ⟨after, rfl⟩ := within
    have starts : ∀ more, primary.isPrefixOf (primary ++ more) = true := fun more =>
      List.isPrefixOf_iff_prefix.mpr (List.prefix_append primary more)
    unfold isPrimaryAt
    rw [List.append_assoc, starts, starts, List.drop_left, List.drop_left]
    cases after with
    | cons c after => rfl
    | nil =>
        cases rest with
        | nil => rfl
        | cons c rest =>
            obtain rfl := atMark c rfl
            rfl
  · have outside : ¬primary <+: gap ++ rest := fun starts =>
      within ((prefix_append_iff (by decide) atMark).mp starts)
    rw [Bool.eq_false_of_not_eq_true (mt prefix_of_isPrimaryAt outside),
      Bool.eq_false_of_not_eq_true (mt prefix_of_isPrimaryAt within)]

theorem renamePrimary_before (replacement : List Char) (before? : Option Char)
    (atMark : AtMark rest) :
    renamePrimary replacement before? rest = renamePrimary replacement none rest := by
  cases rest with
  | nil => rw [renamePrimary, renamePrimary]
  | cons c rest =>
      obtain rfl := atMark c rfl
      have never := fun before? => isPrimaryAt_of_ne (c := '\x00') before? (by decide) rest
      rw [renamePrimary, renamePrimary, never, never]

theorem renamePrimary_append (replacement : List Char) (before? : Option Char)
    (atMark : AtMark rest) (gap : List Char) :
    renamePrimary replacement before? (gap ++ rest) =
      renamePrimary replacement before? gap ++ renamePrimary replacement none rest := by
  fun_induction renamePrimary replacement before? gap with
  | case1 before? => exact renamePrimary_before replacement before? atMark
  | case2 before? c gap isPrimary ih =>
      have same := isPrimaryAt_append before? atMark (c :: gap)
      have long := (prefix_of_isPrimaryAt isPrimary).length_le
      rw [isPrimary] at same
      rw [List.cons_append] at same ⊢
      have inGap : primary.length - 1 ≤ gap.length := by
        rw [List.length_cons] at long
        omega
      rw [renamePrimary, if_pos same, List.drop_append_of_le_length inGap, ih, List.append_assoc]
  | case3 before? c gap noPrimary ih =>
      have same := isPrimaryAt_append before? atMark (c :: gap)
      rw [← same] at noPrimary
      rw [List.cons_append] at noPrimary ⊢
      rw [renamePrimary, if_neg noPrimary, ih, List.cons_append]

/-! ### A mark is left alone -/

/-- Characters that neither begin a library name nor may stand before one. -/
def IsInert (c : Char) : Prop := c ≠ 'g' ∧ isBlank c = false

theorem moduleAt?_of_ne (other : c ≠ 'g') (rest : List Char) : moduleAt? (c :: rest) = none := by
  cases found : moduleAt? (c :: rest) with
  | none => rfl
  | some m =>
      obtain ⟨after, same⟩ := prefix_of_moduleAt found
      have begins : 'g' = c := (List.cons.inj same).1
      exact absurd begins.symm other

theorem renamePrimary_after (replacement : List Char) (notBlank : isBlank c = false)
    (rest : List Char) :
    renamePrimary replacement (some c) rest = renamePrimary replacement none rest := by
  cases rest with
  | nil => rw [renamePrimary, renamePrimary]
  | cons d rest =>
      have noPrimary : isPrimaryAt (some c) (d :: rest) = isPrimaryAt none (d :: rest) := by
        unfold isPrimaryAt
        simp only [notBlank]
      rw [renamePrimary, renamePrimary, noPrimary]

theorem isInert_of_mem_mark {index : Nat} (inside : c ∈ mark index) : IsInert c := by
  rw [mark, List.cons_append, List.mem_cons, List.mem_append, List.mem_singleton] at inside
  rcases inside with rfl | inDigits | rfl
  · exact ⟨by decide, by decide⟩
  · have bounds := isDigit_iff.mp (isDigit_of_mem_toString inDigits)
    constructor
    · rintro rfl
      exact absurd bounds (by decide)
    · simp [isBlank, blankBands, inBands]
      omega
  · exact ⟨by decide, by decide⟩

theorem renameModules_inert (inert : ∀ c ∈ gap, IsInert c) (rest : List Char) :
    renameModules basename (gap ++ rest) = gap ++ renameModules basename rest := by
  induction gap with
  | nil => rfl
  | cons c gap ih =>
      have later := ih fun d inside => inert d (List.mem_cons_of_mem c inside)
      rw [List.cons_append, renameModules, moduleAt?_of_ne (inert c List.mem_cons_self).1, later]
      rfl

theorem renamePrimary_inert {replacement : List Char} (inert : ∀ c ∈ gap, IsInert c)
    (rest : List Char) :
    renamePrimary replacement none (gap ++ rest) = gap ++ renamePrimary replacement none rest := by
  induction gap with
  | nil => rfl
  | cons c gap ih =>
      obtain ⟨other, notBlank⟩ := inert c List.mem_cons_self
      have noPrimary := isPrimaryAt_of_ne none other (gap ++ rest)
      have later := ih fun d inside => inert d (List.mem_cons_of_mem c inside)
      rw [List.cons_append, renamePrimary, noPrimary, renamePrimary_after replacement notBlank,
        later]
      rfl

/-- A pass that leaves marks alone and takes them for the end of what is before them. -/
structure KeepsMarks (pass : List Char → List Char) : Prop where
  nil : pass [] = []
  mark : ∀ index rest, pass (mark index ++ rest) = mark index ++ pass rest
  append : ∀ gap rest, AtMark rest → pass (gap ++ rest) = pass gap ++ pass rest

theorem keepsMarks_renameModules (basename : List Char) : KeepsMarks (renameModules basename) where
  nil := by rw [renameModules]
  mark _ := renameModules_inert fun _ => isInert_of_mem_mark
  append gap _ atMark := renameModules_append basename atMark gap

theorem keepsMarks_renamePrimary (replacement : List Char) :
    KeepsMarks (renamePrimary replacement none) where
  nil := by rw [renamePrimary]
  mark _ := renamePrimary_inert fun _ => isInert_of_mem_mark
  append gap _ atMark := renamePrimary_append replacement none atMark gap

theorem KeepsMarks.marked {pass : List Char → List Char} (keeps : KeepsMarks pass) (index : Nat)
    (gaps : List (List Char)) :
    pass (marked index gaps) = PackageConfig.marked index (gaps.map pass) := by
  induction gaps generalizing index with
  | nil => exact keeps.nil
  | cons gap more ih =>
      rw [PackageConfig.marked, keeps.mark, keeps.append _ _ (atMark_marked _ _), ih]
      rfl

theorem KeepsMarks.split {pass : List Char → List Char} (keeps : KeepsMarks pass) (gap : List Char)
    (index : Nat) (gaps : List (List Char)) :
    pass (gap ++ PackageConfig.marked index gaps) =
      pass gap ++ PackageConfig.marked index (gaps.map pass) := by
  rw [keeps.append _ _ (atMark_marked _ _), keeps.marked]

/-! ### No mark is made -/

theorem mem_renameModules (inside : c ∈ renameModules basename text) : c ∈ text ∨ c ∈ basename := by
  fun_induction renameModules basename text with
  | case1 => cases inside
  | case2 d rest none ih =>
      rcases List.mem_cons.mp inside with rfl | inRest
      · exact .inl List.mem_cons_self
      · exact (ih inRest).imp_left (List.mem_cons_of_mem d)
  | case3 d rest m found ih =>
      rcases List.mem_append.mp inside with inName | inRest
      · rcases List.mem_append.mp inName with inBasename | inModule
        · exact .inr inBasename
        · refine .inl ((prefix_of_moduleAt found).subset ?_)
          exact List.mem_append_right primary inModule
      · exact (ih inRest).imp_left fun inDrop => List.mem_cons_of_mem d (List.mem_of_mem_drop inDrop)

theorem mem_renamePrimary {replacement : List Char} {before? : Option Char}
    (inside : c ∈ renamePrimary replacement before? text) : c ∈ text ∨ c ∈ replacement := by
  fun_induction renamePrimary replacement before? text with
  | case1 => cases inside
  | case2 before? d rest isPrimary ih =>
      rcases List.mem_append.mp inside with inReplacement | inRest
      · exact .inr inReplacement
      · exact (ih inRest).imp_left fun inDrop => List.mem_cons_of_mem d (List.mem_of_mem_drop inDrop)
  | case3 before? d rest noPrimary ih =>
      rcases List.mem_cons.mp inside with rfl | inRest
      · exact .inl List.mem_cons_self
      · exact (ih inRest).imp_left (List.mem_cons_of_mem d)

/-- Both renaming passes over a text on its own. -/
def renameGap (basename gap : List Char) : List Char :=
  renamePrimary basename none (renameModules basename gap)

theorem not_mem_renameGap (unmarked : '\x00' ∉ gap) (plain : '\x00' ∉ basename) :
    '\x00' ∉ renameGap basename gap := by
  intro inside
  rcases mem_renamePrimary inside with inRenamed | inBasename
  · exact (mem_renameModules inRenamed).elim unmarked plain
  · exact plain inBasename

section Split

variable {text basename : String} {gap : List Char} {more : List (List Char × List Char)}

/-- The renamed text before its targets are put back. -/
theorem renamed_split (split : Split text.toList gap more) :
    renamePrimary basename.toList none
      (renameModules basename.toList (hide 0 (segments text.toList))) =
        renameGap basename.toList gap ++
          marked 0 (more.map fun piece => renameGap basename.toList piece.2) := by
  rw [hide_segments split, (keepsMarks_renameModules _).split, (keepsMarks_renamePrimary _).split,
    List.map_map, List.map_map]
  rfl

theorem unmarked_split (split : Split text.toList gap more) (unmarked : '\x00' ∉ text.toList)
    (plain : '\x00' ∉ basename.toList) :
    '\x00' ∉ renameGap basename.toList gap ∧
      ∀ piece ∈ more, '\x00' ∉ renameGap basename.toList piece.2 := by
  constructor
  · apply not_mem_renameGap _ plain
    exact fun isMark => unmarked (split.mem_text (.inl isMark))
  · intro piece inMore
    apply not_mem_renameGap _ plain
    exact fun isMark => unmarked (split.mem_text (.inr ⟨piece, inMore, isMark⟩))

theorem rename_eq (plain : '\\' ∉ basename.toList) (split : Split text.toList gap more) :
    rename text basename =
      (restore (more.map (·.1)) (renameGap basename.toList gap ++
        marked 0 (more.map fun piece => renameGap basename.toList piece.2))).map String.ofList := by
  unfold rename
  rw [Template.read_of_plain plain]
  change (restore _ _ >>= fun restored => Except.ok (String.ofList restored)) = _
  rw [Template.expand_chars, renamed_split split, targets_segments split]
  cases restore (more.map (·.1)) (renameGap basename.toList gap ++
    marked 0 (more.map fun piece => renameGap basename.toList piece.2)) <;> rfl

/-- Targets stay as they are, and gaps are renamed, as long as the targets can be numbered. -/
theorem rename_of_split (split : Split text.toList gap more) (unmarked : '\x00' ∉ text.toList)
    (plain : '\x00' ∉ basename.toList ∧ '\\' ∉ basename.toList)
    (numbered : ∀ i < more.length, isWritable i = true) :
    rename text basename = .ok (String.ofList (renameGap basename.toList gap ++
      more.flatMap fun piece => piece.1 ++ renameGap basename.toList piece.2)) := by
  obtain ⟨first, later⟩ := unmarked_split split unmarked plain.1
  have laterMapped : ∀ piece ∈ more.map fun piece =>
      (piece.1, renameGap basename.toList piece.2), '\x00' ∉ piece.2 := by
    intro piece inside
    obtain ⟨old, inMore, rfl⟩ := List.mem_map.mp inside
    exact later old inMore
  have restored := restore_split (renameGap basename.toList gap)
    (more.map fun piece => (piece.1, renameGap basename.toList piece.2))
    (by rwa [List.length_map]) ⟨first, laterMapped⟩
  simp only [List.map_map, Function.comp_def, List.flatMap_map] at restored
  rw [rename_eq plain.2 split, restored]
  rfl

end Split

/-- Targets stay as they are, and every gap between them is renamed on its own. The targets of a
text do not run out of numerals, unless the text is longer than any machine can hold. -/
theorem rename_split (text basename : String) (unmarked : '\x00' ∉ text.toList)
    (plain : '\x00' ∉ basename.toList ∧ '\\' ∉ basename.toList)
    (numbered : isWritable text.length = true) :
    (∃ gap more, Split text.toList gap more) ∧
      ∀ gap more, Split text.toList gap more →
        rename text basename = .ok (String.ofList (renameGap basename.toList gap ++
          more.flatMap fun piece => piece.1 ++ renameGap basename.toList piece.2)) := by
  refine ⟨exists_split text.toList, fun gap more split => ?_⟩
  apply rename_of_split split unmarked plain
  intro i inside
  have short := split.length_le.trans_eq String.length_toList
  exact isWritable_of_le (inside.le.trans short) numbered

/-- An imported target before a digit, and names to rename on both sides of it. -/
def smallConfig : String := "find_library(L ggml )\nadd_library(ggml::ggml-base 7 ggml-cpu)"

theorem rename_smallConfig :
    '\x00' ∉ smallConfig.toList ∧
    ('\x00' ∉ "ggml_llama".toList ∧ '\\' ∉ "ggml_llama".toList) ∧
    isWritable smallConfig.length = true ∧
    ∃ gap more, Split smallConfig.toList gap more ∧
      rename smallConfig "ggml_llama" = .ok (String.ofList (renameGap "ggml_llama".toList gap ++
        more.flatMap fun piece => piece.1 ++ renameGap "ggml_llama".toList piece.2)) := by
  have unmarked : '\x00' ∉ smallConfig.toList := by decide
  have plain : '\x00' ∉ "ggml_llama".toList ∧ '\\' ∉ "ggml_llama".toList := by decide
  have numbered : isWritable smallConfig.length = true := by decide +kernel
  obtain ⟨⟨gap, more, split⟩, renamed⟩ :=
    rename_split smallConfig "ggml_llama" unmarked plain numbered
  exact ⟨unmarked, plain, numbered, gap, more, split, renamed gap more split⟩

end NativeVariants.PackageConfig
