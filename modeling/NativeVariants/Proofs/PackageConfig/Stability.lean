import NativeVariants.Proofs.Registry
import NativeVariants.Proofs.PackageConfig.Idempotence

set_option autoImplicit false

/-!
The basenames under which a second renaming does nothing (`rename_idempotent_iff`). A module is looked
for anywhere in a word, with no bound on its left, so that a basename which is not stable makes a new
module with what stands before it: then there is a text that grows with each renaming.
-/

namespace NativeVariants.PackageConfig
open Pattern Text

variable {text basename gap after : List Char} {m : String}

/-! ### Texts of words and dashes -/

/-- Nothing in the text is blank or means something outside of names. -/
def IsPlain (text : List Char) : Prop :=
  ∀ c ∈ text, isBlank c = false ∧ c ≠ ':' ∧ c ≠ '\x00'

theorem isPlain_nil : IsPlain [] := fun _ inside => by cases inside

theorem IsPlain.append (first : IsPlain gap) (second : IsPlain after) : IsPlain (gap ++ after) := by
  intro c inside
  exact (List.mem_append.mp inside).elim (first c) (second c)

theorem IsPlain.dash (plain : IsPlain text) : IsPlain ('-' :: text) := by
  intro c inside
  rcases List.mem_cons.mp inside with rfl | inText
  · decide
  · exact plain c inText

theorem IsWord.isPlain (word : IsWord basename) : IsPlain basename := by
  intro c inside
  refine ⟨word.solid c inside, ?_, ?_⟩
  · rintro rfl
    exact word.not_mem (by decide) inside
  · rintro rfl
    exact word.not_mem (by decide) inside

theorem isPlain_of_isWordChar (inWord : text.all isWordChar = true) : IsPlain text := by
  cases text with
  | nil => exact isPlain_nil
  | cons c rest => exact (isWord_of_isWordChar (List.cons_ne_nil c rest) inWord).isPlain

theorem IsPlain.renameModules (plain : IsPlain text) (word : IsWord basename) :
    IsPlain (renameModules basename text) := by
  intro c inside
  exact (mem_renameModules inside).elim (plain c) (word.isPlain c)

theorem IsPlain.split (plain : IsPlain text) : Split text text [] := by
  have nowhere : Nowhere GoesOnAsTarget text [] := by
    rintro part _ suffix ⟨_, same, c, rest, rfl, _⟩
    rw [List.append_nil] at same
    exact (plain ':' (suffix.subset (by simp [same]))).2.1 rfl
  have cut := Split.of_gap nowhere .nil
  rwa [List.append_nil] at cut

theorem IsPlain.renamePrimary (plain : IsPlain text) :
    renamePrimary basename none text = text := by
  apply renamePrimary_of_free
  cases text with
  | nil => trivial
  | cons c rest =>
      have free : IsPrimaryFree (some c) [] := trivial
      have solid : ∀ d ∈ rest, isBlank d = false := fun d inside =>
        (plain d (List.mem_cons_of_mem c inside)).1
      have later := free.append_solid (plain c List.mem_cons_self).1 solid
      rw [List.append_nil] at later
      exact ⟨rfl, later⟩

theorem IsPlain.rename {basename : String} (plain : IsPlain text) (word : IsWord basename.toList) :
    rename (String.ofList text) basename =
      .ok (String.ofList (PackageConfig.renameModules basename.toList text)) := by
  have split : Split (String.ofList text).toList text [] := by
    rw [String.toList_ofList]
    exact plain.split
  have unmarked : '\x00' ∉ (String.ofList text).toList := by
    rw [String.toList_ofList]
    exact fun inside => (plain _ inside).2.2 rfl
  rw [rename_of_split split unmarked word.mark_escape_not_mem (by simp), renameGap,
    (plain.renameModules word).renamePrimary]
  simp

/-! ### Texts that do not stay -/

theorem renameModules_of_moduleAt (basename : List Char) (found : moduleAt? text = some m) :
    ∃ after, text = primary ++ '-' :: (m.toList ++ after) ∧
      renameModules basename text =
        basename ++ '-' :: (m.toList ++ renameModules basename after) := by
  cases text with
  | nil =>
      obtain ⟨after, same⟩ := prefix_of_moduleAt found
      cases same
  | cons c rest =>
      refine ⟨_, eq_of_moduleAt found, ?_⟩
      simp only [renameModules, found, List.append_assoc, List.cons_append]

theorem renameModules_module (known : m ∈ modules) (word : after.takeWhile isWordChar = m.toList) :
    renameModules basename (primary ++ '-' :: after) =
      basename ++ '-' :: (m.toList ++ renameModules basename (after.dropWhile isWordChar)) := by
  have found : moduleAt? (primary ++ '-' :: after) = some m :=
    moduleAt?_eq_some_iff.mpr ⟨known, after, rfl, word⟩
  obtain ⟨rest, shape, renamed⟩ := renameModules_of_moduleAt basename found
  rw [List.append_cancel_left_eq, List.cons.injEq] at shape
  have passed : rest = after.dropWhile isWordChar := by
    have whole : m.toList ++ rest = m.toList ++ after.dropWhile isWordChar := by
      rw [← shape.2, ← word, List.takeWhile_append_dropWhile]
    exact List.append_cancel_left whole
  rw [renamed, passed]

/-- What the texts below have behind a name: the dash and the first of the core modules. -/
def baseEnd : List Char := '-' :: "base".toList

theorem isPlain_primary : IsPlain primary := isPlain_of_isWordChar (by decide)

theorem isPlain_baseEnd : IsPlain baseEnd := (isPlain_of_isWordChar (by decide)).dash

theorem renameModules_base (basename : List Char) (dashless : '-' ∉ gap) :
    renameModules basename (gap ++ (primary ++ baseEnd)) = gap ++ (basename ++ baseEnd) := by
  have nowhere : Nowhere GoesOnAsModule gap (primary ++ baseEnd) := by
    rintro part some suffix ⟨_, whole, m, _, after, rfl, _⟩
    rw [baseEnd, ← List.append_assoc] at whole
    have same : part ++ primary = primary :=
      eq_of_append_cons whole
        (by
          rw [List.mem_append, not_or]
          exact ⟨fun inside => dashless (suffix.subset inside), by decide⟩)
        (by decide)
    exact some (by simpa using same)
  have passed : "base".toList.dropWhile isWordChar = [] := by decide
  rw [renameModules_append_of_nowhere _ nowhere, baseEnd,
    renameModules_module (m := "base") (by simp [modules, coreModules]) (by decide), passed,
    renameModules, List.append_nil]

/-- A second pass over the modules of a plain text changes nothing. -/
def Stays (basename : List Char) : Prop :=
  ∀ text, IsPlain text →
    renameModules basename (renameModules basename text) = renameModules basename text

/-- With what stands before it the basename makes a primary name. -/
theorem Stays.eq_primary_of_overlap (stays : Stays basename) (before behind : List Char)
    (plain : IsPlain before) (dashless : '-' ∉ before ++ basename)
    (same : before ++ basename = behind ++ primary) : basename = primary := by
  have noDash := dashless
  rw [same] at noDash
  rw [List.mem_append, not_or] at dashless noDash
  have again := stays (before ++ (primary ++ baseEnd))
    (plain.append (isPlain_primary.append isPlain_baseEnd))
  have once := renameModules_base basename dashless.1
  have twice := renameModules_base basename noDash.1
  rw [once, ← List.append_assoc, same, List.append_assoc, twice] at again
  exact List.append_cancel_right (List.append_cancel_left again)

/-- A module that would go on with a primary name is none. -/
theorem nowhere_before_base (inWord : gap.all isWordChar = true) (absent : 'g' ∉ gap) :
    Nowhere GoesOnAsModule (primary ++ '-' :: gap) (primary ++ baseEnd) := by
  have later : 'g' ∉ ['m', 'l', '-'] ++ gap := by simp [absent]
  have shape : primary ++ '-' :: gap = 'g' :: 'g' :: (['m', 'l', '-'] ++ gap) := rfl
  rw [shape, nowhere_cons_iff, nowhere_cons_iff]
  refine ⟨?_, ?_, nowhere_of_not_mem later _⟩
  · rintro ⟨_, same, m, known, after, rfl, word⟩
    have rest : gap ++ (primary ++ baseEnd) = after := by
      simpa [primary_eq] using same
    have longer : after.takeWhile isWordChar = gap ++ primary := by
      have inPrimary : primary.all isWordChar = true := by decide
      have inBoth : (gap ++ primary).all isWordChar = true := by simp [inWord, inPrimary]
      rw [← rest, ← List.append_assoc]
      exact takeWhile_append_of_head (List.all_eq_true.mp inBoth) (by simp [baseEnd, isWordChar])
    refine (isWordChar_of_mem_module known 'g' ?_).2 rfl
    rw [← word, longer]
    exact List.mem_append_right gap (by decide)
  · rintro ⟨_, same, _⟩
    simp [primary_eq] at same

/-- With what stands before it the basename makes the name of a module. -/
theorem Stays.eq_primary_of_module (stays : Stays basename) (word : IsWord basename)
    (known : m ∈ modules) (suffix : basename.takeWhile isWordChar <:+ m.toList) :
    basename = primary := by
  obtain ⟨part, same⟩ := suffix
  have inModule : ∀ c ∈ part, isWordChar c = true ∧ c ≠ 'g' := fun c inside =>
    isWordChar_of_mem_module known c (by simp [← same, inside])
  have inPart : part.all isWordChar = true :=
    List.all_eq_true.mpr fun c inside => (inModule c inside).1
  have absent : 'g' ∉ part := fun inside => (inModule 'g' inside).2 rfl
  have plain : IsPlain (primary ++ '-' :: part ++ (primary ++ baseEnd)) :=
    (isPlain_primary.append (isPlain_of_isWordChar inPart).dash).append
      (isPlain_primary.append isPlain_baseEnd)
  have made : (part ++ (basename ++ baseEnd)).takeWhile isWordChar = m.toList := by
    have dash : IsSeparator '-' := .inl rfl
    rw [List.takeWhile_append_of_pos (List.all_eq_true.mp inPart), baseEnd,
      dash.takeWhile_append, same]
  have once : renameModules basename (primary ++ '-' :: part ++ (primary ++ baseEnd)) =
      primary ++ '-' :: (part ++ (basename ++ baseEnd)) := by
    have here := renameModules_base basename (List.not_mem_nil (a := '-'))
    rw [List.nil_append, List.nil_append] at here
    rw [renameModules_append_of_nowhere _ (nowhere_before_base inPart absent), here,
      List.append_assoc, List.cons_append]
  have again := stays _ plain
  rw [once, renameModules_module known made] at again
  exact eq_of_append_cons again (word.not_mem (by decide)) (by decide)

theorem Stays.isStable (stays : Stays basename) (word : IsWord basename)
    (other : basename ≠ primary) : IsStable basename where
  notAfter := by
    rintro ⟨behind, same⟩
    apply other
    apply stays.eq_primary_of_overlap [] behind
    · exact isPlain_nil
    · exact word.not_mem (by decide)
    · exact same.symm
  notWithin := by
    rintro ⟨before, same⟩
    apply other
    apply stays.eq_primary_of_overlap before []
    · exact fun c inside => isPlain_primary c (by simp [← same, inside])
    · rw [same]
      decide
    · exact same
  noModule m known suffix := other (stays.eq_primary_of_module word known suffix)

/-! ### Registered basenames -/

section Rename

variable {basename : String}

theorem rename_base (word : IsWord basename.toList) (plain : IsPlain gap) (dashless : '-' ∉ gap) :
    rename (String.ofList (gap ++ (primary ++ baseEnd))) basename =
      .ok (String.ofList (gap ++ (basename.toList ++ baseEnd))) := by
  rw [(plain.append (isPlain_primary.append isPlain_baseEnd)).rename word,
    renameModules_base _ dashless]

theorem stays_of_rename (word : IsWord basename.toList)
    (again : ∀ text : String, '\x00' ∉ text.toList →
      (rename text basename >>= (rename · basename)) = rename text basename) :
    Stays basename.toList := by
  intro text plain
  have unmarked : '\x00' ∉ (String.ofList text).toList := by
    rw [String.toList_ofList]
    exact fun inside => (plain _ inside).2.2 rfl
  have twice := again (String.ofList text) unmarked
  rw [plain.rename word] at twice
  change rename _ basename = _ at twice
  rw [(plain.renameModules word).rename word] at twice
  exact String.ofList_injective (Except.ok.inj twice)

theorem exists_rename (word : IsWord basename.toList) {text : String}
    (unmarked : '\x00' ∉ text.toList) (numbered : isWritable text.length = true) :
    ∃ patched, rename text basename = .ok patched := by
  obtain ⟨gap, more, split⟩ := exists_split text.toList
  refine ⟨_, rename_of_split split unmarked word.mark_escape_not_mem fun i inside => ?_⟩
  have short := split.length_le.trans_eq String.length_toList
  exact isWritable_of_le (inside.le.trans short) numbered

end Rename

/-- Renaming to the basename of an accepted registry gives a text, and renaming that text again does
nothing exactly if the basename is stable. -/
theorem rename_idempotent_iff {variants : List Variant} {v : Variant}
    (accepted : Variant.validate variants = .ok ()) (registered : v ∈ variants)
    (word : IsWord v.basename.toList) :
    (∀ text : String, '\x00' ∉ text.toList → isWritable text.length = true →
      ∃ patched, rename text v.basename = .ok patched) ∧
    ((∀ text : String, '\x00' ∉ text.toList →
      (rename text v.basename >>= (rename · v.basename)) = rename text v.basename) ↔
        IsStable v.basename.toList) := by
  refine ⟨fun text => exists_rename word, fun again => ?_, fun stable text unmarked => ?_⟩
  · apply (stays_of_rename word again).isStable word
    intro same
    have namespaced := (Variant.validate_eq_ok_iff.mp accepted).namespaced v registered
    exact namespaced (String.toList_injective same)
  · cases renamed : rename text v.basename with
    | error fault => rfl
    | ok patched => exact rename_rename unmarked word stable renamed

theorem rename_idempotent_llama :
    Variant.validate Variant.registered = .ok () ∧
    (⟨"llama", "ggml_llama"⟩ : Variant) ∈ Variant.registered ∧
    IsWord "ggml_llama".toList ∧ IsStable "ggml_llama".toList ∧
    ∀ text : String, '\x00' ∉ text.toList →
      (rename text "ggml_llama" >>= (rename · "ggml_llama")) = rename text "ggml_llama" := by
  have accepted : Variant.validate Variant.registered = .ok () := by decide
  have registered : (⟨"llama", "ggml_llama"⟩ : Variant) ∈ Variant.registered := by decide
  have word := isWord_registered registered
  have stable := isStable_registered registered
  exact ⟨accepted, registered, word, stable,
    (rename_idempotent_iff accepted registered word).2.mpr stable⟩

/-- This basename ends with the primary name, which is found again in front of the module. -/
theorem rename_twice_ofEnding :
    Variant.validate [⟨"mine", "my_ggml"⟩] = .ok () ∧ IsWord "my_ggml".toList ∧
    '\x00' ∉ "ggml-base".toList ∧
    rename "ggml-base" "my_ggml" = .ok "my_ggml-base" ∧
    rename "my_ggml-base" "my_ggml" = .ok "my_my_ggml-base" := by
  have word : IsWord "my_ggml".toList := isWord_of_isWordChar (by decide) (by decide)
  have plain : IsPlain "my_".toList := isPlain_of_isWordChar (by decide)
  have once := rename_base word isPlain_nil List.not_mem_nil
  have twice := rename_base word plain (by decide)
  have texts : String.ofList ([] ++ (primary ++ baseEnd)) = "ggml-base" ∧
      String.ofList ([] ++ ("my_ggml".toList ++ baseEnd)) = "my_ggml-base" ∧
      String.ofList ("my_".toList ++ (primary ++ baseEnd)) = "my_ggml-base" ∧
      String.ofList ("my_".toList ++ ("my_ggml".toList ++ baseEnd)) = "my_my_ggml-base" := by
    decide
  rw [texts.1, texts.2.1] at once
  rw [texts.2.2.1, texts.2.2.2] at twice
  exact ⟨by decide, word, by decide, once, twice⟩

end NativeVariants.PackageConfig
