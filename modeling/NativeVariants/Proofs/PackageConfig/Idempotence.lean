import NativeVariants.Proofs.PackageConfig.Passes

set_option autoImplicit false

/-!
A configuration that was renamed to a stable basename stays as it is. No module and no primary name is
left in a gap (`renameGap_renameGap`), and no target is made, so that the text is cut as before
(`rename_rename`).
-/

namespace NativeVariants.PackageConfig
open Pattern Text

variable {basename text gap rest : List Char} {c : Char}

/-! ### Modules -/

/-- A dash and a module follow, and the module is not part of a longer word. -/
def GoesOnAsModule (rest : List Char) : Prop :=
  ∃ m ∈ modules, ∃ after, rest = '-' :: after ∧ after.takeWhile isWordChar = m.toList

theorem mem_modules_iff {m : String} :
    m ∈ modules ↔ m ∈ coreModules ++ Backend.all.map (·.suffix) := by
  rw [modules, List.mem_append, List.mem_mergeSort, ← List.mem_append]

theorem isWordChar_of_mem_module {m : String} (known : m ∈ modules) :
    ∀ c ∈ m.toList, isWordChar c = true ∧ c ≠ 'g' := by
  have plain : ∀ m ∈ coreModules ++ Backend.all.map (·.suffix),
      m.toList.all (fun c => isWordChar c && c != 'g') = true := by
    decide
  simpa using plain m (mem_modules_iff.mp known)

theorem not_mem_module {m : String} (known : m ∈ modules) : 'g' ∉ '-' :: m.toList := by
  rw [List.mem_cons, not_or]
  exact ⟨by decide, fun inside => (isWordChar_of_mem_module known 'g' inside).2 rfl⟩

theorem endsWord_eq_true_iff : endsWord text = true ↔ ∀ c ∈ text.head?, isWordChar c = false := by
  cases text <;> simp [endsWord]

theorem standsAt_iff {m : String} (known : m ∈ modules) :
    ((primary ++ '-' :: m.toList).isPrefixOf text &&
        endsWord (text.drop (primary ++ '-' :: m.toList).length)) = true ↔
      ∃ after, text = primary ++ '-' :: after ∧ after.takeWhile isWordChar = m.toList := by
  simp only [Bool.and_eq_true, List.isPrefixOf_iff_prefix]
  constructor
  · rintro ⟨⟨rest, rfl⟩, ended⟩
    rw [List.drop_left, endsWord_eq_true_iff] at ended
    refine ⟨m.toList ++ rest, by simp, ?_⟩
    exact takeWhile_append_of_head (fun c inside => (isWordChar_of_mem_module known c inside).1) ended
  · rintro ⟨after, rfl, word⟩
    have shape : primary ++ '-' :: after =
        (primary ++ '-' :: m.toList) ++ after.dropWhile isWordChar := by
      rw [← word, List.append_assoc, List.cons_append, List.takeWhile_append_dropWhile]
    rw [shape, List.drop_left, endsWord_eq_true_iff]
    refine ⟨List.prefix_append _ _, fun c starts => ?_⟩
    have stops := List.head?_dropWhile_not isWordChar after
    rw [Option.mem_def.mp starts] at stops
    exact stops

theorem moduleAt?_eq_none_iff : moduleAt? text = none ↔ ¬Begins GoesOnAsModule text := by
  rw [moduleAt?_eq_find?, List.find?_eq_none]
  constructor
  · rintro none ⟨_, rfl, m, known, after, rfl, word⟩
    exact none m known ((standsAt_iff known).mpr ⟨after, rfl, word⟩)
  · intro nowhere m known stands
    obtain ⟨after, rfl, word⟩ := (standsAt_iff known).mp stands
    exact nowhere ⟨_, rfl, m, known, after, rfl, word⟩

theorem moduleAt?_eq_some_iff {m : String} :
    moduleAt? text = some m ↔ m ∈ modules ∧
      ∃ after, text = primary ++ '-' :: after ∧ after.takeWhile isWordChar = m.toList := by
  have stands_of_found {m : String} (found : moduleAt? text = some m) : m ∈ modules ∧
      ∃ after, text = primary ++ '-' :: after ∧ after.takeWhile isWordChar = m.toList := by
    rw [moduleAt?_eq_find?] at found
    have known : m ∈ modules := List.mem_of_find?_eq_some found
    have stands := List.find?_some found
    exact ⟨known, (standsAt_iff known).mp stands⟩
  refine ⟨stands_of_found, ?_⟩
  rintro ⟨known, after, rfl, word⟩
  cases found : moduleAt? (primary ++ '-' :: after) with
  | none => exact absurd ⟨_, rfl, m, known, after, rfl, word⟩ (moduleAt?_eq_none_iff.mp found)
  | some other =>
      obtain ⟨_, after', same, word'⟩ := stands_of_found found
      rw [List.append_cancel_left_eq, List.cons.injEq] at same
      rw [← same.2, word] at word'
      rw [String.toList_injective word']

theorem isKept_module (word : IsWord basename) (stable : IsStable basename) :
    IsKept basename GoesOnAsModule where
  head := by
    rintro _ ⟨m, known, after, rfl, _⟩
    exact ⟨'-', after, rfl, word.not_mem (by decide)⟩
  back := by
    rintro c after after' renamed ⟨m, known, _, same, inWord⟩
    obtain ⟨rfl, rfl⟩ := List.cons.inj same
    rcases renamed.takeWhile_eq_or with kept | suffix
    · exact ⟨m, known, after, rfl, kept ▸ inWord⟩
    · exact absurd (inWord ▸ suffix) (stable.noModule m known)

theorem eq_of_moduleAt {m : String} (found : moduleAt? (c :: rest) = some m) :
    c :: rest = primary ++ '-' :: (m.toList ++ rest.drop (primary.length + m.length)) := by
  obtain ⟨after, same⟩ := prefix_of_moduleAt found
  have length : (moduleName m).length = primary.length + m.length + 1 := by
    rw [moduleName, List.length_append, List.length_cons, String.length_toList]
    omega
  have passed : rest.drop (primary.length + m.length) = after := by
    have dropped := congrArg (List.drop (moduleName m).length) same
    rw [List.drop_left, length, List.drop_succ_cons] at dropped
    exact dropped.symm
  rw [passed, ← same, moduleName, List.append_assoc, List.cons_append]

theorem renamed_renameModules (basename text : List Char) :
    Renamed basename text (renameModules basename text) := by
  fun_induction renameModules basename text with
  | case1 => exact .nil
  | case2 c rest none ih => exact .char c ih
  | case3 c rest m found ih =>
      rw [eq_of_moduleAt found, List.append_assoc, List.cons_append]
      exact .name (.inl rfl) (.char '-' ((Renamed.refl _ m.toList).append ih))

theorem nowhere_renameModules (word : IsWord basename) (stable : IsStable basename)
    (text : List Char) : Nowhere GoesOnAsModule (renameModules basename text) [] := by
  have kept := isKept_module word stable
  fun_induction renameModules basename text with
  | case1 => exact nowhere_nil _ _
  | case2 c rest none ih =>
      rw [nowhere_cons_iff, List.append_nil]
      refine ⟨fun begun => moduleAt?_eq_none_iff.mp none ?_, ih⟩
      exact (Renamed.char c (renamed_renameModules basename rest)).begins stable kept begun
  | case3 c rest m found ih =>
      have known : m ∈ modules := (moduleAt?_eq_some_iff.mp found).1
      rw [List.append_assoc, nowhere_append_iff, nowhere_append_iff]
      refine ⟨?_, nowhere_of_not_mem (not_mem_module known) _, ih⟩
      exact stable.nowhere_basename kept (.inl rfl) _

/-- Where no module begins a text is passed over. -/
theorem renameModules_append_of_nowhere (basename : List Char)
    (nowhere : Nowhere GoesOnAsModule gap rest) :
    renameModules basename (gap ++ rest) = gap ++ renameModules basename rest := by
  induction gap with
  | nil => rfl
  | cons c gap ih =>
      rw [nowhere_cons_iff] at nowhere
      rw [List.cons_append, renameModules, moduleAt?_eq_none_iff.mpr nowhere.1]
      exact congrArg (c :: ·) (ih nowhere.2)

/-! ### The primary name -/

def EndsArgument (rest : List Char) : Prop :=
  ∃ c after, rest = c :: after ∧ (isBlank c = true ∨ c = ')')

theorem isKept_argument (word : IsWord basename) : IsKept basename EndsArgument where
  head := by
    rintro _ ⟨c, after, rfl, blank | rfl⟩
    · exact ⟨c, after, rfl, fun inside => by simp [word.solid c inside] at blank⟩
    · exact ⟨')', after, rfl, word.not_mem (by decide)⟩
  back := by
    rintro c after after' _ ⟨_, _, same, ends⟩
    obtain ⟨rfl, _⟩ := List.cons.inj same
    exact ⟨c, after, rfl, ends⟩

theorem isPrimaryAt_eq_true_iff {before? : Option Char} :
    isPrimaryAt before? text = true ↔
      (∃ b, before? = some b ∧ isBlank b = true) ∧ Begins EndsArgument text := by
  unfold isPrimaryAt
  simp only [Bool.and_eq_true, List.isPrefixOf_iff_prefix]
  constructor
  · rintro ⟨⟨blank, after, rfl⟩, ended⟩
    rw [List.drop_left] at ended
    refine ⟨?_, after, rfl, ?_⟩
    · cases before? with
      | none => cases blank
      | some b => exact ⟨b, rfl, blank⟩
    · cases after with
      | nil => cases ended
      | cons d after => exact ⟨d, after, rfl, by simpa using ended⟩
  · rintro ⟨⟨b, rfl, blank⟩, _, rfl, d, after, rfl, ended⟩
    refine ⟨⟨blank, List.prefix_append _ _⟩, ?_⟩
    rw [List.drop_left]
    simpa using ended

theorem isPrimaryAt_of_solid (solid : isBlank c = false) (text : List Char) :
    isPrimaryAt (some c) text = false := by
  simp [isPrimaryAt, solid]

/-- Where the primary name is replaced, a separator follows and stays. -/
theorem renamePrimary_of_isPrimaryAt (basename : List Char) {before? : Option Char}
    (isPrimary : isPrimaryAt before? (c :: rest) = true) :
    ∃ d after, IsSeparator d ∧ c :: rest = primary ++ d :: after ∧
      rest.drop (primary.length - 1) = d :: after ∧
      ∀ before?, renamePrimary basename before? (d :: after) =
        d :: renamePrimary basename (some d) after := by
  obtain ⟨_, _, same, d, after, rfl, ends⟩ := isPrimaryAt_eq_true_iff.mp isPrimary
  have separates : IsSeparator d := .inr ends.symm
  have other : d ≠ 'g' := fun isFirst => separates.not_mem_primary (by simp [isFirst, primary_eq])
  refine ⟨d, after, separates, same, ?_, fun before? => ?_⟩
  · have dropped := congrArg (List.drop primary.length) same
    rwa [List.drop_left] at dropped
  · rw [renamePrimary, isPrimaryAt_of_ne before? other]
    rfl

theorem renamed_renamePrimary (basename : List Char) (before? : Option Char) (text : List Char) :
    Renamed basename text (renamePrimary basename before? text) := by
  fun_induction renamePrimary basename before? text with
  | case1 => exact .nil
  | case2 before? c rest isPrimary ih =>
      obtain ⟨d, after, separates, same, passed, stays⟩ :=
        renamePrimary_of_isPrimaryAt basename isPrimary
      rw [passed, stays] at ih ⊢
      rw [same]
      exact .name separates ih
  | case3 before? c rest noPrimary ih => exact .char c ih

/-- The primary name stands nowhere as a whole argument. -/
def IsPrimaryFree : Option Char → List Char → Prop
  | _, [] => True
  | before?, c :: rest => isPrimaryAt before? (c :: rest) = false ∧ IsPrimaryFree (some c) rest

theorem IsPrimaryFree.of_solid {d : Char} (free : IsPrimaryFree (some c) text)
    (solid : isBlank d = false) : IsPrimaryFree (some d) text := by
  cases text with
  | nil => trivial
  | cons e rest => exact ⟨isPrimaryAt_of_solid solid _, free.2⟩

theorem IsPrimaryFree.append_solid {d : Char} (free : IsPrimaryFree (some c) text)
    (solid : isBlank d = false) (allSolid : ∀ e ∈ gap, isBlank e = false) :
    IsPrimaryFree (some d) (gap ++ text) := by
  induction gap generalizing d with
  | nil => exact free.of_solid solid
  | cons e gap ih =>
      refine ⟨isPrimaryAt_of_solid solid _, ih (allSolid e List.mem_cons_self) ?_⟩
      exact fun f inside => allSolid f (List.mem_cons_of_mem e inside)

theorem isPrimaryFree_renamePrimary (word : IsWord basename) (stable : IsStable basename)
    (before? : Option Char) (text : List Char) :
    IsPrimaryFree before? (renamePrimary basename before? text) := by
  have kept := isKept_argument word
  fun_induction renamePrimary basename before? text with
  | case1 => trivial
  | case2 before? c rest isPrimary ih =>
      obtain ⟨d, after, separates, _, passed, stays⟩ :=
        renamePrimary_of_isPrimaryAt basename isPrimary
      have solid := word.solid
      have notHere := stable.nowhere_basename kept separates (renamePrimary basename (some d) after)
        basename word.some (List.suffix_refl _)
      rw [← stays primary.getLast?, ← passed] at notHere
      obtain ⟨b, tail, same⟩ := List.exists_cons_of_ne_nil word.some
      generalize renamePrimary basename primary.getLast? (rest.drop (primary.length - 1)) = follows
        at ih notHere ⊢
      rw [same] at notHere solid ⊢
      refine ⟨?_, IsPrimaryFree.append_solid (c := 'l') ih (solid b List.mem_cons_self) ?_⟩
      · exact Bool.eq_false_iff.mpr fun isPrimary =>
          notHere (isPrimaryAt_eq_true_iff.mp isPrimary).2
      · exact fun e inside => solid e (List.mem_cons_of_mem _ inside)
  | case3 before? c rest noPrimary ih =>
      refine ⟨?_, ih⟩
      rw [isPrimaryAt_eq_true_iff] at noPrimary
      rw [Bool.eq_false_iff, ne_eq, isPrimaryAt_eq_true_iff]
      rintro ⟨blank, begun⟩
      have renamed := renamed_renamePrimary basename (some c) rest
      exact noPrimary ⟨blank, (Renamed.char c renamed).begins stable kept begun⟩

theorem renamePrimary_of_free {before? : Option Char} (free : IsPrimaryFree before? text) :
    renamePrimary basename before? text = text := by
  induction text generalizing before? with
  | nil => rw [renamePrimary]
  | cons c rest ih =>
      rw [renamePrimary, if_neg (by simp [free.1]), ih free.2]

theorem renameGap_renameGap (word : IsWord basename) (stable : IsStable basename)
    (gap : List Char) : renameGap basename (renameGap basename gap) = renameGap basename gap := by
  have modules : renameModules basename (renameGap basename gap) = renameGap basename gap := by
    have nowhere : Nowhere GoesOnAsModule (renameGap basename gap) [] :=
      (renamed_renamePrimary basename none _).nowhere stable (isKept_module word stable)
        (.refl basename []) (nowhere_renameModules word stable gap)
    have passed := renameModules_append_of_nowhere basename nowhere
    rwa [renameModules, List.append_nil] at passed
  calc renameGap basename (renameGap basename gap)
      = renamePrimary basename none (renameModules basename (renameGap basename gap)) := rfl
    _ = renamePrimary basename none (renameGap basename gap) := by rw [modules]
    _ = renameGap basename gap :=
      renamePrimary_of_free (isPrimaryFree_renamePrimary word stable none _)

/-! ### Targets -/

/-- Two colons and the first character of a target follow. -/
def GoesOnAsTarget (rest : List Char) : Prop :=
  ∃ c after, rest = ':' :: ':' :: c :: after ∧ isTargetChar c = true

theorem begins_target_iff :
    Begins GoesOnAsTarget text ↔ ∃ token after, IsTarget token ∧ text = token ++ after := by
  constructor
  · rintro ⟨_, rfl, c, after, rfl, inside⟩
    refine ⟨targetLead ++ [c], after, ⟨[c], List.cons_ne_nil c [], ?_, rfl⟩, ?_⟩
    · intro d only
      rwa [List.mem_singleton.mp only]
    · simp [targetLead]
  · rintro ⟨_, after, ⟨name, some, inside, rfl⟩, rfl⟩
    cases name with
    | nil => exact absurd rfl some
    | cons c name =>
        refine ⟨':' :: ':' :: c :: (name ++ after), by simp [targetLead], c, _, rfl, ?_⟩
        exact inside c List.mem_cons_self

theorem isKept_target (word : IsWord basename) (stable : IsStable basename) :
    IsKept basename GoesOnAsTarget where
  head := by
    rintro _ ⟨c, after, rfl, _⟩
    exact ⟨':', _, rfl, word.not_mem (by decide)⟩
  back := by
    rintro c after after' renamed ⟨d, rest', same, inside⟩
    obtain ⟨rfl, rfl⟩ := List.cons.inj same
    have colon : Renamed basename after ([] ++ ':' :: d :: rest') := renamed
    obtain ⟨rest, rfl, later⟩ :=
      colon.of_append stable List.nil_suffix (word.not_mem (by decide))
    generalize whole : d :: rest' = text' at later
    cases later with
    | nil => cases whole
    | char e later =>
        obtain ⟨rfl, _⟩ := List.cons.inj whole
        exact ⟨d, _, rfl, inside⟩
    | name separates later => exact ⟨'g', _, rfl, by decide⟩

theorem Renamed.stops {text' : List Char} (renamed : Renamed basename text text')
    (stops : ∀ c ∈ text.head?, isTargetChar c = false) :
    ∀ c ∈ text'.head?, isTargetChar c = false := by
  cases renamed with
  | nil => exact stops
  | char d later => exact stops
  | name separates later => exact absurd (stops 'g' rfl) (by decide)

section Split

variable {more : List (List Char × List Char)}

theorem Split.gap_eq (split : Split text gap more) :
    ∃ rest, text = gap ++ rest ∧ Nowhere GoesOnAsTarget gap rest ∧ Split rest [] more := by
  induction split with
  | nil => exact ⟨[], rfl, nowhere_nil _ _, .nil⟩
  | char noTarget later ih =>
      obtain ⟨rest, rfl, nowhere, cut⟩ := ih
      refine ⟨rest, rfl, nowhere_cons_iff.mpr ⟨?_, nowhere⟩, cut⟩
      rw [begins_target_iff]
      rintro ⟨token, after, isTarget, same⟩
      exact noTarget token after isTarget same
  | target isTarget longest later ih =>
      exact ⟨_, rfl, nowhere_nil _ _, .target isTarget longest later⟩

theorem Split.of_gap (nowhere : Nowhere GoesOnAsTarget gap rest)
    (cut : Split rest [] more) : Split (gap ++ rest) gap more := by
  induction gap with
  | nil => exact cut
  | cons c gap ih =>
      rw [nowhere_cons_iff, begins_target_iff] at nowhere
      refine .char (fun token after isTarget same => nowhere.1 ?_) (ih nowhere.2)
      exact ⟨token, after, isTarget, same⟩

def pieces (more : List (List Char × List Char)) : List Char :=
  more.flatMap fun piece => piece.1 ++ piece.2

def passPieces (pass : List Char → List Char) (more : List (List Char × List Char)) :
    List (List Char × List Char) :=
  more.map fun piece => (piece.1, pass piece.2)

theorem Split.eq_pieces (split : Split text gap more) : text = gap ++ pieces more := by
  induction split with
  | nil => rfl
  | char noTarget later ih => exact congrArg (_ :: ·) ih
  | target isTarget longest later ih =>
      rw [ih]
      simp [pieces]

variable {pass : List Char → List Char}

/-- What was cut is cut in the same places after a pass. -/
theorem Split.cut_after_pass (word : IsWord basename) (stable : IsStable basename)
    (renames : ∀ gap, Renamed basename gap (pass gap)) (cut : Split rest [] more) :
    Split (pieces (passPieces pass more)) [] (passPieces pass more) ∧
      Renamed basename rest (pieces (passPieces pass more)) := by
  induction more generalizing rest with
  | nil =>
      cases cut with
      | nil => exact ⟨.nil, .nil⟩
  | cons piece more ih =>
      cases cut with
      | target isTarget longest later =>
          rename_i token rest gap
          obtain ⟨after, rfl, nowhere, cut⟩ := later.gap_eq
          obtain ⟨cut, following⟩ := ih cut
          have renamed := (renames gap).append following
          have kept := (renames gap).nowhere stable (isKept_target word stable) following nowhere
          have shape : pieces (passPieces pass ((token, gap) :: more)) =
              token ++ (pass gap ++ pieces (passPieces pass more)) := by
            simp [pieces, passPieces]
          rw [shape]
          exact ⟨.target isTarget (renamed.stops longest) (.of_gap kept cut),
            (Renamed.refl _ token).append renamed⟩

theorem Split.after_pass (word : IsWord basename) (stable : IsStable basename)
    (renames : ∀ gap, Renamed basename gap (pass gap)) (split : Split text gap more) :
    Split (pass gap ++ pieces (passPieces pass more)) (pass gap) (passPieces pass more) := by
  obtain ⟨rest, rfl, nowhere, cut⟩ := split.gap_eq
  obtain ⟨cut, following⟩ := cut.cut_after_pass word stable renames
  exact .of_gap ((renames gap).nowhere stable (isKept_target word stable) following nowhere) cut

theorem Split.after_renameGap (word : IsWord basename) (stable : IsStable basename)
    (split : Split text gap more) :
    Split (renameGap basename gap ++ pieces (passPieces (renameGap basename) more))
      (renameGap basename gap) (passPieces (renameGap basename) more) := by
  have once := split.after_pass word stable (renamed_renameModules basename)
  have twice := once.after_pass word stable (renamed_renamePrimary basename none)
  rwa [passPieces, passPieces, List.map_map] at twice

end Split

/-! ### The whole text -/

theorem mem_renameGap (inside : c ∈ renameGap basename gap) : c ∈ gap ∨ c ∈ basename := by
  rcases mem_renamePrimary inside with inRenamed | inBasename
  · exact mem_renameModules inRenamed
  · exact .inr inBasename

section Rename

variable {text basename patched : String}

theorem exists_of_rename (unmarked : '\x00' ∉ text.toList)
    (plain : '\x00' ∉ basename.toList ∧ '\\' ∉ basename.toList)
    (renamed : rename text basename = .ok patched) :
    ∃ gap more, Split text.toList gap more ∧ (∀ i < more.length, isWritable i = true) ∧
      patched.toList = renameGap basename.toList gap ++
        pieces (passPieces (renameGap basename.toList) more) := by
  obtain ⟨gap, more, split⟩ := exists_split text.toList
  have numbered : ∀ i < more.length, isWritable i = true := by
    obtain ⟨first, later⟩ := unmarked_split split unmarked plain.1
    rw [rename_eq plain.2 split, restore_append first] at renamed
    cases ended : restore (more.map (·.1))
        (marked 0 (more.map fun piece => renameGap basename.toList piece.2)) with
    | error fault =>
        rw [ended] at renamed
        cases renamed
    | ok restored =>
        have unmarkedGaps : ∀ gap ∈ more.map fun piece => renameGap basename.toList piece.2,
            '\x00' ∉ gap := by
          intro gap inMore
          obtain ⟨piece, inPieces, rfl⟩ := List.mem_map.mp inMore
          exact later piece inPieces
        simpa using isWritable_of_restore unmarkedGaps ended
  refine ⟨gap, more, split, numbered, ?_⟩
  rw [rename_of_split split unmarked plain numbered] at renamed
  rw [← Except.ok.inj renamed, String.toList_ofList]
  simp [pieces, passPieces, List.flatMap_map]

theorem mem_of_rename (unmarked : '\x00' ∉ text.toList)
    (plain : '\x00' ∉ basename.toList ∧ '\\' ∉ basename.toList)
    (renamed : rename text basename = .ok patched) {c : Char} (inside : c ∈ patched.toList) :
    c ∈ text.toList ∨ c ∈ basename.toList := by
  obtain ⟨gap, more, split, _, same⟩ := exists_of_rename unmarked plain renamed
  rw [same] at inside
  rw [split.eq_pieces]
  simp only [pieces, passPieces, List.flatMap_map, List.mem_append, List.mem_flatMap] at inside ⊢
  rcases inside with inGap | ⟨piece, inMore, inTarget | inGap⟩
  · exact (mem_renameGap inGap).imp_left .inl
  · exact .inl (.inr ⟨piece, inMore, .inl inTarget⟩)
  · exact (mem_renameGap inGap).imp_left fun inPiece => .inr ⟨piece, inMore, .inr inPiece⟩

theorem IsWord.mark_escape_not_mem (word : IsWord basename.toList) :
    '\x00' ∉ basename.toList ∧ '\\' ∉ basename.toList :=
  ⟨word.not_mem (by decide), word.not_mem (by decide)⟩

/-- A configuration that was renamed stays as it is. -/
theorem rename_rename (unmarked : '\x00' ∉ text.toList) (word : IsWord basename.toList)
    (stable : IsStable basename.toList) (renamed : rename text basename = .ok patched) :
    rename patched basename = .ok patched := by
  have plain := word.mark_escape_not_mem
  obtain ⟨gap, more, split, numbered, same⟩ := exists_of_rename unmarked plain renamed
  have unmarkedAfter : '\x00' ∉ patched.toList := fun isMark =>
    (mem_of_rename unmarked plain renamed isMark).elim unmarked plain.1
  have splitAfter := split.after_renameGap word stable
  rw [← same] at splitAfter
  rw [rename_of_split splitAfter unmarkedAfter plain (by simpa [passPieces] using numbered)]
  rw [← String.ofList_toList (s := patched), same]
  simp [pieces, passPieces, List.flatMap_map, renameGap_renameGap word stable]

end Rename

/-! ### The registered variants -/

/-- A basename that begins with the primary name as a part of its own is stable, unless it ends with
that name too. -/
theorem isStable_of_prefix (begins : primary ++ ['_'] <+: basename)
    (ends : ¬primary <:+ basename) : IsStable basename where
  notAfter := ends
  notWithin := by
    intro within
    have short := begins.length_le.trans within.length_le
    exact absurd short (by decide)
  noModule := by
    obtain ⟨tail, rfl⟩ := begins
    rintro m known suffix
    refine (isWordChar_of_mem_module known 'g' (suffix.subset ?_)).2 rfl
    simp [primary_eq, isWordChar]

theorem isWord_registered {v : Variant} (registered : v ∈ Variant.registered) :
    IsWord v.basename.toList := by
  have words : ∀ v ∈ Variant.registered,
      v.basename.toList ≠ [] ∧ v.basename.toList.all isWordChar = true := by
    decide
  exact isWord_of_isWordChar (words v registered).1 (words v registered).2

theorem isStable_registered {v : Variant} (registered : v ∈ Variant.registered) :
    IsStable v.basename.toList := by
  have ends : ∀ v ∈ Variant.registered,
      primary ++ ['_'] <+: v.basename.toList ∧ ¬primary <:+ v.basename.toList := by
    decide
  exact isStable_of_prefix (ends v registered).1 (ends v registered).2

end NativeVariants.PackageConfig
