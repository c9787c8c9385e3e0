import NativeVariants.Proofs.Places

set_option autoImplicit false

/-!
Paths and their texts. The text of a path whose parts are such as a text can name is read back as
the path (`Path.ofText_display`), and every path that is made of such paths is one of them.
-/

namespace NativeVariants

namespace Path

def IsPart (part : String) : Prop := part ≠ "" ∧ part ≠ "." ∧ '/' ∉ part.toList

instance (part : String) : Decidable (IsPart part) := inferInstanceAs (Decidable (_ ∧ _))

def IsSpelled (p : Path) : Prop := ∀ part ∈ p.parts, IsPart part

instance (p : Path) : Decidable p.IsSpelled := inferInstanceAs (Decidable (∀ _ ∈ _, _))

theorem not_mem_of_mem_splitOn {c : Char} {text : List Char} {piece : List Char}
    (inside : piece ∈ text.splitOn c) : c ∉ piece := by
  induction text generalizing piece with
  | nil =>
      rw [List.splitOn_nil, List.mem_singleton] at inside
      rw [inside]
      exact List.not_mem_nil
  | cons d rest ih =>
      rw [List.splitOn_cons_eq_if_modifyHead] at inside
      split at inside
      · rcases List.mem_cons.mp inside with rfl | inRest
        · exact List.not_mem_nil
        · exact ih inRest
      · rename_i other
        obtain ⟨first, pieces, split⟩ := List.exists_cons_of_ne_nil (List.splitOn_ne_nil c rest)
        rw [split] at inside ih
        rcases List.mem_cons.mp inside with rfl | inRest
        · rw [List.mem_cons, not_or]
          refine ⟨fun same => other (by simp [same]), ih List.mem_cons_self⟩
        · exact ih (List.mem_cons_of_mem _ inRest)

theorem isSpelled_ofText (text : String) : (ofText text).IsSpelled := by
  intro part inside
  obtain ⟨isPiece, kept⟩ := List.mem_filter.mp inside
  obtain ⟨piece, inSplit, rfl⟩ := List.mem_map.mp isPiece
  rw [Bool.and_eq_true, decide_eq_true_iff, decide_eq_true_iff] at kept
  refine ⟨kept.1, kept.2, ?_⟩
  rw [String.toList_ofList]
  exact not_mem_of_mem_splitOn inSplit

theorem IsSpelled.join {p q : Path} (first : p.IsSpelled) (second : q.IsSpelled) :
    (p.join q).IsSpelled := by
  unfold Path.join
  split
  · intro part inside
    rcases List.mem_append.mp inside with inFirst | inSecond
    · exact first part inFirst
    · exact second part inSecond
  · exact second

theorem IsSpelled.child {p : Path} (spelled : p.IsSpelled) (text : String) :
    (p.child text).IsSpelled := spelled.join (isSpelled_ofText text)

/-- The parts are found again between the slashes. -/
theorem partsOf_intercalate {parts : List String} (areParts : ∀ part ∈ parts, IsPart part) :
    partsOf ("/".intercalate parts).toList = parts := by
  by_cases none : parts = []
  · rw [none]
    rfl
  · have apart : ∀ piece ∈ parts.map String.toList, '/' ∉ piece := by
      intro piece inside
      obtain ⟨part, inParts, rfl⟩ := List.mem_map.mp inside
      exact (areParts part inParts).2.2
    have pieces : ("/".intercalate parts).toList.splitOn '/' = parts.map String.toList := by
      rw [String.toList_intercalate]
      exact List.splitOn_intercalate '/' apart (by simpa using none)
    have kept : ∀ part ∈ parts, (part ≠ "" && part ≠ ".") = true := by
      intro part inside
      simp [(areParts part inside).1, (areParts part inside).2.1]
    unfold partsOf
    rw [pieces, List.map_map]
    simpa using kept

theorem partsOf_cons_slash (text : List Char) : partsOf ('/' :: text) = partsOf text := by
  unfold partsOf
  rw [List.splitOn_cons_eq_if_modifyHead, if_pos (by simp)]
  rfl

theorem takeWhile_intercalate {parts : List String} (areParts : ∀ part ∈ parts, IsPart part) :
    ("/".intercalate parts).toList.takeWhile (· = '/') = [] := by
  cases parts with
  | nil => rfl
  | cons part rest =>
      obtain ⟨named, _, noSlash⟩ := areParts part (by simp)
      have begins : ∃ tail, ("/".intercalate (part :: rest)).toList = part.toList ++ tail := by
        rw [String.toList_intercalate]
        cases rest with
        | nil => exact ⟨[], by simp⟩
        | cons next more =>
            rw [List.map_cons, List.map_cons, List.intercalate_cons_cons, List.append_assoc]
            exact ⟨_, rfl⟩
      obtain ⟨tail, begins⟩ := begins
      rw [begins]
      cases text : part.toList with
      | nil => exact absurd (String.toList_eq_nil_iff.mp text) named
      | cons c more =>
          have other : c ≠ '/' := fun same => noSlash (by simp [text, same])
          rw [List.cons_append, List.takeWhile_cons_of_neg (by simp [other])]

theorem takeWhile_cons_slash (text : List Char) :
    ('/' :: text).takeWhile (· = '/') = '/' :: text.takeWhile (· = '/') :=
  List.takeWhile_cons_of_pos (by simp)

/-- The text of a path is read back as the path. -/
theorem ofText_display {p : Path} (spelled : p.IsSpelled) : ofText p.display = p := by
  obtain ⟨anchor, parts⟩ := p
  have found := partsOf_intercalate spelled
  have noSlash := takeWhile_intercalate spelled
  cases anchor with
  | here =>
      by_cases none : parts = []
      · rw [none]
        decide
      · have shown : display ⟨.here, parts⟩ = "/".intercalate parts := by
          simp [display, PathAnchor.display, none]
        rw [shown]
        simp only [ofText, found, anchorOf, noSlash, List.length_nil]
  | root =>
      have shown : (display ⟨.root, parts⟩).toList = '/' :: ("/".intercalate parts).toList := by
        simp [display, PathAnchor.display]
      unfold ofText anchorOf
      rw [shown, partsOf_cons_slash, found, takeWhile_cons_slash, noSlash]
      rfl
  | doubleRoot =>
      have shown : (display ⟨.doubleRoot, parts⟩).toList =
          '/' :: '/' :: ("/".intercalate parts).toList := by
        simp [display, PathAnchor.display]
      unfold ofText anchorOf
      rw [shown, partsOf_cons_slash, partsOf_cons_slash, found, takeWhile_cons_slash,
        takeWhile_cons_slash, noSlash]
      rfl

/-! ### Locations -/

/-- A location whose names are parts and lead to no parent. -/
def IsProper (location : Location) : Prop := ∀ name ∈ location, IsPart name ∧ name ≠ upward

instance (location : Location) : Decidable (IsProper location) :=
  inferInstanceAs (Decidable (∀ _ ∈ _, _))

theorem IsProper.upward_not_mem {location : Location} (proper : IsProper location) :
    upward ∉ location := fun inside => (proper _ inside).2 rfl

theorem isProper_follow {start : Location} {parts : List String} (proper : IsProper start)
    (areParts : ∀ part ∈ parts, IsPart part) : IsProper (follow start parts) := by
  induction parts generalizing start with
  | nil => exact proper
  | cons part rest ih =>
      rw [follow_cons]
      apply ih
      · split
        · exact fun name inside => proper name ((List.dropLast_sublist start).subset inside)
        · rename_i other
          intro name inside
          rcases List.mem_append.mp inside with inStart | isLast
          · exact proper name inStart
          · rw [List.mem_singleton.mp isLast]
            exact ⟨areParts part (by simp), other⟩
      · exact fun other inRest => areParts other (by simp [inRest])

theorem IsSpelled.isProper_resolve {p : Path} {workingDir : Location} (spelled : p.IsSpelled)
    (proper : IsProper workingDir) : IsProper (p.resolve workingDir) := by
  apply isProper_follow _ spelled
  split
  · exact proper
  · exact fun _ inside => absurd inside List.not_mem_nil

theorem IsSpelled.absolute {p : Path} {workingDir : Location} (spelled : p.IsSpelled)
    (proper : IsProper workingDir) : (p.absolute workingDir).IsSpelled :=
  fun name inside => (spelled.isProper_resolve proper name inside).1

/-! ### Names of files -/

def IsName (name : String) : Prop := IsPart name ∧ name ≠ upward

instance (name : String) : Decidable (IsName name) := inferInstanceAs (Decidable (_ ∧ _))

variable {name other : String}

/-- Longer texts than the two dots are proper names, unless there is a slash. -/
theorem isName_of_length (long : 2 < name.length) (noSlash : '/' ∉ name.toList) : IsName name := by
  refine ⟨⟨?_, ?_, noSlash⟩, ?_⟩
  · rintro rfl
    exact absurd long (by decide)
  · rintro rfl
    exact absurd long (by decide)
  · rintro rfl
    exact absurd long (by decide)

theorem child_of_isName (isName : IsName name) (p : Path) :
    p.child name = ⟨p.anchor, p.parts ++ [name]⟩ := by
  have spelled : IsSpelled ⟨.here, [name]⟩ := by
    intro part inside
    rw [List.mem_singleton.mp inside]
    exact isName.1
  have shown : display ⟨.here, [name]⟩ = name := by
    simp [display, PathAnchor.display]
  have read := ofText_display spelled
  rw [shown] at read
  unfold child join
  rw [read, if_pos rfl]

theorem resolve_child (isName : IsName name) (p : Path) (workingDir : Location) :
    (p.child name).resolve workingDir = p.resolve workingDir ++ [name] := by
  rw [child_of_isName isName]
  unfold resolve
  rw [follow_append, follow_cons, if_neg isName.2]
  rfl

theorem name_child (isName : IsName name) (p : Path) : (p.child name).name = name := by
  rw [child_of_isName isName]
  exact List.getLastD_concat

/-! ### Names that a file can have -/

theorem isNameable_iff {p : Path} :
    p.isNameable = true ↔ ∀ part ∈ p.parts, '\x00' ∉ part.toList := by
  simp [isNameable]

theorem mem_of_mem_splitOn {text piece : List Char} {sep c : Char}
    (inside : piece ∈ text.splitOn sep) (here : c ∈ piece) : c ∈ text := by
  induction text generalizing piece with
  | nil =>
      rw [List.splitOn_nil, List.mem_singleton] at inside
      rwa [inside] at here
  | cons d rest ih =>
      rw [List.splitOn_cons_eq_if_modifyHead] at inside
      split at inside
      · rcases List.mem_cons.mp inside with rfl | inRest
        · cases here
        · exact List.mem_cons_of_mem _ (ih inRest here)
      · obtain ⟨first, pieces, split⟩ := List.exists_cons_of_ne_nil (List.splitOn_ne_nil sep rest)
        rw [split] at inside ih
        rcases List.mem_cons.mp inside with rfl | inRest
        · rcases List.mem_cons.mp here with rfl | inFirst
          · exact List.mem_cons_self
          · exact List.mem_cons_of_mem _ (ih List.mem_cons_self inFirst)
        · exact List.mem_cons_of_mem _ (ih (List.mem_cons_of_mem _ inRest) here)

theorem isNameable_ofText {text : String} (free : '\x00' ∉ text.toList) :
    (ofText text).isNameable = true := by
  rw [isNameable_iff]
  intro part inside marked
  obtain ⟨isPiece, _⟩ := List.mem_filter.mp inside
  obtain ⟨piece, inSplit, rfl⟩ := List.mem_map.mp isPiece
  rw [String.toList_ofList] at marked
  exact free (mem_of_mem_splitOn inSplit marked)

theorem isNameable_child {p : Path} {text : String} (nameable : p.isNameable = true)
    (free : '\x00' ∉ text.toList) : (p.child text).isNameable = true := by
  have below := isNameable_ofText free
  unfold child join
  split
  · rw [isNameable_iff] at nameable below ⊢
    intro part inside
    rcases List.mem_append.mp inside with inFirst | inSecond
    · exact nameable part inFirst
    · exact below part inSecond
  · exact below

theorem isNameable_parent {p : Path} (nameable : p.isNameable = true) :
    p.parent.isNameable = true := by
  rw [isNameable_iff] at nameable ⊢
  exact fun part inside => nameable part ((List.dropLast_sublist _).subset inside)

theorem not_mem_name {p : Path} (nameable : p.isNameable = true) : '\x00' ∉ p.name.toList := by
  rw [isNameable_iff] at nameable
  unfold name
  rw [List.getLastD_eq_getLast?]
  cases last : p.parts.getLast? with
  | none => simp
  | some part => exact nameable part (List.mem_of_getLast? last)

theorem isNameable_withName {p : Path} {name : String} (nameable : p.isNameable = true)
    (free : '\x00' ∉ name.toList) : (p.withName name).isNameable = true := by
  have above := isNameable_parent nameable
  rw [isNameable_iff] at above ⊢
  intro part inside
  rcases List.mem_append.mp inside with inParent | isName
  · exact above part inParent
  · rwa [List.mem_singleton.mp isName]

end Path

end NativeVariants
