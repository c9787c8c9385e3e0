import Mathlib.Data.List.TakeWhile
import NativeVariants.PackageConfig
import NativeVariants.Proofs.Text.Numerals

set_option autoImplicit false

/-!
The imported targets of a configuration. A text is cut at its targets in one way (`Split`), which
is the way in which it is scanned; every target is hidden behind its number (`hide_segments`), and
the numbers lead back to the targets (`restore_split`).
-/

namespace NativeVariants.PackageConfig
open Text

/-- An imported target: the lead, and a name of at least one character. -/
def IsTarget (token : List Char) : Prop :=
  ∃ name, name ≠ [] ∧ (∀ c ∈ name, isTargetChar c = true) ∧ token = targetLead ++ name

/-- The text cut at its targets: the gap before the first one, and each target with the gap after
it. A character belongs to a gap where no target begins, and a target goes on as long as it can. -/
inductive Split : List Char → List Char → List (List Char × List Char) → Prop where
  | nil : Split [] [] []
  | char {c : Char} {rest gap : List Char} {more : List (List Char × List Char)}
      (noTarget : ∀ token after, IsTarget token → c :: rest ≠ token ++ after)
      (later : Split rest gap more) : Split (c :: rest) (c :: gap) more
  | target {token rest gap : List Char} {more : List (List Char × List Char)}
      (isTarget : IsTarget token) (longest : ∀ c ∈ rest.head?, isTargetChar c = false)
      (later : Split rest gap more) : Split (token ++ rest) [] ((token, gap) :: more)

variable {text gap token rest : List Char} {more : List (List Char × List Char)}

theorem IsTarget.length_pos (isTarget : IsTarget token) : 0 < token.length := by
  obtain ⟨name, nonempty, _, rfl⟩ := isTarget
  rw [List.length_append]
  exact Nat.add_pos_right _ (List.length_pos_iff.mpr nonempty)

theorem takeWhile_append_of_head {p : Char → Bool} {body : List Char}
    (inside : ∀ c ∈ body, p c = true) (ends : ∀ c ∈ rest.head?, p c = false) :
    (body ++ rest).takeWhile p = body := by
  rw [List.takeWhile_append_of_pos inside]
  cases rest with
  | nil => exact List.append_nil body
  | cons c more => rw [List.takeWhile_cons_of_neg (by simp [ends c rfl]), List.append_nil]

theorem targetLength_of_target (isTarget : IsTarget token)
    (longest : ∀ c ∈ rest.head?, isTargetChar c = false) :
    targetLength (token ++ rest) = token.length := by
  obtain ⟨name, nonempty, inside, rfl⟩ := isTarget
  obtain ⟨n, length⟩ : ∃ n, name.length = n + 1 :=
    Nat.exists_eq_succ_of_ne_zero (mt List.length_eq_zero_iff.mp nonempty)
  have lead : targetLead.isPrefixOf (targetLead ++ name ++ rest) = true := by
    rw [List.isPrefixOf_iff_prefix, List.append_assoc]
    exact List.prefix_append _ _
  unfold targetLength
  rw [if_pos lead, List.append_assoc, List.drop_left, takeWhile_append_of_head inside longest,
    length, List.length_append, length]

/-- Either no target begins at the head of a text, or one does that cannot be any longer. -/
theorem targetLength_cases (text : List Char) :
    (targetLength text = 0 ∧ ∀ token after, IsTarget token → text ≠ token ++ after) ∨
      ∃ token rest, text = token ++ rest ∧ IsTarget token ∧
        ∀ c ∈ rest.head?, isTargetChar c = false := by
  by_cases lead : targetLead.isPrefixOf text = true
  · obtain ⟨body, rfl⟩ := List.isPrefixOf_iff_prefix.mp lead
    cases spelled : body.takeWhile isTargetChar with
    | nil =>
        left
        constructor
        · unfold targetLength
          rw [if_pos lead, List.drop_left, spelled]
          rfl
        · rintro token after ⟨name, nonempty, inside, rfl⟩ same
          rw [List.append_assoc] at same
          rw [List.append_cancel_left same, List.takeWhile_append_of_pos inside] at spelled
          exact nonempty (List.append_eq_nil_iff.mp spelled).1
    | cons c name =>
        right
        refine ⟨targetLead ++ body.takeWhile isTargetChar, body.dropWhile isTargetChar, ?_, ?_, ?_⟩
        · rw [List.append_assoc, List.takeWhile_append_dropWhile]
        · refine ⟨_, ?_, fun d inside => List.mem_takeWhile_imp inside, rfl⟩
          rw [spelled]
          exact List.cons_ne_nil c name
        · intro d starts
          have stops := List.head?_dropWhile_not isTargetChar body
          rw [Option.mem_def.mp starts] at stops
          exact stops
  · left
    constructor
    · unfold targetLength
      rw [if_neg lead]
    · rintro token after ⟨name, _, _, rfl⟩ rfl
      apply lead
      rw [List.isPrefixOf_iff_prefix, List.append_assoc]
      exact List.prefix_append _ _

theorem segments_char {c : Char}
    (noTarget : ∀ token after, IsTarget token → c :: rest ≠ token ++ after) :
    segments (c :: rest) = .char c :: segments rest := by
  rcases targetLength_cases (c :: rest) with ⟨none, _⟩ | ⟨token, after, same, isTarget, _⟩
  · rw [segments, none]
  · exact absurd same (noTarget token after isTarget)

theorem segments_target (isTarget : IsTarget token)
    (longest : ∀ c ∈ rest.head?, isTargetChar c = false) :
    segments (token ++ rest) = .target token :: segments rest := by
  have length := targetLength_of_target isTarget longest
  cases token with
  | nil =>
      obtain ⟨name, _, _, same⟩ := isTarget
      cases same
  | cons c name =>
      rw [List.cons_append, segments]
      rw [List.cons_append, List.length_cons] at length
      rw [length]
      simp

/-- Every text is cut at its targets. -/
theorem exists_split (text : List Char) : ∃ gap more, Split text gap more := by
  induction length : text.length using Nat.strongRecOn generalizing text with
  | ind n ih =>
      rcases targetLength_cases text with ⟨_, noTarget⟩ | ⟨token, rest, rfl, isTarget, longest⟩
      · cases text with
        | nil => exact ⟨[], [], .nil⟩
        | cons c rest =>
            rw [List.length_cons] at length
            obtain ⟨gap, more, later⟩ := ih rest.length (by omega) rest rfl
            exact ⟨c :: gap, more, .char noTarget later⟩
      · have shorter : rest.length < n := by
          have positive := isTarget.length_pos
          rw [List.length_append] at length
          omega
        obtain ⟨gap, more, later⟩ := ih rest.length shorter rest rfl
        exact ⟨[], (token, gap) :: more, .target isTarget longest later⟩

theorem Split.mem_text (split : Split text gap more) {c : Char}
    (inside : c ∈ gap ∨ ∃ piece ∈ more, c ∈ piece.2) : c ∈ text := by
  induction split with
  | nil => simp at inside
  | char noTarget later ih =>
      rw [List.mem_cons, or_assoc] at inside
      exact List.mem_cons.mpr (inside.imp_right ih)
  | target isTarget longest later ih =>
      refine List.mem_append_right _ (ih ?_)
      simpa using inside

theorem Split.length_le (split : Split text gap more) : more.length ≤ text.length := by
  induction split with
  | nil => exact Nat.le_refl _
  | char noTarget later ih => exact Nat.le_succ_of_le ih
  | target isTarget longest later ih =>
      have positive := isTarget.length_pos
      rw [List.length_cons, List.length_append]
      omega

theorem targets_segments (split : Split text gap more) :
    targets (segments text) = more.map (·.1) := by
  induction split with
  | nil =>
      rw [segments]
      rfl
  | char noTarget later ih =>
      rw [segments_char noTarget]
      exact ih
  | target isTarget longest later ih =>
      rw [segments_target isTarget longest, List.map_cons, ← ih]
      rfl

def marked (index : Nat) : List (List Char) → List Char
  | [] => []
  | gap :: rest => mark index ++ (gap ++ marked (index + 1) rest)

theorem hide_segments (split : Split text gap more) (index : Nat) :
    hide index (segments text) = gap ++ marked index (more.map (·.2)) := by
  induction split generalizing index with
  | nil =>
      rw [segments]
      rfl
  | char noTarget later ih =>
      rw [segments_char noTarget, hide, ih, List.cons_append]
  | target isTarget longest later ih =>
      rw [segments_target isTarget longest, hide, ih]
      rfl

/-! ### The targets put back -/

variable {names : List (List Char)} {index : Nat}

theorem markAt?_mark (index : Nat) (rest : List Char) :
    markAt? (mark index ++ rest) = some (toString index).toList := by
  have digits : ((toString index).toList ++ '\x00' :: rest).takeWhile isDecimal =
      (toString index).toList := by
    refine takeWhile_append_of_head (fun c inside => ?_) fun c isMark => ?_
    · exact isDecimal_of_isDigit (isDigit_of_mem_toString inside)
    · cases isMark
      decide
  unfold mark
  rw [List.append_assoc, List.singleton_append, List.cons_append, markAt?, digits]
  simp

theorem restore_mark (numbered : isWritable index = true) {name : List Char}
    (known : names[index]? = some name) (rest : List Char) :
    restore names (mark index ++ rest) = (restore names rest).map (name ++ ·) := by
  have isMark := markAt?_mark index rest
  unfold mark at isMark ⊢
  rw [List.append_assoc, List.singleton_append, List.cons_append] at isMark ⊢
  have passed : ((toString index).toList ++ '\x00' :: rest).drop
      ((toString index).toList.length + 1) = rest := by
    rw [← List.drop_drop, List.drop_left, List.drop_one, List.tail_cons]
  rw [restore, isMark]
  simp only [readNat?_toString numbered, known, passed]
  cases restore names rest <;> rfl

theorem restore_append (unmarked : '\x00' ∉ gap) (rest : List Char) :
    restore names (gap ++ rest) = (restore names rest).map (gap ++ ·) := by
  induction gap with
  | nil =>
      rw [List.nil_append]
      cases restore names rest <;> rfl
  | cons c gap ih =>
      rw [List.mem_cons, not_or] at unmarked
      have noMark : markAt? (c :: (gap ++ rest)) = none := by
        unfold markAt?
        split
        · rename_i same
          cases same
          exact absurd rfl unmarked.1
        · rfl
      rw [List.cons_append, restore, noMark, ih unmarked.2]
      cases restore names rest <;> rfl

theorem restore_marked (before : List (List Char)) {pieces : List (List Char × List Char)}
    (numbered : ∀ i < before.length + pieces.length, isWritable i = true)
    (unmarked : ∀ piece ∈ pieces, '\x00' ∉ piece.2) :
    restore (before ++ pieces.map (·.1)) (marked before.length (pieces.map (·.2))) =
      .ok (pieces.flatMap fun piece => piece.1 ++ piece.2) := by
  -- The targets of the pieces already passed stay in the list, so that numbers keep their meaning.
  induction pieces generalizing before with
  | nil =>
      rw [List.map_nil, List.map_nil, marked, restore]
      rfl
  | cons piece rest ih =>
      rw [List.length_cons] at numbered
      have writable : isWritable before.length = true := numbered _ (by omega)
      have count :
          (before ++ [piece.1]).length + rest.length = before.length + (rest.length + 1) := by
        rw [List.length_append, List.length_singleton]
        omega
      have later := ih (before ++ [piece.1]) (by rwa [count])
        fun other inRest => unmarked other (List.mem_cons_of_mem piece inRest)
      rw [List.append_assoc, List.length_append, List.length_singleton,
        List.singleton_append] at later
      have here : (before ++ piece.1 :: rest.map (·.1))[before.length]? = some piece.1 := by simp
      rw [List.map_cons, List.map_cons, marked, restore_mark writable here,
        restore_append (unmarked piece List.mem_cons_self), later, List.flatMap_cons]
      exact congrArg Except.ok (List.append_assoc _ _ _).symm

/-- Marks that are numbered in order become the targets again. -/
theorem restore_split (gap : List Char) (pieces : List (List Char × List Char))
    (numbered : ∀ i < pieces.length, isWritable i = true)
    (unmarked : '\x00' ∉ gap ∧ ∀ piece ∈ pieces, '\x00' ∉ piece.2) :
    restore (pieces.map (·.1)) (gap ++ marked 0 (pieces.map (·.2))) =
      .ok (gap ++ pieces.flatMap fun piece => piece.1 ++ piece.2) := by
  have later := restore_marked [] (by simpa using numbered) unmarked.2
  rw [List.nil_append, List.length_nil] at later
  rw [restore_append unmarked.1, later]
  rfl

/-- Marks whose targets are put back have numerals that can be read. -/
theorem isWritable_of_restore {gaps : List (List Char)} {restored : List Char}
    (unmarked : ∀ gap ∈ gaps, '\x00' ∉ gap)
    (ended : restore names (marked index gaps) = .ok restored) :
    ∀ i < gaps.length, isWritable ↑(index + i) = true := by
  induction gaps generalizing index restored with
  | nil =>
      intro i inside
      cases inside
  | cons gap rest ih =>
      have isMark := markAt?_mark index (gap ++ marked (index + 1) rest)
      rw [marked] at ended
      have opened := ended
      unfold mark at isMark opened
      rw [List.append_assoc, List.singleton_append, List.cons_append] at isMark opened
      rw [restore, isMark] at opened
      cases read : readNat? 10 (toString index).toList with
      | none =>
          simp only [read] at opened
          cases opened
      | some n =>
          have writable := isWritable_of_readNat? read
          obtain rfl : index = n := Option.some.inj ((readNat?_toString writable).symm.trans read)
          cases known : names[index]? with
          | none =>
              simp only [read, known] at opened
              cases opened
          | some name =>
              rw [restore_mark writable known,
                restore_append (unmarked gap List.mem_cons_self)] at ended
              cases later : restore names (marked (index + 1) rest) with
              | error fault =>
                  rw [later] at ended
                  cases ended
              | ok more =>
                  intro i inside
                  cases i with
                  | zero => exact writable
                  | succ i =>
                      have after := ih (fun other inRest =>
                        unmarked other (List.mem_cons_of_mem gap inRest)) later i
                        (Nat.lt_of_succ_lt_succ inside)
                      rwa [Nat.add_assoc, Nat.add_comm 1 i] at after

end NativeVariants.PackageConfig
