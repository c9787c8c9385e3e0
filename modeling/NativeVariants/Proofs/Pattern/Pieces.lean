import Mathlib.Data.List.Infix
import Mathlib.Data.List.TakeWhile
import NativeVariants.Pattern.Reader

set_option autoImplicit false

/-!
The pieces of a pattern. Those of a text that begins with whole pieces begin with these, and at the
start of a pattern there may be comments and switches (`startsWithSwitches_or_skipsComments`).
-/

namespace NativeVariants.Pattern
open Text Reader

section Cutting

variable {p : Piece} {ps : List Piece}

theorem exists_of_cons_pieces {chars : List Char}
    (read : (do return p :: (← pieces chars)) = Except.ok ps) :
    ∃ qs, pieces chars = .ok qs ∧ ps = p :: qs := by
  cases own : pieces chars with
  | error fault =>
      rw [own] at read
      cases read
  | ok qs =>
      rw [own] at read
      cases read
      exact ⟨qs, rfl, rfl⟩

theorem cons_map_append (p : Piece) (qs : List Piece) (x : Except Fault (List Piece)) :
    (do return p :: (← x.map (qs ++ ·))) = x.map (p :: qs ++ ·) := by
  cases x with
  | error fault => rfl
  | ok more => rfl

theorem pieces_append {a : List Char} (read : pieces a = .ok ps) (b : List Char) :
    pieces (a ++ b) = (pieces b).map (ps ++ ·) := by
  induction a using pieces.induct generalizing ps with
  | case1 =>
      cases read
      change pieces b = _
      cases pieces b with
      | error fault => rfl
      | ok qs => rfl
  | case2 => cases read
  | case3 c rest ih =>
      rw [pieces] at read
      obtain ⟨qs, own, rfl⟩ := exists_of_cons_pieces read
      rw [List.cons_append, List.cons_append, pieces, ih own, cons_map_append]
  | case4 c rest noEnd noEscape ih =>
      rw [pieces] at read
      · obtain ⟨qs, own, rfl⟩ := exists_of_cons_pieces read
        rw [List.cons_append, pieces, ih own, cons_map_append]
        · intro isEscape atEnd
          exact noEnd isEscape (List.append_eq_nil_iff.mp atEnd).1
        · intro d more isEscape split
          cases rest with
          | nil => exact noEnd isEscape rfl
          | cons e rest => exact noEscape e rest isEscape rfl
      · exact noEnd
      · exact noEscape

theorem head?_of_pieces {chars : List Char} {c : Char}
    (read : pieces chars = .ok (.plain c :: ps)) : chars.head? = some c := by
  unfold pieces at read
  split at read
  · cases read
  · cases read
  · obtain ⟨_, _, same⟩ := exists_of_cons_pieces read
    cases same
  · obtain ⟨_, _, same⟩ := exists_of_cons_pieces read
    cases same
    rfl

end Cutting

/-! ### References by number -/

/-- Whether the pieces begin with an escape that stands for a group by its number, and not for a
character by three octal digits, or with a condition on a group that is not named. -/
def startsReference : List Piece → Bool
  | .escaped c :: rest =>
      '1' ≤ c && c ≤ '9' &&
        !(match rest with
          | .plain d :: .plain e :: _ => isOctal c && isOctal d && isOctal e
          | _ => false)
  | .plain '(' :: .plain '?' :: .plain '(' :: rest =>
      !isName ((rest.takeWhile (· ≠ .plain ')')).flatMap pieceChars)
  | _ => false

/-- Somewhere in the pieces a group is referred to by its number. -/
def RefersByNumber (ps : List Piece) : Prop :=
  ∃ rest, rest <:+ ps ∧ startsReference rest = true

instance (ps : List Piece) : Decidable (RefersByNumber ps) :=
  decidable_of_iff (∃ rest ∈ ps.tails, startsReference rest = true) (by simp [RefersByNumber])

theorem RefersByNumber.of_suffix {ps qs : List Piece} (suffix : qs <:+ ps)
    (refers : RefersByNumber qs) : RefersByNumber ps := by
  obtain ⟨rest, inside, starts⟩ := refers
  exact ⟨rest, inside.trans suffix, starts⟩

/-! ### Switches and comments at the start -/

/-- Behind comments, the pieces begin with switches for the whole pattern. -/
inductive StartsWithSwitches : List Piece → Prop
  | switches {chars : List Char} (some : chars ≠ []) (each : ∀ c ∈ chars, isSwitch c = true)
      (rest : List Piece) :
      StartsWithSwitches
        (.plain '(' :: .plain '?' :: (chars.map Piece.plain ++ .plain ')' :: rest))
  | comment {note rest : List Piece} (open_ : .plain ')' ∉ note)
      (starts : StartsWithSwitches rest) :
      StartsWithSwitches
        (.plain '(' :: .plain '?' :: .plain '#' :: (note ++ .plain ')' :: rest))

theorem StartsWithSwitches.head? {ps : List Piece} (starts : StartsWithSwitches ps) :
    ps.head? = some (.plain '(') := by
  cases starts with
  | switches _ _ _ => rfl
  | comment _ _ => rfl

/-- The pieces are a number of comments and then the rest. -/
inductive SkipsComments : Nat → List Piece → List Piece → Prop
  | none (rest : List Piece) : SkipsComments 0 rest rest
  | comment {n : Nat} {note more rest : List Piece} (open_ : .plain ')' ∉ note)
      (skips : SkipsComments n more rest) :
      SkipsComments (n + 1)
        (.plain '(' :: .plain '?' :: .plain '#' :: (note ++ .plain ')' :: more)) rest

theorem SkipsComments.length {n : Nat} {ps rest : List Piece} (skips : SkipsComments n ps rest) :
    4 * n + rest.length ≤ ps.length := by
  induction skips with
  | none rest => simp
  | comment _ _ ih =>
      simp only [List.length_cons, List.length_append]
      omega

theorem SkipsComments.suffix {n : Nat} {ps rest : List Piece} (skips : SkipsComments n ps rest) :
    rest <:+ ps := by
  induction skips with
  | none rest => exact List.suffix_rfl
  | @comment n note more rest _ _ ih =>
      refine ih.trans ?_
      exact ⟨.plain '(' :: .plain '?' :: .plain '#' :: (note ++ [.plain ')']), by simp⟩

theorem eq_map_append_of_takeWhile {chars : List Char} {ps : List Piece}
    (taken : (ps.flatMap pieceChars).takeWhile isSwitch = chars) :
    ps = chars.map Piece.plain ++ ps.drop chars.length := by
  induction ps generalizing chars with
  | nil =>
      subst taken
      rfl
  | cons p rest ih =>
      cases p with
      | plain c =>
          simp only [List.flatMap_cons, pieceChars, List.singleton_append,
            List.takeWhile_cons] at taken
          split at taken
          · subst taken
            simpa using ih rfl
          · subst taken
            rfl
      | escaped c =>
          have noSwitch : isSwitch '\\' = false := by decide
          simp only [List.flatMap_cons, pieceChars, List.cons_append, List.takeWhile_cons,
            noSwitch] at taken
          subst taken
          rfl

theorem eq_append_of_dropWhile {p : Piece} {ps rest : List Piece} {q : Piece}
    (left : ps.dropWhile (· ≠ p) = q :: rest) :
    ∃ before, p ∉ before ∧ ps = before ++ p :: rest := by
  refine ⟨ps.takeWhile (· ≠ p), fun inside => ?_, ?_⟩
  · simpa using List.mem_takeWhile_imp inside
  · have same : q = p := by
      have stops := List.head?_dropWhile_not (· ≠ p) ps
      rw [left] at stops
      simpa using stops
    have whole := List.takeWhile_append_dropWhile (p := (· ≠ p)) (l := ps)
    rw [left, same] at whole
    exact whole.symm

theorem startsWithSwitches_or_skipsComments {fuel : Nat} {ps rest : List Piece}
    {switches : Switches} (read : leadingSwitches fuel {} ps = .ok (switches, rest)) :
    StartsWithSwitches ps ∨ switches = {} ∧ ∃ n, SkipsComments n ps rest := by
  induction fuel generalizing ps with
  | zero =>
      cases read
      exact .inr ⟨rfl, 0, .none _⟩
  | succ fuel ih =>
      unfold leadingSwitches at read
      dsimp only at read
      split at read
      · split at read
        · cases read
        · rename_i left
          obtain ⟨note, open_, rfl⟩ := eq_append_of_dropWhile left
          rcases ih read with starts | ⟨same, n, skips⟩
          · exact .inl (.comment open_ starts)
          · exact .inr ⟨same, n + 1, .comment open_ skips⟩
      · rename_i after _
        split at read
        · rename_i more left
          split at read
          · cases read
            exact .inr ⟨rfl, 0, .none _⟩
          · rename_i some
            refine .inl ?_
            have split := eq_map_append_of_takeWhile (rfl : (after.flatMap _).takeWhile _ = _)
            rw [split, left]
            refine .switches (by simpa using some) (fun c inside => ?_) more
            exact List.mem_takeWhile_imp inside
        · cases read
          exact .inr ⟨rfl, 0, .none _⟩
      · simp only [Bool.false_and, if_false, Bool.false_eq_true] at read
        cases read
        exact .inr ⟨rfl, 0, .none _⟩
      · cases read
        exact .inr ⟨rfl, 0, .none _⟩

end NativeVariants.Pattern
