import NativeVariants.Pattern.Matching

set_option autoImplicit false

/-!
Patterns whose groups come after those of another pattern. The numbers of their groups are raised,
and nothing else changes: such a pattern matches the same texts (`matchesAll_raise`).
-/

namespace NativeVariants.Pattern

/-- The number of a group behind `k` other ones. There is no group with the number zero. -/
def raiseIndex (k index : Nat) : Nat := if index = 0 then 0 else index + k

def raise (k : Nat) : Pattern → Pattern
  | .empty => .empty
  | .char c => .char c
  | .seq a b => .seq (raise k a) (raise k b)
  | .alt a b => .alt (raise k a) (raise k b)
  | .group index body => .group (raiseIndex k index) (raise k body)
  | .atomic body => .atomic (raise k body)
  | .repetition least most? mode body => .repetition least most? mode (raise k body)
  | .anchor a => .anchor a
  | .backReference index folding => .backReference (raiseIndex k index) folding
  | .lookahead negated body => .lookahead negated (raise k body)
  | .lookbehind negated width body => .lookbehind negated width (raise k body)
  | .conditional index present absent =>
      .conditional (raiseIndex k index) (raise k present) (raise k absent)

variable {k : Nat}

/-! ### Numbers -/

theorem raiseIndex_succ (k index : Nat) : raiseIndex k (index + 1) = index + 1 + k :=
  if_neg (Nat.succ_ne_zero index)

theorem raiseIndex_inj {i j : Nat} : raiseIndex k i = raiseIndex k j ↔ i = j := by
  unfold raiseIndex
  split
  · split <;> omega
  · split <;> omega

theorem raiseIndex_le (k index : Nat) : raiseIndex k index ≤ index + k := by
  unfold raiseIndex
  split <;> omega

@[simp]
theorem raiseIndex_zero (index : Nat) : raiseIndex 0 index = index := by
  unfold raiseIndex
  split
  · exact Eq.symm ‹_›
  · rfl

def raiseEntries {α : Type} (k : Nat) (entries : List (Nat × α)) : List (Nat × α) :=
  entries.map fun (index, a) => (raiseIndex k index, a)

theorem lookup_raiseEntries {α : Type} (entries : List (Nat × α)) (index : Nat) :
    (raiseEntries k entries).lookup (raiseIndex k index) = entries.lookup index := by
  induction entries with
  | nil => rfl
  | cons entry rest ih =>
      obtain ⟨own, a⟩ := entry
      have same : (raiseIndex k index == raiseIndex k own) = (index == own) := by
        rw [Bool.eq_iff_iff, beq_iff_eq, beq_iff_eq, raiseIndex_inj]
      change List.lookup _ ((raiseIndex k own, a) :: raiseEntries k rest) = _
      rw [List.lookup_cons, List.lookup_cons, same, ih]

/-! ### Widths -/

theorem width_raise {groups groups' : Nat → Width}
    (same : ∀ index, groups' (raiseIndex k index) = groups index) (p : Pattern) :
    (p.raise k).width groups' = p.width groups := by
  induction p with
  | seq a b iha ihb => simp [raise, width, iha, ihb]
  | alt a b iha ihb => simp [raise, width, iha, ihb]
  | group index body ih => simpa [raise, width] using ih
  | atomic body ih => simpa [raise, width] using ih
  | repetition least most? mode body ih => simp [raise, width, ih]
  | backReference index folding => simp [raise, width, same]
  | conditional index present absent iha ihb => simp [raise, width, iha, ihb]
  | _ => rfl

/-! ### Matches -/

def Place.raise (k : Nat) (place : Place) : Place :=
  { place with groups := raiseEntries k place.groups }

/-- The continuation does behind the other groups what `next` does without them. -/
def Follows (k : Nat) (next' next : Continuation) : Prop :=
  ∀ place : Place, next' (place.raise k) = (next place).map (Place.raise k)

namespace Follows

variable {next next' : Continuation}

theorem stop : Follows k some some := fun _ => rfl

theorem or_map {α β : Type} (f : α → β) (x y : Option α) :
    (x.map f).or (y.map f) = (x.or y).map f := by
  cases x with
  | none => rfl
  | some a => rfl

theorem repeatStep {step step' : Continuation → Continuation}
    (steps : ∀ {next next' : Continuation}, Follows k next' next →
      Follows k (step' next') (step next))
    (mode : Mode) (follows : Follows k next' next) (fuel least : Nat) (most? : Option Nat) :
    Follows k (Pattern.repeatStep step' mode next' fuel least most?)
      (Pattern.repeatStep step mode next fuel least most?) := by
  induction fuel generalizing least most? with
  | zero => exact follows
  | succ fuel ih =>
      intro place
      let fewer := most?.map (· - 1)
      have again : Follows k
          (fun after => if after.position = place.position then next' after
            else Pattern.repeatStep step' mode next' fuel 0 fewer after)
          (fun after => if after.position = place.position then next after
            else Pattern.repeatStep step mode next fuel 0 fewer after) := by
        intro after
        by_cases stays : after.position = place.position
        · simpa [Place.raise, stays] using follows after
        · simpa [Place.raise, stays] using ih 0 fewer after
      cases mode with
      | greedy =>
          simp only [Pattern.repeatStep]
          split
          · exact steps (ih (least - 1) fewer) place
          split
          · exact follows place
          · have both := congr (congrArg Option.or (steps again place)) (follows place)
            exact both.trans (or_map _ _ _)
      | lazy =>
          simp only [Pattern.repeatStep]
          split
          · exact steps (ih (least - 1) fewer) place
          split
          · exact follows place
          · have both := congr (congrArg Option.or (follows place)) (steps again place)
            exact both.trans (or_map _ _ _)
      | possessive =>
          simp only [Pattern.repeatStep]
          rw [steps Follows.stop place]
          cases step some place with
          | none =>
              split
              · rfl
              split
              · exact follows place
              · exact follows place
          | some after =>
              split
              · exact ih (least - 1) fewer after
              split
              · exact follows place
              · exact again after

theorem go (text : Array Char) (p : Pattern) (follows : Follows k next' next) :
    Follows k (Pattern.go text (p.raise k) next') (Pattern.go text p next) := by
  induction p generalizing next next' with
  | empty => exact follows
  | char c =>
      intro place
      simp only [Pattern.raise, Pattern.go, Place.raise]
      split
      · split
        · exact follows { place with position := place.position + 1 }
        · rfl
      · rfl
  | seq a b iha ihb => exact iha (ihb follows)
  | alt a b iha ihb =>
      intro place
      simp only [Pattern.raise, Pattern.go]
      rw [iha follows place, ihb follows place, or_map]
  | group index body ih =>
      intro place
      refine ih (fun after => ?_) place
      exact follows { after with
        groups := (index, place.position, after.position) :: after.groups }
  | atomic body ih =>
      intro place
      simp only [Pattern.raise, Pattern.go]
      rw [ih Follows.stop place]
      cases Pattern.go text body some place with
      | none => rfl
      | some after => exact follows after
  | repetition least most? mode body ih =>
      intro place
      exact Follows.repeatStep (fun follows => ih follows) mode follows _ least most? place
  | anchor a =>
      intro place
      simp only [Pattern.raise, Pattern.go, Place.raise]
      split
      · exact follows place
      · rfl
  | backReference index folding =>
      intro place
      simp only [Pattern.raise, Pattern.go, Place.raise, lookup_raiseEntries]
      cases place.groups.lookup index with
      | none => rfl
      | some bounds =>
          simp only
          split
          · exact follows { place with position := place.position + (bounds.2 - bounds.1) }
          · rfl
  | lookahead negated body ih =>
      intro place
      simp only [Pattern.raise, Pattern.go]
      rw [ih Follows.stop place]
      cases Pattern.go text body some place with
      | none =>
          cases negated with
          | true => exact follows place
          | false => rfl
      | some after =>
          cases negated with
          | true => rfl
          | false => exact follows { after with position := place.position }
  | lookbehind negated width body ih =>
      intro place
      simp only [Pattern.raise, Pattern.go]
      have whole : (place.raise k).position = place.position := rfl
      rw [whole]
      split
      · cases negated with
        | true => exact follows place
        | false => rfl
      · have inner := ih Follows.stop { place with position := place.position - width }
        have moved : { place with position := place.position - width }.raise k =
            { place.raise k with position := place.position - width } := rfl
        rw [← moved, inner]
        cases Pattern.go text body some { place with position := place.position - width } with
        | none =>
            cases negated with
            | true => exact follows place
            | false => rfl
        | some after =>
            cases negated with
            | true => rfl
            | false => exact follows { after with position := place.position }
  | conditional index present absent iha ihb =>
      intro place
      simp only [Pattern.raise, Pattern.go, Place.raise, lookup_raiseEntries]
      cases place.groups.lookup index with
      | none => exact ihb follows place
      | some bounds => exact iha follows place

end Follows

/-- Raising the numbers of its groups does not change what a pattern matches. -/
theorem matchesAll_raise (k : Nat) (p : Pattern) (text : String) :
    (p.raise k).matchesAll text = p.matchesAll text := by
  let whole (place : Place) : Option Place :=
    if place.position = text.toList.toArray.size then some place else none
  have atEnd : Follows k whole whole := by
    intro place
    unfold whole
    change (if place.position = _ then _ else _) = _
    split
    · rfl
    · rfl
  have matched := Follows.go text.toList.toArray p atEnd ⟨0, []⟩
  unfold matchesAll
  change (go text.toList.toArray (p.raise k) whole (Place.raise k ⟨0, []⟩)).isSome = _
  rw [matched, Option.isSome_map]

theorem matchesAll_alt (a b : Pattern) (text : String) :
    (Pattern.alt a b).matchesAll text = (a.matchesAll text || b.matchesAll text) := by
  simp [matchesAll, go]

end NativeVariants.Pattern
