import NativeVariants.Proofs.Pattern.Embedding

set_option autoImplicit false

/-!
Reading a pattern inside another one. Between parentheses and behind other groups, a pattern that
can be read by itself is read as the same pattern with the numbers of its groups raised, if it does
not refer to groups by their numbers. Reading fails exactly if one of its names has been taken
before (`nested`).
-/

namespace NativeVariants.Pattern
open Text Reader Surroundings

variable {α β γ δ : Type} {around : Surroundings} {goesOn : Prop} {s : State}

/-! ### The end of the text -/

theorem run_take_of_end (c : Char) (ended : s.pieces = []) : take c s = .ok (false, s) := by
  rw [run_take, ended]
  exact if_neg nofun

theorem readItems_of_end {switches : Switches} {n : Nat} {found : List Item} {p : Pattern}
    {s' : State} (ended : s.pieces = []) (read : readItems switches n found s = .ok (p, s')) :
    s' = s := by
  cases n with
  | zero => cases read
  | succ n =>
      unfold readItems at read
      obtain ⟨q, s₁, peeked, rest⟩ := bind_eq_ok_iff.mp read
      cases peeked
      rw [ended] at rest
      cases rest
      rfl

/-- What follows items: a bar and alternatives, or nothing. -/
def alternativesAfter (switches : Switches) (n : Nat) (first : Pattern) : Reader Pattern := do
  if ← take '|' then return .alt first (← readAlternatives switches n) else return first

theorem alternativesAfter_of_end {switches : Switches} {n : Nat} {first p : Pattern} {s' : State}
    (ended : s.pieces = []) (read : alternativesAfter switches n first s = .ok (p, s')) :
    s' = s := by
  unfold alternativesAfter at read
  rw [bind_of_ok (run_take_of_end '|' ended)] at read
  cases read
  rfl

theorem readAlternatives_succ (switches : Switches) (n : Nat) :
    readAlternatives switches (n + 1) =
      (do alternativesAfter switches n (← readItems switches n [])) := by
  rw [readAlternatives]
  rfl

theorem take_eq_true {c : Char} {s' : State} (read : take c s = .ok (true, s')) :
    s.pieces = .plain c :: s'.pieces := by
  rw [run_take] at read
  split at read
  · cases read
    obtain ⟨rest, split⟩ := List.head?_eq_some_iff.mp ‹_›
    simp [split]
  · cases read

theorem closing_of_end {s' : State} {u : Unit} (read : closing s = .ok (u, s')) :
    s.pieces ≠ [] := by
  intro ended
  have there := (closing_eq_ok read).1
  rw [ended] at there
  cases there

/-! ### Steps -/

/-- A part that is closed goes on, so that a comment inside it ends. -/
theorem Surroundings.Mirrors.bind_closing {goesOn' : Prop} {x : Reader α} {y : Reader β}
    {f : α → β} {g : γ → δ} {k : α → Reader γ} {k' : β → Reader δ}
    (first : around.Mirrors goesOn' s x y f)
    (rest : ∀ a s₁, s.opened ≤ s₁.opened → around.Mirrors goesOn s₁ (k a) (k' (f a)) g) :
    around.Mirrors goesOn s (do let a ← x; closing; k a) (do let b ← y; closing; k' b) g := by
  refine first.bind_of_goesOn (fun a s₁ c s' read _ _ => ?_) fun a s₁ _ grown => ?_
  · obtain ⟨_, _, closed, _⟩ := bind_eq_ok_iff.mp read
    exact closing_of_end closed
  · refine .bind mirrors_closing fun u s₂ closed => rest a s₂ ?_
    obtain ⟨_, rfl⟩ := closing_eq_ok closed
    exact grown

theorem mirrors_drop (nonempty : s.pieces ≠ []) : around.Mirrors goesOn s drop drop id := by
  refine .of_run () s.pieces.tail rfl (List.tail_suffix _) ?_
  exact congrArg (fun s => Except.ok ((), s)) (embed_tail nonempty)

theorem mirrors_pushBack {c : Char} (noOpen : c ≠ '(') :
    around.Mirrors goesOn s (modify fun s => { s with pieces := .plain c :: s.pieces })
      (modify fun s => { s with pieces := .plain c :: s.pieces }) id := by
  refine .of_sound fun sound => mirrors_putBack ?_
  refine sound.byName.imp_right fun none refers => none ?_
  obtain ⟨rest, suffix, starts⟩ := refers
  rcases List.suffix_cons_iff.mp suffix with rfl | inside
  · simp [startsReference, noOpen] at starts
  · exact ⟨rest, inside, starts⟩

theorem openGroup_eq_ok {name? : Option String} {index : Nat} {s' : State}
    (read : openGroup name? s = .ok (index, s')) : 0 < index ∧ index ≤ s'.opened := by
  cases name? with
  | none =>
      cases read
      exact ⟨Nat.succ_pos _, Nat.le_refl _⟩
  | some name =>
      rw [run_openGroup] at read
      split at read
      · cases read
      · cases read
        exact ⟨Nat.succ_pos _, Nat.le_refl _⟩

/-! ### Lookbehinds -/

def lookingBehind (x : Reader α) : Reader α := do
  let outer := (← get).lookbehind?
  modify fun s => { s with lookbehind? := some (outer.getD s.opened) }
  let a ← x
  modify fun s => { s with lookbehind? := outer }
  return a

theorem readLookbehind_succ (switches : Switches) (negated : Bool) (n : Nat) :
    readLookbehind switches negated (n + 1) = (do
      let body ← lookingBehind (readAlternatives switches n)
      closing
      let w ← currentWidth body
      if w.most? = some w.least && w.least ≤ maxRepetitions then
        return some (.lookbehind negated w.least body)
      else malformed) := by
  rw [readLookbehind]
  simp only [lookingBehind, bind_assoc, pure_bind]

def State.lookBehind (s : State) : State :=
  { s with lookbehind? := some (s.lookbehind?.getD s.opened) }

theorem run_lookingBehind (x : Reader α) (s : State) :
    lookingBehind x s =
      (x s.lookBehind).map fun (a, s₁) => (a, { s₁ with lookbehind? := s.lookbehind? }) := by
  have entered : lookingBehind x s = (do
      let a ← x
      modify fun s₁ => { s₁ with lookbehind? := s.lookbehind? }
      return a : Reader α) s.lookBehind := rfl
  cases inside : x s.lookBehind with
  | error fault => exact entered.trans (bind_of_error inside)
  | ok result => exact entered.trans (bind_of_ok inside)

theorem embed_lookBehind (s : State) :
    (around.embed s).lookBehind = around.embed s.lookBehind := by
  cases lookbehind : s.lookbehind? <;> simp [State.lookBehind, embed, lookbehind]

theorem mirrors_lookingBehind {x : Reader α} {y : Reader β} {f : α → β}
    (read : around.Mirrors goesOn s.lookBehind x y f) :
    around.Mirrors goesOn s (lookingBehind x) (lookingBehind y) f := by
  intro a s' sound own ends
  rw [run_lookingBehind] at own
  cases inside : x s.lookBehind with
  | error fault =>
      rw [inside] at own
      cases own
  | ok result =>
      rw [inside] at own
      cases own
      have one := read _ _ ⟨sound.byName, sound.closed_le⟩ inside ends
      refine ⟨one.names, one.opened, rfl, ⟨one.sound.byName, one.sound.closed_le⟩, fun apart => ?_,
        fun apart clash => ?_⟩
      · rw [run_lookingBehind, embed_lookBehind, one.ok apart]
        rfl
      · obtain ⟨fault, failed⟩ := one.clash apart clash
        exact ⟨fault, by rw [run_lookingBehind, embed_lookBehind, failed]; rfl⟩

/-! ### Whole parts -/

/-- What one more unit of fuel reads is mirrored if what is left of it reads is. -/
structure Nested (around : Surroundings) (n : Nat) : Prop where
  alternatives {m : Nat} (enough : n ≤ m) (switches : Switches) (s : State) :
    around.Mirrors (switches.verbose = true) s (readAlternatives switches n)
      (readAlternatives switches m) (raise around.opened)
  items {m : Nat} (enough : n ≤ m) (switches : Switches) (found : List Item) (s : State) :
    around.Mirrors (switches.verbose = true) s (readItems switches n found)
      (readItems switches m (found.map (Item.raise around.opened))) (raise around.opened)
  group {m : Nat} (enough : n ≤ m) (switches : Switches) {s : State}
    (byName : around.opened = 0 ∨ startsReference (.plain '(' :: s.pieces) = false) :
    around.Mirrors False s (readGroup switches n) (readGroup switches m)
      (Option.map (raise around.opened))
  lookbehind {m : Nat} (enough : n ≤ m) (switches : Switches) (negated : Bool) (s : State) :
    around.Mirrors False s (readLookbehind switches negated n) (readLookbehind switches negated m)
      (Option.map (raise around.opened))
  capturing {m : Nat} (enough : n ≤ m) (switches : Switches) (name? : Option String) (s : State) :
    around.Mirrors False s (readCapturing switches name? n) (readCapturing switches name? m)
      (Option.map (raise around.opened))

namespace Nested

theorem zero : Nested around 0 where
  alternatives _ _ _ := .malformed
  items _ _ _ _ := .malformed
  group _ _ _ _ := .malformed
  lookbehind _ _ _ _ := .malformed
  capturing _ _ _ _ := .malformed

section Steps

variable {n m : Nat} (inner : Nested around n) (enough : n ≤ m) (switches : Switches)

include inner enough

/-- There may be more fuel for the first items than for the alternatives. -/
theorem choice {m' : Nat} (enough' : n ≤ m') (s : State) :
    around.Mirrors (switches.verbose = true) s (readAlternatives switches (n + 1))
      (do alternativesAfter switches m' (← readItems switches m [])) (raise around.opened) := by
  rw [readAlternatives_succ]
  refine (inner.items enough switches [] s).bind_of_goesOn ?_ fun first s₁ _ _ => ?_
  · intro first s₁ p s' after goesOn verbose ended
    obtain rfl := alternativesAfter_of_end ended after
    exact goesOn verbose ended
  · refine .bind (mirrors_take (by decide)) fun bar s₂ _ => .ite (fun _ => ?_) fun _ => .pure rfl
    refine (inner.alternatives enough' switches s₂).bind_of_goesOn ?_ fun rest s₃ _ _ => .pure rfl
    intro rest s₃ p s' returned goesOn verbose
    cases returned
    exact goesOn verbose

theorem alternatives_succ (s : State) :
    around.Mirrors (switches.verbose = true) s (readAlternatives switches (n + 1))
      (readAlternatives switches (m + 1)) (raise around.opened) := by
  rw [readAlternatives_succ switches m]
  exact inner.choice enough switches enough s

theorem lookbehind_succ (negated : Bool) (s : State) :
    around.Mirrors False s (readLookbehind switches negated (n + 1))
      (readLookbehind switches negated (m + 1)) (Option.map (raise around.opened)) := by
  rw [readLookbehind_succ, readLookbehind_succ]
  refine (mirrors_lookingBehind (inner.alternatives enough switches _)).bind_closing
    fun body s₁ _ => ?_
  refine .bind (mirrors_currentWidth body) fun w s₂ _ => ?_
  exact .ite (fun _ => .pure rfl) fun _ => .malformed

theorem capturing_succ (name? : Option String) (s : State) :
    around.Mirrors False s (readCapturing switches name? (n + 1))
      (readCapturing switches name? (m + 1)) (Option.map (raise around.opened)) := by
  rw [readCapturing, readCapturing]
  refine .bind (mirrors_openGroup name?) fun index s₁ opened => ?_
  refine (inner.alternatives enough switches s₁).bind_closing fun body s₂ grown => ?_
  obtain ⟨positive, counted⟩ := openGroup_eq_ok opened
  have bounds : 0 < index ∧ index ≤ s₂.opened := ⟨positive, counted.trans grown⟩
  exact .bind (mirrors_closeGroup bounds body) fun _ _ _ => .pure rfl

theorem body (wrap : Pattern → Pattern) (same : ∀ p, (wrap p).raise around.opened =
    wrap (p.raise around.opened)) (s : State) :
    around.Mirrors False s
      (do
        let body ← readAlternatives switches n
        closing
        return some (wrap body))
      (do
        let body ← readAlternatives switches m
        closing
        return some (wrap body))
      (Option.map (raise around.opened)) :=
  (inner.alternatives enough switches s).bind_closing fun p _ _ =>
    .pure (congrArg some (same p))

theorem condition {s : State} (byName : around.opened = 0 ∨
      startsReference (.plain '(' :: .plain '?' :: .plain '(' :: s.pieces) = false) :
    around.Mirrors False s
      (do
        let index ← conditionGroup
        let present ← readItems switches n []
        let absent ← if ← take '|' then readItems switches n [] else pure .empty
        closing
        return some (.conditional index present absent))
      (do
        let index ← conditionGroup
        let present ← readItems switches m []
        let absent ← if ← take '|' then readItems switches m [] else pure .empty
        closing
        return some (.conditional index present absent))
      (Option.map (raise around.opened)) := by
  refine .bind (mirrors_conditionGroup byName) fun index s₁ _ => ?_
  refine (inner.items enough switches [] s₁).bind_of_goesOn ?_ fun present s₂ _ _ => ?_
  · intro present s₂ p s' read _ _ ended
    rw [bind_of_ok (run_take_of_end '|' ended)] at read
    obtain ⟨_, _, absent, rest⟩ := bind_eq_ok_iff.mp read
    cases absent
    obtain ⟨_, _, closed, _⟩ := bind_eq_ok_iff.mp rest
    exact closing_of_end closed ended
  · refine .bind (mirrors_take (by decide)) fun bar s₃ _ => .ite (fun _ => ?_) fun _ => ?_
    · exact (inner.items enough switches [] s₃).bind_closing fun absent s₄ _ => .pure rfl
    · have empty : around.Mirrors False s₃ (pure .empty) (pure .empty) (raise around.opened) :=
        .pure rfl
      exact empty.bind_closing fun absent s₄ _ => .pure rfl

/-- Behind the letter there is a name, which opens a group or refers to one. -/
theorem named (s : State) :
    around.Mirrors False s
      (do
        if ← take '<' then
          let name ← groupName
          readCapturing switches (some name) n
        else if ← take '=' then
          let name ← takeUntil ')'
          match (← get).names.lookup (String.ofList name) with
          | some index =>
              if isName name then return some (← backReferenceTo switches index) else malformed
          | none => malformed
        else malformed)
      (do
        if ← take '<' then
          let name ← groupName
          readCapturing switches (some name) m
        else if ← take '=' then
          let name ← takeUntil ')'
          match (← get).names.lookup (String.ofList name) with
          | some index =>
              if isName name then return some (← backReferenceTo switches index) else malformed
          | none => malformed
        else malformed)
      (Option.map (raise around.opened)) := by
  refine .bind (mirrors_take (by decide)) fun opens s₁ _ => .ite (fun _ => ?_) fun _ => ?_
  · exact .bind mirrors_groupName fun name s₂ _ => inner.capturing enough switches (some name) s₂
  refine .bind (mirrors_take (by decide)) fun refers s₂ _ => .ite (fun _ => ?_) fun _ => .malformed
  refine .bind (mirrors_takeUntil ')') fun name s₃ _ => .get_bind ?_
  dsimp only [id]
  rw [lookup_names]
  cases s₃.names.lookup (String.ofList name) with
  | none => exact .malformed
  | some index =>
      refine .ite (fun _ => ?_) fun _ => .malformed
      exact .bind (mirrors_backReferenceTo switches index) fun _ _ _ => .pure rfl

theorem group_succ {s : State}
    (byName : around.opened = 0 ∨ startsReference (.plain '(' :: s.pieces) = false) :
    around.Mirrors False s (readGroup switches (n + 1)) (readGroup switches (m + 1))
      (Option.map (raise around.opened)) := by
  rw [readGroup, readGroup]
  refine .bind (mirrors_take (by decide)) fun marked s₁ taken => .ite (fun isMarked => ?_) fun _ =>
    inner.capturing enough switches none s₁
  refine .bind mirrors_next fun p s₂ nexted => ?_
  rcases p with c | c
  · refine .ite (fun _ => inner.named enough switches s₂) fun _ => ?_
    refine .ite (fun _ => inner.body enough switches id (fun _ => rfl) s₂) fun _ => ?_
    refine .ite (fun _ => .bind mirrors_dropComment fun _ _ _ => .pure rfl) fun _ => ?_
    refine .ite (fun _ => inner.body enough switches (.lookahead (c = '!')) (fun _ => rfl) s₂)
      fun _ => ?_
    refine .ite (fun _ => ?_) fun _ => ?_
    · refine .bind (mirrors_take (by decide)) fun _ s₃ _ => .ite (fun _ => ?_) fun _ => ?_
      · exact inner.lookbehind enough switches false s₃
      refine .bind (mirrors_take (by decide)) fun _ s₄ _ => .ite (fun _ => ?_) fun _ => .malformed
      exact inner.lookbehind enough switches true s₄
    refine .ite (fun isOpen => inner.condition enough switches ?_) fun noOpen => ?_
    · have split : s.pieces = .plain '?' :: .plain '(' :: s₂.pieces := by
        rw [take_eq_true (isMarked ▸ taken), (next_eq_ok nexted).1, isOpen]
      exact split ▸ byName
    refine .ite (fun _ => inner.body enough switches .atomic (fun _ => rfl) s₂) fun _ => ?_
    refine .ite (fun _ => ?_) fun _ => .malformed
    refine .bind (mirrors_pushBack noOpen) fun _ s₃ _ => ?_
    refine .bind (mirrors_groupSwitches switches) fun changed s₄ _ => ?_
    exact inner.body enough changed id (fun _ => rfl) s₄
  · exact .malformed

theorem add (found : List Item) (item : Item) (s : State) :
    around.Mirrors (switches.verbose = true) s (readItems switches n (found ++ [item]))
      (readItems switches m (found.map (Item.raise around.opened) ++ [item.raise around.opened]))
      (raise around.opened) := by
  simpa using inner.items enough switches (found ++ [item]) s

theorem repeated {c : Char} (found : List Item) (s : State) :
    around.Mirrors (switches.verbose = true) s
      (do
        match ← repetitionBounds? c with
        | none => readItems switches n (found ++ [⟨single switches c.toNat, .other⟩])
        | some (least, most?) => readItems switches n (← repeatLast found least most?))
      (do
        match ← repetitionBounds? c with
        | none =>
            readItems switches m
              (found.map (Item.raise around.opened) ++ [⟨single switches c.toNat, .other⟩])
        | some (least, most?) =>
            readItems switches m
              (← repeatLast (found.map (Item.raise around.opened)) least most?))
      (raise around.opened) := by
  refine .bind (mirrors_repetitionBounds? c) fun bounds s₁ _ => ?_
  cases bounds with
  | none => exact inner.add enough switches found _ s₁
  | some bounds =>
      refine .bind (mirrors_repeatLast found bounds.1 bounds.2) fun repeated s₂ _ => ?_
      exact inner.items enough switches repeated s₂

theorem grouped (found : List Item) {s : State}
    (byName : around.opened = 0 ∨ startsReference (.plain '(' :: s.pieces) = false) :
    around.Mirrors (switches.verbose = true) s
      (do
        match ← readGroup switches n with
        | none => readItems switches n found
        | some p => readItems switches n (found ++ [⟨p, .other⟩]))
      (do
        match ← readGroup switches m with
        | none => readItems switches m (found.map (Item.raise around.opened))
        | some p => readItems switches m (found.map (Item.raise around.opened) ++ [⟨p, .other⟩]))
      (raise around.opened) := by
  refine .bind (inner.group enough switches byName) fun p? s₁ _ => ?_
  cases p? with
  | none => exact inner.items enough switches found s₁
  | some p => exact inner.add enough switches found ⟨p, .other⟩ s₁

theorem items_succ (found : List Item) (s : State) :
    around.Mirrors (switches.verbose = true) s (readItems switches (n + 1) found)
      (readItems switches (m + 1) (found.map (Item.raise around.opened)))
      (raise around.opened) := by
  rw [readItems, readItems]
  refine .of_sound fun sound => .bind mirrors_peek? fun p s₁ peeked => ?_
  cases peeked
  have finish : (sequenceOf (found.map (·.pattern))).raise around.opened =
      sequenceOf ((found.map (Item.raise around.opened)).map (·.pattern)) := by
    rw [raise_sequenceOf, List.map_map, List.map_map]
    rfl
  have notReferring {rest : List Piece} (suffix : rest <:+ s.pieces) :
      around.opened = 0 ∨ startsReference rest = false :=
    sound.byName.imp_right fun none =>
      Bool.eq_false_iff.mpr fun starts => none ⟨rest, suffix, starts⟩
  rcases pieces : s.pieces with _ | ⟨c | c, rest⟩
  · exact .pure finish
  · refine .ite (fun _ => .pure finish) fun _ => ?_
    refine .bind (mirrors_drop (by simp [pieces])) fun _ s₂ dropped => ?_
    cases dropped
    refine .ite (fun _ => inner.items enough switches found _) fun _ => .ite (fun comment => ?_)
      fun _ => ?_
    · -- A comment that the end of the text ends by itself would not end at the parenthesis.
      have verbose : switches.verbose = true := (Bool.and_eq_true_iff.mp comment).1
      have dropped {s : State} : around.Mirrors True s dropLine dropLine id :=
        mirrors_dropLine trivial
      refine dropped.bind_of_goesOn ?_ fun _ s₃ _ _ => inner.items enough switches found s₃
      intro _ s₃ p s' read goesOn _ ended
      obtain rfl := readItems_of_end ended read
      exact goesOn verbose ended
    refine .ite (fun _ => ?_) fun _ => ?_
    · exact .bind (mirrors_charClass switches) fun p s₃ _ =>
        inner.add enough switches found ⟨p, .other⟩ s₃
    refine .ite (fun _ => inner.add enough switches found _ _) fun _ => ?_
    refine .ite (fun _ => inner.add enough switches found _ _) fun _ => ?_
    refine .ite (fun _ => inner.add enough switches found _ _) fun _ => ?_
    refine .ite (fun isOpen => inner.grouped enough switches found ?_) fun _ => ?_
    · simpa only [pieces, isOpen, List.tail_cons] using notReferring List.suffix_rfl
    refine .ite (fun _ => inner.repeated enough switches found _) fun _ => ?_
    exact inner.add enough switches found _ _
  · refine .bind (mirrors_drop (by simp [pieces])) fun _ s₂ dropped => ?_
    cases dropped
    refine .bind (mirrors_escape switches c ?_) fun item s₃ _ =>
      inner.add enough switches found item s₃
    simpa only [pieces, List.tail_cons] using notReferring List.suffix_rfl

end Steps

theorem succ {n : Nat} (inner : Nested around n) : Nested around (n + 1) := by
  have fewer {m : Nat} (enough : n + 1 ≤ m) : ∃ less, m = less + 1 ∧ n ≤ less :=
    ⟨m - 1, by omega, by omega⟩
  constructor
  case alternatives =>
    intro m enough
    obtain ⟨m, rfl, le⟩ := fewer enough
    exact inner.alternatives_succ le
  case items =>
    intro m enough
    obtain ⟨m, rfl, le⟩ := fewer enough
    exact inner.items_succ le
  case group =>
    intro m enough
    obtain ⟨m, rfl, le⟩ := fewer enough
    exact inner.group_succ le
  case lookbehind =>
    intro m enough
    obtain ⟨m, rfl, le⟩ := fewer enough
    exact inner.lookbehind_succ le
  case capturing =>
    intro m enough
    obtain ⟨m, rfl, le⟩ := fewer enough
    exact inner.capturing_succ le

end Nested

/-- Whatever the fuel, a pattern is read inside another one as by itself. -/
theorem nested (n : Nat) : Nested around n := by
  induction n with
  | zero => exact .zero
  | succ n inner => exact inner.succ

end NativeVariants.Pattern
