import NativeVariants.Proofs.Pattern.Surroundings

set_option autoImplicit false

/-!
The steps of reading a pattern, inside another one. Numbers of groups are raised, names are looked
up behind those of the pattern, and what is taken is the same, as the parenthesis ends it.
-/

namespace NativeVariants.Pattern
open Text Reader

variable {α β γ δ : Type}

open Surroundings

variable {around : Surroundings} {goesOn : Prop} {s : State}

/-! ### Characters -/

theorem run_take (c : Char) (s : State) :
    take c s =
      if s.pieces.head? = some (Piece.plain c) then .ok (true, { s with pieces := s.pieces.tail })
      else .ok (false, s) := by
  change (if s.pieces.head? = some (Piece.plain c) then _ else _ : Reader Bool) s = _
  split
  · rfl
  · rfl

theorem head?_embed_of_ne {c : Char} (noClose : c ≠ ')') :
    (around.embed s).pieces.head? = some (.plain c) ↔ s.pieces.head? = some (.plain c) := by
  cases pieces : s.pieces with
  | nil => simp [embed, pieces, noClose.symm]
  | cons p rest => simp [embed, pieces]

theorem embed_tail (some : s.pieces ≠ []) :
    { around.embed s with pieces := (around.embed s).pieces.tail } =
      around.embed { s with pieces := s.pieces.tail } := by
  simp [embed, List.tail_append_of_ne_nil some]

theorem mirrors_take {c : Char} (noClose : c ≠ ')') :
    around.Mirrors goesOn s (take c) (take c) id := by
  by_cases there : s.pieces.head? = some (.plain c)
  · refine .of_run true s.pieces.tail ?_ (List.tail_suffix _) ?_
    · rw [run_take, if_pos there]
    · rw [run_take, if_pos ((head?_embed_of_ne noClose).mpr there), embed_tail]
      · rfl
      · intro none
        simp [none] at there
  · refine .of_run false s.pieces ?_ List.suffix_rfl ?_
    · rw [run_take, if_neg there]
    · rw [run_take, if_neg (mt (head?_embed_of_ne noClose).mp there)]
      rfl

theorem closing_eq_ok {u : Unit} {s' : State} (read : closing s = .ok (u, s')) :
    s.pieces.head? = some (.plain ')') ∧ s' = { s with pieces := s.pieces.tail } := by
  obtain ⟨taken, s₁, first, rest⟩ := bind_eq_ok_iff.mp read
  rw [run_take] at first
  split at first
  · cases first
    cases rest
    exact ⟨‹_›, rfl⟩
  · cases first
    cases rest

theorem run_closing (there : s.pieces.head? = some (.plain ')')) :
    closing s = .ok ((), { s with pieces := s.pieces.tail }) := by
  have taken := run_take ')' s
  rw [if_pos there] at taken
  exact bind_of_ok taken

theorem mirrors_closing : around.Mirrors goesOn s closing closing id := by
  refine .of_takes fun u s' read => ?_
  obtain ⟨there, rfl⟩ := closing_eq_ok read
  have nonempty : s.pieces ≠ [] := by
    intro none
    simp [none] at there
  have other : (around.embed s).pieces.head? = some (.plain ')') := by
    simp [embed, there]
  refine ⟨s.pieces.tail, List.tail_suffix _, rfl, ?_⟩
  rw [run_closing other, embed_tail nonempty]

theorem run_next (s : State) :
    next s = match s.pieces with
      | [] => .error .malformed
      | p :: rest => .ok (p, { s with pieces := rest }) := by
  obtain ⟨pieces, opened, names, closed, lookbehind?, asked⟩ := s
  cases pieces with
  | nil => rfl
  | cons p rest => rfl

theorem next_eq_ok {p : Piece} {s' : State} (read : next s = .ok (p, s')) :
    s.pieces = p :: s'.pieces ∧ s' = { s with pieces := s'.pieces } := by
  rw [run_next] at read
  split at read
  · cases read
  · rename_i split
    cases read
    exact ⟨split, rfl⟩

theorem mirrors_next : around.Mirrors goesOn s next next id := by
  refine .of_takes fun p s' read => ?_
  obtain ⟨split, whole⟩ := next_eq_ok read
  refine ⟨s'.pieces, ⟨[p], split.symm⟩, whole, ?_⟩
  have other : (around.embed s).pieces = p :: (s'.pieces ++ .plain ')' :: around.rest) := by
    simp [embed, split]
  rw [run_next, other, whole]
  rfl

def plainPrefix (test : Char → Bool) : Nat → List Piece → List Char
  | n + 1, .plain c :: rest => if test c then c :: plainPrefix test n rest else []
  | _, _ => []

theorem run_takeWhile (test : Char → Bool) (n : Nat) (s : State) :
    takeWhile test n s = .ok (plainPrefix test n s.pieces,
      { s with pieces := s.pieces.drop (plainPrefix test n s.pieces).length }) := by
  obtain ⟨pieces, opened, names, closed, lookbehind?, asked⟩ := s
  induction n generalizing pieces with
  | zero => rfl
  | succ n ih =>
      rcases pieces with _ | ⟨c | c, rest⟩
      · rfl
      · have unfolded : takeWhile test (n + 1)
            ⟨.plain c :: rest, opened, names, closed, lookbehind?, asked⟩ =
            (if test c then do
              drop
              return c :: (← takeWhile test n)
            else return [] : Reader (List Char))
              ⟨.plain c :: rest, opened, names, closed, lookbehind?, asked⟩ := rfl
        rw [unfolded]
        by_cases passes : test c = true
        · have dropped : drop ⟨.plain c :: rest, opened, names, closed, lookbehind?, asked⟩ =
              .ok ((), ⟨rest, opened, names, closed, lookbehind?, asked⟩) := rfl
          rw [if_pos passes, bind_of_ok dropped, bind_of_ok (ih rest), plainPrefix, if_pos passes]
          rfl
        · rw [if_neg passes, plainPrefix, if_neg passes]
          rfl
      · rfl

theorem length_plainPrefix_le (test : Char → Bool) (n : Nat) (ps : List Piece) :
    (plainPrefix test n ps).length ≤ ps.length := by
  induction n, ps using plainPrefix.induct test with
  | case1 n c rest passes ih => simpa [plainPrefix, passes] using ih
  | case2 n c rest fails => simp [plainPrefix, fails]
  | case3 n ps none =>
      rw [plainPrefix]
      · simp
      · exact none

/-- The parenthesis ends a prefix, and the bound does not if it is no less than the length. -/
theorem plainPrefix_append {test : Char → Bool} (noClose : test ')' = false) {n m : Nat}
    {ps : List Piece} (enough : n = m ∨ ps.length ≤ n ∧ n ≤ m) (rest : List Piece) :
    plainPrefix test m (ps ++ .plain ')' :: rest) = plainPrefix test n ps := by
  have atClose (k : Nat) : plainPrefix test k (.plain ')' :: rest) = [] := by
    cases k with
    | zero => rfl
    | succ k => simp [plainPrefix, noClose]
  induction n generalizing m ps with
  | zero =>
      rcases enough with rfl | ⟨none, _⟩
      · rfl
      · rw [List.length_eq_zero_iff.mp (Nat.le_zero.mp none)]
        exact atClose m
  | succ n ih =>
      rcases ps with _ | ⟨c | c, more⟩
      · exact atClose m
      · obtain ⟨m, rfl⟩ := Nat.exists_eq_add_one_of_ne_zero (show m ≠ 0 by omega)
        have inner : n = m ∨ more.length ≤ n ∧ n ≤ m := by
          simp only [List.length_cons] at enough
          omega
        simp only [List.cons_append, plainPrefix, ih inner]
      · cases m <;> rfl

theorem mirrors_takeWhile {test : Char → Bool} (noClose : test ')' = false) {n m : Nat}
    (enough : n = m ∨ s.pieces.length ≤ n ∧ n ≤ m) :
    around.Mirrors goesOn s (takeWhile test n) (takeWhile test m) id := by
  refine .of_run (plainPrefix test n s.pieces) _ (run_takeWhile test n s) (List.drop_suffix _ _) ?_
  have same : plainPrefix test m (around.embed s).pieces = plainPrefix test n s.pieces :=
    plainPrefix_append noClose enough around.rest
  rw [run_takeWhile, same]
  simp only [embed, id]
  rw [List.drop_append_of_le_length (length_plainPrefix_le test n s.pieces)]

theorem takeUntil_eq (terminator : Char) (s : State) :
    takeUntil terminator s =
      (match s.pieces.drop (s.pieces.takeWhile (· ≠ .plain terminator)).length with
      | [] => malformed
      | _ :: rest => do
          modify fun s => { s with pieces := rest }
          if (s.pieces.takeWhile (· ≠ .plain terminator)).isEmpty then malformed
          else return (s.pieces.takeWhile (· ≠ .plain terminator)).flatMap pieceChars :
        Reader (List Char)) s := rfl

theorem takeWhile_of_split {p : Piece} {ps before rest : List Piece} (open_ : p ∉ before)
    (split : ps = before ++ p :: rest) : ps.takeWhile (· ≠ p) = before := by
  rw [split, List.takeWhile_append_of_pos]
  · simp
  · intro q inside
    simpa using ne_of_mem_of_not_mem inside open_

theorem run_takeUntil {terminator : Char} {before rest : List Piece}
    (open_ : .plain terminator ∉ before) (split : s.pieces = before ++ .plain terminator :: rest) :
    takeUntil terminator s =
      if before.isEmpty then .error .malformed
      else .ok (before.flatMap pieceChars, { s with pieces := rest }) := by
  have taken := takeWhile_of_split open_ split
  rw [takeUntil_eq, taken, split, List.drop_left]
  change (if before.isEmpty = true then malformed else pure _ : Reader _) _ = _
  split
  · rfl
  · rfl

theorem takeUntil_eq_ok {terminator : Char} {chars : List Char} {s' : State}
    (read : takeUntil terminator s = .ok (chars, s')) :
    ∃ before, .plain terminator ∉ before ∧
      s.pieces = before ++ .plain terminator :: s'.pieces ∧ before.isEmpty = false ∧
      chars = before.flatMap pieceChars ∧ s' = { s with pieces := s'.pieces } := by
  cases left : s.pieces.dropWhile (· ≠ .plain terminator) with
  | nil =>
      have all : s.pieces.takeWhile (· ≠ .plain terminator) = s.pieces := by
        have whole := List.takeWhile_append_dropWhile (p := (· ≠ .plain terminator)) (l := s.pieces)
        rwa [left, List.append_nil] at whole
      rw [takeUntil_eq, all, List.drop_length] at read
      cases read
  | cons q rest =>
      obtain ⟨before, open_, split⟩ := eq_append_of_dropWhile left
      rw [run_takeUntil open_ split] at read
      split at read
      · cases read
      · cases read
        exact ⟨before, open_, split, Bool.eq_false_iff.mpr ‹_›, rfl, rfl⟩

theorem mirrors_takeUntil (terminator : Char) :
    around.Mirrors goesOn s (takeUntil terminator) (takeUntil terminator) id := by
  refine .of_takes fun chars s' read => ?_
  obtain ⟨before, open_, split, nonempty, rfl, whole⟩ := takeUntil_eq_ok read
  refine ⟨s'.pieces, ⟨before ++ [.plain terminator], by simp [split]⟩, whole, ?_⟩
  have other : (around.embed s).pieces =
      before ++ .plain terminator :: (s'.pieces ++ .plain ')' :: around.rest) := by
    simp [embed, split]
  rw [run_takeUntil open_ other, nonempty, whole]
  rfl

/-! ### Escapes -/

theorem mirrors_hexEscape (length : Nat) :
    around.Mirrors goesOn s (hexEscape length) (hexEscape length) id := by
  refine .bind (mirrors_takeWhile (by decide) (.inl rfl)) fun digits s₁ _ => ?_
  refine .ite (fun _ => .malformed) fun _ => ?_
  exact .ite (fun _ => .pure rfl) fun _ => .malformed

theorem mirrors_octalEscape (first : Char) :
    around.Mirrors goesOn s (octalEscape first) (octalEscape first) id := by
  refine .bind (mirrors_takeWhile (by decide) (.inl rfl)) fun digits s₁ _ => ?_
  exact .ite (fun _ => .pure rfl) fun _ => .malformed

/-- Escapes for single codes do not depend on what stands around. -/
theorem Surroundings.Mirrors.map {x y : Reader α} {f : α → β}
    (read : around.Mirrors False s x y id) :
    around.Mirrors goesOn s (do return f (← x)) (do return f (← y)) id :=
  .bind read fun _ _ _ => .pure rfl

theorem mirrors_classEscape (switches : Switches) (c : Char) :
    around.Mirrors goesOn s (classEscape switches c) (classEscape switches c) id := by
  unfold classEscape
  dsimp only
  split
  · exact .pure rfl
  · exact .pure rfl
  refine .ite (fun _ => .pure rfl) fun _ => ?_
  refine .ite (fun _ => .map (mirrors_hexEscape 2)) fun _ => ?_
  refine .ite (fun _ => .map (mirrors_hexEscape 4)) fun _ => ?_
  refine .ite (fun _ => .map (mirrors_hexEscape 8)) fun _ => ?_
  refine .ite (fun _ => .map (mirrors_octalEscape c)) fun _ => ?_
  exact .ite (fun _ => .malformed) fun _ => .pure rfl

theorem mirrors_classMember (switches : Switches) (p : Piece) :
    around.Mirrors goesOn s (classMember switches p) (classMember switches p) id := by
  cases p with
  | plain c => exact .pure rfl
  | escaped c => exact mirrors_classEscape switches c

theorem mirrors_classItems (switches : Switches) {n m : Nat} (enough : n ≤ m)
    (items : List ClassItem) :
    around.Mirrors goesOn s (classItems switches n items) (classItems switches m items) id := by
  induction n generalizing m s items with
  | zero => exact .malformed
  | succ n ih =>
      obtain ⟨m, rfl⟩ := Nat.exists_eq_add_one_of_ne_zero (show m ≠ 0 by omega)
      have more := Nat.le_of_succ_le_succ enough
      unfold classItems
      refine .bind mirrors_next fun p s₁ _ => .ite (fun _ => .pure rfl) fun _ => ?_
      refine .bind (mirrors_classMember switches p) fun lo s₂ _ => ?_
      refine .bind (mirrors_take (by decide)) fun isRange s₃ _ => .ite (fun _ => ?_) fun _ => ?_
      · refine .bind mirrors_next fun q s₄ _ => .ite (fun _ => .pure rfl) fun _ => ?_
        refine .bind (mirrors_classMember switches q) fun hi s₅ _ => ?_
        dsimp only [id]
        split
        · exact .ite (fun _ => .malformed) fun _ => ih more _
        · exact .malformed
      · exact ih more _

theorem mirrors_charClass (switches : Switches) :
    around.Mirrors goesOn s (charClass switches) (charClass switches)
      (raise around.opened) := by
  refine .bind (mirrors_take (by decide)) fun negated s₁ _ => .get_bind ?_
  refine .bind (mirrors_classItems switches ?_ []) fun items s₂ _ => .pure rfl
  simp [embed]

/-! ### References -/

theorem lt_raiseIndex {k before index : Nat} :
    before + k < raiseIndex k index ↔ before < index := by
  unfold raiseIndex
  split <;> omega

theorem mirrors_checkReference (index : Nat) (mayBeOpen : Bool) :
    around.Mirrors goesOn s (checkReference index mayBeOpen)
      (checkReference (raiseIndex around.opened index) mayBeOpen) id := by
  refine .get_bind ?_
  rw [lookup_closed]
  refine .check fun _ => ?_
  cases lookbehind : s.lookbehind? with
  | none =>
      simp only [embed, lookbehind]
      exact .pure rfl
  | some before =>
      simp only [embed, lookbehind, Option.map_some, lt_raiseIndex]
      exact .ite (fun _ => .malformed) fun _ => .pure rfl

theorem mirrors_backReferenceTo (switches : Switches) (index : Nat) :
    around.Mirrors goesOn s (backReferenceTo switches index)
      (backReferenceTo switches (raiseIndex around.opened index)) (raise around.opened) :=
  .bind (mirrors_checkReference index false) fun _ _ _ => .pure rfl

/-- The first pattern has no groups before it, and may refer to its groups by their numbers. -/
theorem mirrors_reference (first : around.opened = 0) (switches : Switches) (digits : List Char) :
    around.Mirrors goesOn s (numberEscape.reference switches digits)
      (numberEscape.reference switches digits) (raise around.opened) := by
  refine .get_bind ?_
  have same : (around.embed s).opened = s.opened := by simp [embed, first]
  rw [same]
  refine .ite (fun _ => ?_) fun _ => .malformed
  have read : around.Mirrors goesOn s (backReferenceTo switches (inBase 10 digits)) _ _ :=
    mirrors_backReferenceTo switches (inBase 10 digits)
  simpa only [first, raiseIndex_zero] using read

theorem mirrors_numberEscape_of_first (first : around.opened = 0) (switches : Switches) (c : Char) :
    around.Mirrors goesOn s (numberEscape switches c) (numberEscape switches c)
      (raise around.opened) := by
  refine .bind (mirrors_takeWhile (by decide) (.inl rfl)) fun digits s₁ _ => ?_
  dsimp only [id]
  split
  · refine .bind (f := id) ?_ fun more s₂ _ => ?_
    · exact .ite (fun _ => mirrors_takeWhile (by decide) (.inl rfl)) fun _ => .pure rfl
    dsimp only [id]
    split
    · exact .ite (fun _ => .pure rfl) fun _ => .malformed
    · exact mirrors_reference first switches _
  · exact mirrors_reference first switches _

theorem isAsciiDigit_of_isOctal {c : Char} (octal : isOctal c = true) : isAsciiDigit c = true := by
  simp only [isOctal, isAsciiDigit, Bool.and_eq_true, decide_eq_true_eq] at octal ⊢
  exact ⟨octal.1, Char.le_trans octal.2 (by decide)⟩

theorem run_numberEscape_of_octal (switches : Switches) {c d e : Char} {rest : List Piece}
    (first : isOctal c = true) (second : isOctal d = true) (third : isOctal e = true)
    (split : s.pieces = .plain d :: .plain e :: rest) :
    numberEscape switches c s =
      if inBase 8 [c, d, e] ≤ 255 then
        .ok (single switches (inBase 8 [c, d, e]), { s with pieces := rest })
      else .error .malformed := by
  have one : takeWhile isAsciiDigit 1 s = .ok ([d], { s with pieces := .plain e :: rest }) := by
    simp [run_takeWhile, split, plainPrefix, isAsciiDigit_of_isOctal second]
  have two : takeWhile isOctal 1 { s with pieces := .plain e :: rest } =
      .ok ([e], { s with pieces := rest }) := by
    simp [run_takeWhile, plainPrefix, third]
  unfold numberEscape
  rw [bind_of_ok one]
  simp only [first, second, Bool.and_self, if_true]
  rw [bind_of_ok two]
  dsimp only
  split
  · rfl
  · rfl

theorem mirrors_numberEscape (switches : Switches) {c : Char} (digit : isAsciiDigit c = true)
    (noZero : c ≠ '0')
    (byName : around.opened = 0 ∨ startsReference (.escaped c :: s.pieces) = false) :
    around.Mirrors goesOn s (numberEscape switches c) (numberEscape switches c)
      (raise around.opened) := by
  rcases byName with first | noReference
  · exact mirrors_numberEscape_of_first first switches c
  have isReference : ('1' ≤ c && c ≤ '9') = true := by
    simp only [isAsciiDigit, Bool.and_eq_true, decide_eq_true_eq] at digit ⊢
    have code : c.toNat ≠ '0'.toNat := fun same => noZero (Char.toNat_inj.mp same)
    have least : '0'.toNat ≤ c.toNat := UInt32.le_iff_toNat_le.mp digit.1
    have one : '1'.toNat = '0'.toNat + 1 := rfl
    exact ⟨UInt32.le_iff_toNat_le.mpr (show '1'.toNat ≤ c.toNat by omega), digit.2⟩
  simp only [startsReference, isReference, Bool.true_and, Bool.not_eq_false'] at noReference
  split at noReference
  · rename_i d e rest split
    simp only [Bool.and_eq_true] at noReference
    obtain ⟨⟨octal, second⟩, third⟩ := noReference
    have other : (around.embed s).pieces =
        .plain d :: .plain e :: (rest ++ .plain ')' :: around.rest) := by
      simp [embed, split]
    by_cases small : inBase 8 [c, d, e] ≤ 255
    · refine .of_run (single switches (inBase 8 [c, d, e])) rest ?_ ?_ ?_
      · rw [run_numberEscape_of_octal switches octal second third split, if_pos small]
      · exact ⟨[.plain d, .plain e], split.symm⟩
      · rw [run_numberEscape_of_octal switches octal second third other, if_pos small]
        rfl
    · refine .of_fails fun a s' read => ?_
      rw [run_numberEscape_of_octal switches octal second third split, if_neg small] at read
      cases read
  · cases noReference

def Item.raise (k : Nat) (item : Item) : Item := { item with pattern := item.pattern.raise k }

theorem mirrors_escape (switches : Switches) (c : Char)
    (byName : around.opened = 0 ∨ startsReference (.escaped c :: s.pieces) = false) :
    around.Mirrors goesOn s (escape switches c) (escape switches c)
      (Item.raise around.opened) := by
  unfold escape
  split
  · exact .pure rfl
  · exact .pure rfl
  · exact .pure rfl
  have single {p : Pattern} (same : p.raise around.opened = p) {s : State} :
      around.Mirrors goesOn s (do let p ← pure p; return ⟨p, .other⟩)
        (do let p ← pure p; return ⟨p, .other⟩) (Item.raise around.opened) :=
    .bind (.pure same) fun _ _ _ => .pure rfl
  refine .ite (fun _ => .bind (mirrors_hexEscape 2) fun _ _ _ => single rfl) fun _ => ?_
  refine .ite (fun _ => .bind (mirrors_hexEscape 4) fun _ _ _ => single rfl) fun _ => ?_
  refine .ite (fun _ => .bind (mirrors_hexEscape 8) fun _ _ _ => single rfl) fun _ => ?_
  refine .ite (fun _ => ?_) fun noZero => ?_
  · exact .bind (mirrors_takeWhile (by decide) (.inl rfl)) fun _ _ _ => single rfl
  refine .ite (fun digit => ?_) fun _ => ?_
  · exact .bind (mirrors_numberEscape switches digit noZero byName) fun _ _ _ => .pure rfl
  exact .ite (fun _ => .of_fails nofun) fun _ => single rfl

/-! ### Repetitions -/

/-- Where the pattern by itself ends, a parenthesis is seen. -/
theorem mirrors_peek? :
    around.Mirrors goesOn s peek? peek? (·.or (some (.plain ')'))) := by
  refine .of_run s.pieces.head? s.pieces rfl List.suffix_rfl ?_
  change Except.ok ((around.embed s).pieces.head?, _) = _
  cases pieces : s.pieces <;> simp [embed, pieces]

theorem length_le_of_takeWhile {test : Char → Bool} {n : Nat} {chars : List Char} {s' : State}
    (read : takeWhile test n s = .ok (chars, s')) : s'.pieces.length ≤ s.pieces.length := by
  rw [run_takeWhile] at read
  cases read
  simp

theorem length_le_of_take {c : Char} {taken : Bool} {s' : State}
    (read : take c s = .ok (taken, s')) : s'.pieces.length ≤ s.pieces.length := by
  rw [run_take] at read
  split at read
  · cases read
    simp
  · cases read
    exact Nat.le_refl _

theorem mirrors_putBack {ps : List Piece} (byName : around.opened = 0 ∨ ¬RefersByNumber ps) :
    around.Mirrors goesOn s (modify fun s => { s with pieces := ps })
      (modify fun s => { s with pieces := ps ++ .plain ')' :: around.rest }) id := by
  intro u s' sound read _
  cases read
  exact ⟨List.suffix_rfl, Nat.le_refl _, rfl, ⟨byName, sound.closed_le⟩, fun _ => rfl,
    fun apart clash => absurd apart clash⟩

/-- The end of bounds in braces. Without a closing brace the pieces are put back. -/
def bracesEnd (start : List Piece) (least most : List Char) :
    Reader (Option (Nat × Option Nat)) := do
  if ← take '\x7d' then
    let lo := inBase 10 least
    let hi := inBase 10 most
    if maxRepetitions ≤ lo || maxRepetitions ≤ hi then throw .tooMany
    else if most.isEmpty then return some (lo, none)
    else if hi < lo then malformed
    else return some (lo, some hi)
  else
    modify fun s => { s with pieces := start }
    return none

theorem mirrors_bracesEnd {start : List Piece}
    (byName : around.opened = 0 ∨ ¬RefersByNumber start) (least most : List Char) :
    around.Mirrors goesOn s (bracesEnd start least most)
      (bracesEnd (start ++ .plain ')' :: around.rest) least most) id := by
  refine .bind (mirrors_take (by decide)) fun closed s₁ _ => .ite (fun _ => ?_) fun _ => ?_
  · refine .ite (fun _ => .of_fails nofun) fun _ => .ite (fun _ => .pure rfl) fun _ => ?_
    exact .ite (fun _ => .malformed) fun _ => .pure rfl
  · exact .bind (mirrors_putBack byName) fun _ _ _ => .pure rfl

theorem mirrors_bracedBounds? :
    around.Mirrors goesOn s bracedBounds? bracedBounds? id := by
  refine .of_sound fun sound => .get_bind (.bind mirrors_peek? fun p s₁ own => ?_)
  cases own
  have same : s.pieces.head?.or (some (.plain ')')) = some (.plain '\x7d') ↔
      s.pieces.head? = some (.plain '\x7d') := by
    cases s.pieces.head? <;> simp
  simp only [same]
  refine .ite (fun _ => .pure rfl) fun _ => ?_
  have length : s.pieces.length ≤ (around.embed s).pieces.length := by simp [embed]
  refine .bind (mirrors_takeWhile (by decide) (.inr ⟨Nat.le_refl _, length⟩)) fun least s₂ ran => ?_
  refine .bind (mirrors_take (by decide)) fun hasMost s₃ taken => .ite (fun _ => ?_) fun _ => ?_
  · have shorter := (length_le_of_take taken).trans (length_le_of_takeWhile ran)
    refine .bind (mirrors_takeWhile (by decide) (.inr ⟨shorter, length⟩)) fun most s₄ _ => ?_
    exact mirrors_bracesEnd sound.byName least most
  · exact .bind (.pure rfl) fun most _ _ => mirrors_bracesEnd sound.byName least most

theorem mirrors_repetitionBounds? (c : Char) :
    around.Mirrors goesOn s (repetitionBounds? c) (repetitionBounds? c) id := by
  refine .ite (fun _ => .pure rfl) fun _ => .ite (fun _ => .pure rfl) fun _ => ?_
  exact .ite (fun _ => .pure rfl) fun _ => mirrors_bracedBounds?

theorem mirrors_repetitionMode :
    around.Mirrors goesOn s repetitionMode repetitionMode id := by
  refine .bind (mirrors_take (by decide)) fun _ _ _ => .ite (fun _ => .pure rfl) fun _ => ?_
  exact .bind (mirrors_take (by decide)) fun _ _ _ => .ite (fun _ => .pure rfl) fun _ => .pure rfl

theorem mirrors_repeatLast (items : List Item) (least : Nat) (most? : Option Nat) :
    around.Mirrors goesOn s (repeatLast items least most?)
      (repeatLast (items.map (Item.raise around.opened)) least most?)
      (List.map (Item.raise around.opened)) := by
  unfold repeatLast
  rw [List.getLast?_map]
  cases items.getLast? with
  | none => exact .malformed
  | some last =>
      refine .ite (fun _ => .malformed) fun _ => ?_
      refine .bind mirrors_repetitionMode fun mode s₁ _ => .pure ?_
      simp [Item.raise, raise]

theorem raise_sequenceOf (k : Nat) (ps : List Pattern) :
    (sequenceOf ps).raise k = sequenceOf (ps.map (raise k)) := by
  induction ps using sequenceOf.induct with
  | case1 => rfl
  | case2 p => rfl
  | case3 p rest several ih =>
      cases rest with
      | nil => exact absurd rfl several
      | cons q more => exact congrArg (Pattern.seq (p.raise k)) ih

/-! ### Switches and names -/

theorem mirrors_switchOn (switches : Switches) (chars : List Char) :
    around.Mirrors goesOn s (switchOn switches chars) (switchOn switches chars) id :=
  .ite (fun _ => .malformed) fun _ => .pure rfl

theorem switchOn_eq_ok {switches switched : Switches} {chars : List Char} {s' : State}
    (read : switchOn switches chars s = .ok (switched, s')) : s' = s := by
  unfold switchOn at read
  split at read
  · cases read
  · cases read
    rfl

theorem mirrors_switchOff (switches : Switches) (chars : List Char) :
    around.Mirrors goesOn s (switchOff switches chars) (switchOff switches chars) id :=
  .ite (fun _ => .malformed) fun _ => .pure rfl

theorem mirrors_groupSwitches (switches : Switches) :
    around.Mirrors goesOn s (groupSwitches switches) (groupSwitches switches) id := by
  have length : s.pieces.length ≤ (around.embed s).pieces.length := by simp [embed]
  refine .get_bind (.bind (mirrors_takeWhile (by decide) (.inr ⟨Nat.le_refl _, length⟩))
    fun on s₁ ran => ?_)
  refine .bind (mirrors_switchOn switches on) fun switched s₂ switchedOn => ?_
  obtain rfl := switchOn_eq_ok switchedOn
  refine .bind (mirrors_take (by decide)) fun hasOff s₃ taken => .ite (fun _ => ?_) fun _ => ?_
  · have shorter := (length_le_of_take taken).trans (length_le_of_takeWhile ran)
    refine .bind (mirrors_takeWhile (by decide) (.inr ⟨shorter, length⟩)) fun off s₄ _ => ?_
    refine .check fun _ => .bind (mirrors_switchOff _ off) fun _ _ _ => ?_
    exact .bind (mirrors_take (by decide)) fun _ _ _ =>
      .ite (fun _ => .pure rfl) fun _ => .malformed
  · exact .bind (mirrors_take (by decide)) fun _ _ _ =>
      .ite (fun _ => .pure rfl) fun _ => .malformed

theorem mirrors_groupName : around.Mirrors goesOn s groupName groupName id :=
  .bind (mirrors_takeUntil '>') fun _ _ _ => .ite (fun _ => .pure rfl) fun _ => .malformed

/-! ### Groups -/

theorem run_openGroup (name : String) (s : State) :
    openGroup (some name) s =
      if (s.names.lookup name).isSome then .error .malformed
      else .ok (s.opened + 1,
        { s with opened := s.opened + 1, names := (name, s.opened + 1) :: s.names }) := by
  change (if (s.names.lookup name).isSome = true then _ else _ : Reader Nat) s = _
  split
  · rfl
  · rfl

theorem lookup_eq_none_iff_not_mem {entries : List (String × Nat)} {name : String} :
    entries.lookup name = none ↔ name ∉ entries.map (·.1) := by
  rw [List.lookup_eq_none_iff]
  simp only [List.mem_map, not_exists, not_and, bne_iff_ne]
  exact forall₂_congr fun _ _ => ⟨Ne.symm, Ne.symm⟩

/-- A group is opened under a name that has not been taken, not even by a pattern before. -/
theorem mirrors_openGroup (name? : Option String) :
    around.Mirrors goesOn s (openGroup name?) (openGroup name?) (raiseIndex around.opened) := by
  intro index s' sound read _
  have wider : ∀ entry ∈ s.closed, 0 < entry.1 ∧ entry.1 ≤ s.opened + 1 :=
    fun entry inside => (sound.closed_le entry inside).imp_right Nat.le_succ_of_le
  have next : (around.embed s).opened + 1 = raiseIndex around.opened (s.opened + 1) := by
    rw [raiseIndex_succ]
    exact Nat.add_right_comm _ _ _
  cases name? with
  | none =>
      cases read
      refine ⟨List.suffix_rfl, Nat.le_succ _, rfl, ⟨sound.byName, wider⟩, fun _ => ?_,
        fun apart clash => absurd apart clash⟩
      rw [← next]
      change Except.ok _ = _
      simp [embed, Nat.add_right_comm]
  | some name =>
      rw [run_openGroup] at read
      split at read
      · cases read
      rename_i free
      cases read
      have own : s.names.lookup name = none := Option.not_isSome_iff_eq_none.mp free
      have taken : (around.embed s).names.lookup name = around.names.lookup name := by
        simp [lookup_names, own]
      refine ⟨List.suffix_cons _ _, Nat.le_succ _, rfl, ⟨sound.byName, wider⟩, fun apart => ?_,
        fun apart clash => ?_⟩
      · have fresh : around.names.lookup name = none :=
          lookup_eq_none_iff_not_mem.mpr (apart name (by simp))
        rw [run_openGroup, taken, fresh, next]
        simp [embed, raiseIndex_succ, Nat.add_right_comm]
      · have used : around.names.lookup name ≠ none := by
          intro fresh
          refine clash fun other inside => ?_
          rcases List.mem_cons.mp inside with rfl | before
          · exact lookup_eq_none_iff_not_mem.mp fresh
          · exact apart other before
        refine ⟨.malformed, ?_⟩
        rw [run_openGroup, taken, if_pos (Option.isSome_iff_ne_none.mpr used)]

theorem mirrors_currentWidth (p : Pattern) :
    around.Mirrors goesOn s (currentWidth p) (currentWidth (p.raise around.opened)) id := by
  refine .get_bind (.pure ?_)
  refine (width_raise (fun index => ?_) p).symm
  rw [lookup_closed]

theorem mirrors_closeGroup {index : Nat} (opened : 0 < index ∧ index ≤ s.opened) (body : Pattern) :
    around.Mirrors goesOn s (closeGroup index body)
      (closeGroup (raiseIndex around.opened index) (body.raise around.opened)) id := by
  refine .bind (mirrors_currentWidth body) fun w s₁ own => ?_
  cases own
  intro u s' sound read _
  cases read
  refine ⟨List.suffix_rfl, Nat.le_refl _, rfl, ⟨sound.byName, ?_⟩, fun _ => rfl,
    fun apart clash => absurd apart clash⟩
  exact List.forall_mem_cons.mpr ⟨opened, sound.closed_le⟩

def askFor (index : Nat) : Reader Nat := do
  modify fun s => { s with asked := index :: s.asked }
  checkReference index true
  return index

theorem mirrors_askFor (index : Nat) :
    around.Mirrors goesOn s (askFor index) (askFor (raiseIndex around.opened index))
      (raiseIndex around.opened) := by
  refine .bind (f := id) ?_ fun _ _ _ =>
    .bind (mirrors_checkReference index true) fun _ _ _ => .pure rfl
  intro u s' sound read _
  cases read
  exact ⟨List.suffix_rfl, Nat.le_refl _, rfl, ⟨sound.byName, sound.closed_le⟩, fun _ => rfl,
    fun apart clash => absurd apart clash⟩

theorem mirrors_conditionGroup
    (byName : around.opened = 0 ∨
      startsReference (.plain '(' :: .plain '?' :: .plain '(' :: s.pieces) = false) :
    around.Mirrors goesOn s conditionGroup conditionGroup (raiseIndex around.opened) := by
  refine .bind (mirrors_takeUntil ')') fun name s₁ ran => ?_
  dsimp only [id]
  refine .ite (fun _ => .get_bind ?_) fun noName => ?_
  · rw [lookup_names]
    cases s₁.names.lookup (String.ofList name) with
    | none => exact .of_fails nofun
    | some index => exact .bind (.pure rfl) fun index _ _ => mirrors_askFor index
  · have first : around.opened = 0 := by
      refine byName.resolve_right fun named => noName ?_
      obtain ⟨before, open_, split, _, rfl, _⟩ := takeUntil_eq_ok ran
      simp only [startsReference, Bool.not_eq_false'] at named
      rwa [takeWhile_of_split open_ split] at named
    split
    · refine .ite (fun _ => ?_) fun _ => .of_fails nofun
      refine .bind (f := id) (.pure rfl) fun index s₂ _ => ?_
      have same : raiseIndex around.opened index = index := by rw [first, raiseIndex_zero]
      have ask : around.Mirrors goesOn s₂ (askFor index) (askFor _) _ := mirrors_askFor index
      rw [same] at ask
      exact ask
    · exact .of_fails nofun

/-- Dropping up to a piece is the same inside the other pattern if it ends by itself. -/
theorem tail_dropWhile_embed {test : Piece → Bool} (left : s.pieces.dropWhile test ≠ []) :
    ((around.embed s).pieces.dropWhile test).tail =
      (s.pieces.dropWhile test).tail ++ .plain ')' :: around.rest := by
  simp only [embed]
  rw [List.dropWhile_append, if_neg (by simpa using left), List.tail_append_of_ne_nil left]

/-- A comment that goes on to the end of the pattern would hide the parenthesis. -/
theorem mirrors_dropLine (holds : goesOn) : around.Mirrors goesOn s dropLine dropLine id := by
  intro u s' sound read ends
  cases read
  have left : s.pieces.dropWhile (· ≠ .plain '\n') ≠ [] := by
    intro none
    exact ends holds (by simp only [none, List.tail_nil])
  have own : dropLine s =
      .ok ((), { s with pieces := (s.pieces.dropWhile (· ≠ .plain '\n')).tail }) := rfl
  have suffix : (s.pieces.dropWhile (· ≠ .plain '\n')).tail <:+ s.pieces :=
    (List.tail_suffix _).trans (List.dropWhile_suffix _)
  refine Mirrors.of_run () _ own suffix ?_ () _ sound own ends
  change Except.ok ((), { around.embed s with
    pieces := ((around.embed s).pieces.dropWhile (· ≠ Piece.plain '\n')).tail }) = _
  rw [tail_dropWhile_embed left]
  rfl

theorem run_dropComment (s : State) :
    dropComment s =
      if (s.pieces.dropWhile (· ≠ .plain ')')).isEmpty then .error .malformed
      else .ok ((), { s with pieces := (s.pieces.dropWhile (· ≠ .plain ')')).tail }) := by
  change (if (s.pieces.dropWhile (· ≠ .plain ')')).isEmpty = true then _ else _ : Reader Unit) s = _
  split
  · rfl
  · rfl

theorem mirrors_dropComment : around.Mirrors goesOn s dropComment dropComment id := by
  by_cases left : s.pieces.dropWhile (· ≠ .plain ')') = []
  · refine .of_fails fun u s' read => ?_
    rw [run_dropComment, left] at read
    cases read
  · refine .of_run () (s.pieces.dropWhile (· ≠ .plain ')')).tail ?_ ?_ ?_
    · rw [run_dropComment, if_neg (by simpa using left)]
    · exact (List.tail_suffix _).trans (List.dropWhile_suffix _)
    · have goes : ((around.embed s).pieces.dropWhile (· ≠ .plain ')')).isEmpty = false := by
        simp only [embed]
        rw [List.dropWhile_append, if_neg (by simpa using left)]
        simp
      rw [run_dropComment, goes, tail_dropWhile_embed left]
      rfl

end NativeVariants.Pattern
