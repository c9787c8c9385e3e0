import NativeVariants.Proofs.Pattern.Nesting

set_option autoImplicit false

/-!
Several patterns as alternatives of one, each in a group that keeps nothing. The whole can be read
if none of them starts with switches and no two of them name a group alike
(`readAlternatives_union`). It then is the alternation of the patterns, each with the numbers of its
groups raised above those of the patterns before it.
-/

namespace NativeVariants.Pattern
open Text Reader Surroundings

/-! ### Patterns by themselves -/

def start (ps : List Piece) : State := ⟨ps, 0, [], [], none, []⟩

def readPieces (all : List Piece) : Except Fault (Pattern × State) := do
  let (switches, rest) ← leadingSwitches (all.length + 1) {} all
  readAlternatives switches (4 * rest.length + 8) (start rest)

structure Part where
  text : String
  pieces : List Piece
  pattern : Pattern
  final : State
  cut : Pattern.pieces text.toList = .ok pieces
  read : readPieces pieces = .ok (pattern, final)
  whole : final.pieces = []
  asked_le : ∀ index ∈ final.asked, index ≤ final.opened

theorem read_of_cut {text : String} {ps : List Piece} (cut : pieces text.toList = .ok ps) :
    Pattern.read text = (do
      let (p, s) ← readPieces ps
      if s.pieces.isEmpty && s.asked.all (· ≤ s.opened) then return p
      else .error .malformed) := by
  unfold Pattern.read readPieces
  rw [cut]
  simp only [bind_assoc]
  rfl

theorem read_eq_ok_iff {text : String} {p : Pattern} :
    Pattern.read text = .ok p ↔ ∃ part : Part, part.text = text ∧ part.pattern = p := by
  constructor
  · intro read
    cases cut : pieces text.toList with
    | error fault =>
        unfold Pattern.read at read
        rw [cut] at read
        cases read
    | ok ps =>
        rw [read_of_cut cut] at read
        cases own : readPieces ps with
        | error fault =>
            rw [own] at read
            cases read
        | ok result =>
            obtain ⟨q, s⟩ := result
            rw [own] at read
            change (if _ then _ else _) = _ at read
            split at read
            · rename_i ends
              simp only [Bool.and_eq_true, List.isEmpty_iff, List.all_eq_true,
                decide_eq_true_eq] at ends
              cases read
              exact ⟨⟨text, ps, p, s, cut, own, ends.1, ends.2⟩, rfl, rfl⟩
            · cases read
  · rintro ⟨part, rfl, rfl⟩
    rw [read_of_cut part.cut, part.read]
    change (if _ then _ else _) = _
    rw [if_pos]
    · rfl
    · simpa [part.whole] using part.asked_le

namespace Part

def names (part : Part) : List String := part.final.names.map (·.1)

theorem startsWithSwitches_or_skipsComments (part : Part) :
    StartsWithSwitches part.pieces ∨ ∃ n rest, SkipsComments n part.pieces rest ∧
      readAlternatives {} (4 * rest.length + 8) (start rest) = .ok (part.pattern, part.final) := by
  have read := part.read
  unfold readPieces at read
  cases leading : leadingSwitches (part.pieces.length + 1) {} part.pieces with
  | error fault =>
      rw [leading] at read
      cases read
  | ok result =>
      obtain ⟨switches, rest⟩ := result
      rw [leading] at read
      rcases Pattern.startsWithSwitches_or_skipsComments leading with starts | ⟨rfl, n, skips⟩
      · exact .inl starts
      · exact .inr ⟨n, rest, skips, read⟩

end Part

/-! ### Comments and switches in front -/

theorem dropWhile_of_split {p : Piece} {before rest : List Piece} (open_ : p ∉ before) :
    (before ++ p :: rest).dropWhile (· ≠ p) = p :: rest := by
  rw [List.dropWhile_append_of_pos]
  · simp
  · intro q inside
    simpa using ne_of_mem_of_not_mem inside open_

section Front

variable (switches : Switches) (n : Nat) (found : List Item) (s : State)

theorem readGroup_comment {note : List Piece} (open_ : .plain ')' ∉ note) (more : List Piece) :
    readGroup switches (n + 1)
        { s with pieces := .plain '?' :: .plain '#' :: (note ++ .plain ')' :: more) } =
      .ok (none, { s with pieces := more }) := by
  have dropped : dropComment { s with pieces := note ++ .plain ')' :: more } =
      .ok ((), { s with pieces := more }) := by
    rw [run_dropComment]
    simp only [dropWhile_of_split open_]
    rfl
  have entered (ps : List Piece) :
      readGroup switches (n + 1) { s with pieces := .plain '?' :: .plain '#' :: ps } =
        (do
          dropComment
          return none : Reader (Option Pattern)) { s with pieces := ps } := by
    rw [readGroup]
    rfl
  rw [entered, bind_of_ok dropped]
  rfl

theorem readGroup_plain (ps : List Piece) :
    readGroup switches (n + 1) { s with pieces := .plain '?' :: .plain ':' :: ps } =
      (do
        let body ← readAlternatives switches n
        closing
        return some body : Reader (Option Pattern)) { s with pieces := ps } := by
  rw [readGroup]
  rfl

/-- Switches stand for a group that goes on behind a colon. -/
theorem readGroup_switch {c : Char} (isOn : isSwitch c = true) (ps : List Piece) :
    readGroup switches (n + 1) { s with pieces := .plain '?' :: .plain c :: ps } =
      (do
        let inner ← groupSwitches switches
        let body ← readAlternatives inner n
        closing
        return some body : Reader (Option Pattern)) { s with pieces := .plain c :: ps } := by
  have listed : c ∈ ['a', 'i', 'm', 's', 'x', 'u', 'L'] := by simpa [isSwitch] using isOn
  rw [readGroup]
  simp only [List.mem_cons, List.not_mem_nil, or_false] at listed
  rcases listed with rfl | rfl | rfl | rfl | rfl | rfl | rfl <;> rfl

theorem plainPrefix_of_all {test : Char → Bool} (noClose : test ')' = false) {chars : List Char}
    (each : ∀ c ∈ chars, test c = true) {n : Nat} (enough : chars.length ≤ n) (rest : List Piece) :
    plainPrefix test n (chars.map Piece.plain ++ .plain ')' :: rest) = chars := by
  rw [plainPrefix_append noClose (.inl rfl)]
  induction chars generalizing n with
  | nil => cases n <;> rfl
  | cons c chars ih =>
      obtain ⟨n, rfl⟩ := Nat.exists_eq_add_one_of_ne_zero (Nat.ne_zero_of_lt enough)
      have inner := ih (fun c inside => each c (List.mem_cons_of_mem _ inside))
        (Nat.le_of_succ_le_succ enough)
      simp [plainPrefix, each c List.mem_cons_self, inner]

/-- Behind the switches there is the closing parenthesis and no colon. -/
theorem groupSwitches_ne_ok {chars : List Char} (each : ∀ c ∈ chars, isSwitch c = true)
    (rest : List Piece) (result : Switches × State) :
    groupSwitches switches { s with pieces := chars.map Piece.plain ++ .plain ')' :: rest } ≠
      .ok result := by
  intro read
  obtain ⟨_, _, got, read⟩ := bind_eq_ok_iff.mp read
  cases got
  obtain ⟨on, s₁, taken, read⟩ := bind_eq_ok_iff.mp read
  rw [run_takeWhile, plainPrefix_of_all (by decide) each (by simp)] at taken
  cases taken
  obtain ⟨switched, s₂, switchedOn, read⟩ := bind_eq_ok_iff.mp read
  obtain rfl := switchOn_eq_ok switchedOn
  have atClose : (chars.map Piece.plain ++ .plain ')' :: rest).drop chars.length =
      .plain ')' :: rest := by
    simp
  rw [atClose] at read
  obtain ⟨_, _, minus, read⟩ := bind_eq_ok_iff.mp read
  rw [run_take, if_neg (by simp)] at minus
  cases minus
  obtain ⟨_, _, colon, read⟩ := bind_eq_ok_iff.mp read
  rw [run_take, if_neg (by simp)] at colon
  cases colon
  cases read

end Front

section Plain

variable {switches : Switches} (plain : switches.verbose = false) (n : Nat) (found : List Item)
  (s : State)

include plain

theorem readItems_open (ps : List Piece) :
    readItems switches (n + 1) found { s with pieces := .plain '(' :: ps } =
      (do
        match ← readGroup switches n with
        | none => readItems switches n found
        | some p => readItems switches n (found ++ [⟨p, .other⟩]) : Reader Pattern)
        { s with pieces := ps } := by
  rw [readItems]
  simp only [plain]
  rfl

theorem readItems_plainGroup :
    readItems switches (n + 2) found
        { s with pieces := .plain '(' :: .plain '?' :: .plain ':' :: s.pieces } =
      (do
        let body ← readAlternatives switches n
        closing
        readItems switches (n + 1) (found ++ [⟨body, .other⟩]) : Reader Pattern) s := by
  let add (p? : Option Pattern) : Reader Pattern :=
    match p? with
    | none => readItems switches (n + 1) found
    | some p => readItems switches (n + 1) (found ++ [⟨p, .other⟩])
  let group : Reader (Option Pattern) := do
    let body ← readAlternatives switches n
    closing
    return some body
  have grouped : (readGroup switches (n + 1) >>= add)
      { s with pieces := .plain '?' :: .plain ':' :: s.pieces } = (group >>= add) s :=
    bind_congr_run (readGroup_plain switches n s s.pieces) add
  rw [readItems_open plain]
  refine grouped.trans ?_
  simp only [group, bind_assoc, pure_bind]
  rfl

/-- Each comment in front takes one unit of fuel. -/
theorem readItems_of_skipsComments {c : Nat} {ps rest : List Piece}
    (skips : SkipsComments c ps rest) (after : List Piece) :
    readItems switches (n + 1 + c) found { s with pieces := ps ++ after } =
      readItems switches (n + 1) found { s with pieces := rest ++ after } := by
  induction skips with
  | none rest => rfl
  | @comment c note more rest open_ _ ih =>
      rw [← ih]
      simp only [List.cons_append, List.append_assoc]
      have passed := readGroup_comment switches (n + c) s open_ (more ++ after)
      have enough : n + 1 + (c + 1) = (n + c + 1) + 1 := by omega
      rw [enough, readItems_open plain, bind_of_ok passed, Nat.add_right_comm]

theorem exists_fuel_of_readItems_open {ps : List Piece} {result : Pattern × State}
    (read : readItems switches n found { s with pieces := .plain '(' :: ps } = .ok result) :
    ∃ m, n = m + 2 := by
  match n with
  | 0 => cases read
  | 1 =>
      rw [readItems_open plain] at read
      obtain ⟨_, _, grouped, _⟩ := bind_eq_ok_iff.mp read
      cases grouped
  | m + 2 => exact ⟨m, rfl⟩

theorem readItems_ne_ok_of_startsWithSwitches {ps : List Piece} (starts : StartsWithSwitches ps)
    (after : List Piece) (result : Pattern × State) :
    readItems switches n found { s with pieces := ps ++ after } ≠ .ok result := by
  induction starts generalizing n with
  | @switches chars some each rest =>
      intro read
      obtain ⟨c, more, rfl⟩ := List.exists_cons_of_ne_nil some
      simp only [List.map_cons, List.cons_append, List.append_assoc] at read
      obtain ⟨n, rfl⟩ := exists_fuel_of_readItems_open plain n found s read
      rw [readItems_open plain] at read
      obtain ⟨_, _, grouped, _⟩ := bind_eq_ok_iff.mp read
      rw [readGroup_switch switches n s (each c List.mem_cons_self)] at grouped
      obtain ⟨_, _, switched, _⟩ := bind_eq_ok_iff.mp grouped
      exact groupSwitches_ne_ok switches s each (rest ++ after) _ switched
  | comment open_ starts ih =>
      intro read
      simp only [List.cons_append, List.append_assoc] at read
      obtain ⟨n, rfl⟩ := exists_fuel_of_readItems_open plain n found s read
      rw [readItems_open plain, bind_of_ok (readGroup_comment switches n s open_ _)] at read
      exact ih (n + 1) read

end Plain

/-! ### One pattern of several -/

theorem noVerbose : ({} : Switches).verbose = false := rfl

section Members

variable {around : Surroundings} {part : Part}

/-- Inside the group, the pattern is read as by itself. -/
theorem mirrored_part (noSwitches : ¬StartsWithSwitches part.pieces)
    (byName : around.opened = 0 ∨ ¬RefersByNumber part.pieces) {n : Nat}
    (enough : 4 * part.pieces.length + 8 ≤ n) :
    ∃ rest, around.Mirrored (start rest) part.final
      (readAlternatives {} n (around.embed (start part.pieces)))
      (part.pattern.raise around.opened) := by
  obtain ⟨c, rest, skips, read⟩ :=
    part.startsWithSwitches_or_skipsComments.resolve_left noSwitches
  have length := skips.length
  obtain ⟨n, rfl⟩ := Nat.exists_eq_add_one_of_ne_zero (show n ≠ 0 by omega)
  obtain ⟨m, rfl⟩ := Nat.exists_eq_add_of_le' (show 1 + c ≤ n by omega)
  have sound : around.Sound (start rest) :=
    ⟨byName.imp_right fun none refers => none (refers.of_suffix skips.suffix), nofun⟩
  have inner : around.Mirrors (({} : Switches).verbose = true) (start rest)
      (readAlternatives {} (4 * rest.length + 7 + 1))
      (do alternativesAfter {} (m + (1 + c)) (← readItems {} (m + 1) [])) (raise around.opened) :=
    (nested _).choice (by omega) {} (by omega) (start rest)
  have skipped := readItems_of_skipsComments noVerbose m []
    (around.embed (start part.pieces)) skips (.plain ')' :: around.rest)
  have same : readAlternatives {} (m + (1 + c) + 1) (around.embed (start part.pieces)) =
      (do alternativesAfter {} (m + (1 + c)) (← readItems {} (m + 1) []))
        (around.embed (start rest)) := by
    rw [readAlternatives_succ, ← Nat.add_assoc]
    exact bind_congr_run skipped _
  exact ⟨rest, same ▸ inner _ _ sound read nofun⟩

def Surroundings.opening (around : Surroundings) (ps : List Piece) : State :=
  { around.embed (start ps) with
    pieces := .plain '(' :: .plain '?' :: .plain ':' :: (ps ++ .plain ')' :: around.rest) }

def Surroundings.passed (around : Surroundings) (final : State) : State :=
  { around.embed final with pieces := around.rest }

def IsBarOrEnd (ps : List Piece) : Prop := ps = [] ∨ ps.head? = some (.plain '|')

theorem readItems_of_isBarOrEnd {s : State} (stops : IsBarOrEnd s.pieces) (n : Nat) (p : Pattern) :
    readItems {} (n + 1) [⟨p, .other⟩] s = .ok (p, s) := by
  obtain ⟨pieces, opened, names, closed, lookbehind?, asked⟩ := s
  rw [readItems]
  rcases stops with ended | bar
  · obtain rfl : pieces = [] := ended
    rfl
  · obtain ⟨rest, rfl⟩ := List.head?_eq_some_iff.mp (show pieces.head? = _ from bar)
    rfl

theorem readItems_part (noSwitches : ¬StartsWithSwitches part.pieces)
    (byName : around.opened = 0 ∨ ¬RefersByNumber part.pieces)
    (apart : ∀ name ∈ part.names, name ∉ around.names.map (·.1))
    (stops : IsBarOrEnd around.rest) {n : Nat} (enough : 4 * part.pieces.length + 10 ≤ n) :
    readItems {} n [] (around.opening part.pieces) =
      .ok (part.pattern.raise around.opened, around.passed part.final) := by
  obtain ⟨n, rfl⟩ := Nat.exists_eq_add_of_le' (show 2 ≤ n by omega)
  obtain ⟨rest, mirrored⟩ := mirrored_part noSwitches byName (show _ ≤ n by omega)
  have closes := run_closing (s := around.embed part.final) (by simp [embed, part.whole])
  have closed : { around.embed part.final with pieces := (around.embed part.final).pieces.tail } =
      around.passed part.final := by
    simp [embed, passed, part.whole]
  rw [closed] at closes
  refine (readItems_plainGroup noVerbose n [] (around.embed (start part.pieces))).trans ?_
  rw [bind_of_ok (mirrored.ok apart), bind_of_ok closes]
  exact readItems_of_isBarOrEnd stops n _

theorem readItems_part_ne_ok (byName : around.opened = 0 ∨ ¬RefersByNumber part.pieces)
    (bad : StartsWithSwitches part.pieces ∨
      ¬∀ name ∈ part.names, name ∉ around.names.map (·.1))
    {n : Nat} (enough : 4 * part.pieces.length + 10 ≤ n) (result : Pattern × State) :
    readItems {} n [] (around.opening part.pieces) ≠ .ok result := by
  intro read
  obtain ⟨n, rfl⟩ := Nat.exists_eq_add_of_le' (show 2 ≤ n by omega)
  have grouped := readItems_plainGroup noVerbose n [] (around.embed (start part.pieces))
  obtain ⟨p, s, body, _⟩ := bind_eq_ok_iff.mp (grouped.symm.trans read)
  by_cases starts : StartsWithSwitches part.pieces
  · obtain ⟨n, rfl⟩ := Nat.exists_eq_add_one_of_ne_zero (show n ≠ 0 by omega)
    rw [readAlternatives_succ] at body
    obtain ⟨_, _, first, _⟩ := bind_eq_ok_iff.mp body
    exact readItems_ne_ok_of_startsWithSwitches noVerbose n [] (around.embed (start part.pieces))
      starts (.plain ')' :: around.rest) _ first
  · obtain ⟨rest, mirrored⟩ := mirrored_part starts byName (show _ ≤ n by omega)
    obtain ⟨fault, failed⟩ := mirrored.clash nofun (bad.resolve_left starts)
    rw [failed] at body
    cases body

def Surroundings.alone : Surroundings := ⟨0, [], [], [], [], nofun⟩

theorem Part.closed_le (noSwitches : ¬StartsWithSwitches part.pieces) :
    ∀ entry ∈ part.final.closed, 0 < entry.1 ∧ entry.1 ≤ part.final.opened := by
  have ⟨_, mirrored⟩ := @mirrored_part alone part noSwitches (.inl rfl) _ (Nat.le_refl _)
  exact mirrored.sound.closed_le

theorem Part.lookbehind?_final (noSwitches : ¬StartsWithSwitches part.pieces) :
    part.final.lookbehind? = none := by
  have ⟨_, mirrored⟩ := @mirrored_part alone part noSwitches (.inl rfl) _ (Nat.le_refl _)
  exact mirrored.lookbehind

end Members

/-! ### Several patterns -/

/-- What the next pattern finds around it, behind one that has been read. -/
def Surroundings.behind (around : Surroundings) {part : Part}
    (noSwitches : ¬StartsWithSwitches part.pieces) (rest : List Piece) : Surroundings where
  opened := part.final.opened + around.opened
  names := (around.embed part.final).names
  closed := (around.embed part.final).closed
  asked := (around.embed part.final).asked
  rest := rest
  closed_le := by
    intro entry inside
    rcases List.mem_append.mp inside with own | before
    · obtain ⟨⟨index, w⟩, raised, rfl⟩ := List.mem_map.mp own
      obtain ⟨positive, le⟩ := Part.closed_le noSwitches _ raised
      obtain ⟨index, rfl⟩ := Nat.exists_eq_add_one_of_ne_zero positive.ne'
      simp only [raiseIndex_succ] at le ⊢
      omega
    · have bounds := around.closed_le entry before
      omega

def following : List Part → List Piece
  | [] => []
  | part :: rest =>
      .plain '|' :: .plain '(' :: .plain '?' :: .plain ':' ::
        (part.pieces ++ .plain ')' :: following rest)

def union : Nat → Part → List Part → Pattern
  | k, part, [] => part.pattern.raise k
  | k, part, next :: rest =>
      .alt (part.pattern.raise k) (union (part.final.opened + k) next rest)

/-- None of the patterns starts with switches, or names a group like one before it. -/
def Fit : List String → List Part → Prop
  | _, [] => True
  | taken, part :: rest =>
      ¬StartsWithSwitches part.pieces ∧ (∀ name ∈ part.names, name ∉ taken) ∧
        Fit (part.names ++ taken) rest

/-- Behind a group, none of the patterns refers to a group by its number. -/
def ReferByName : Nat → List Part → Prop
  | _, [] => True
  | k, part :: rest =>
      (k = 0 ∨ ¬RefersByNumber part.pieces) ∧ ReferByName (part.final.opened + k) rest

theorem isBarOrEnd_following (rest : List Part) : IsBarOrEnd (following rest) := by
  cases rest with
  | nil => exact .inl rfl
  | cons part rest => exact .inr rfl

section Several

variable {around : Surroundings} {part : Part}

theorem names_embed (final : State) :
    (around.embed final).names.map (·.1) = final.names.map (·.1) ++ around.names.map (·.1) := by
  simp [embed, Function.comp_def]

theorem opening_behind (noSwitches : ¬StartsWithSwitches part.pieces) {next : Part}
    {rest : List Part} (stops : around.rest = following (next :: rest)) :
    { around.passed part.final with pieces := (around.passed part.final).pieces.tail } =
      (around.behind noSwitches (following rest)).opening next.pieces := by
  have outside := Part.lookbehind?_final noSwitches
  simp [passed, opening, behind, embed, start, following, outside, raiseEntries, stops]

theorem asked_le_behind (asked : ∀ index ∈ around.asked, index ≤ around.opened) :
    ∀ index ∈ (around.embed part.final).asked, index ≤ part.final.opened + around.opened := by
  intro index inside
  rcases List.mem_append.mp inside with own | before
  · obtain ⟨index, raised, rfl⟩ := List.mem_map.mp own
    exact (raiseIndex_le _ _).trans (Nat.add_le_add_right (part.asked_le index raised) _)
  · exact Nat.le_add_left_of_le (asked index before)

theorem alternativesAfter_end {s : State} (ended : s.pieces = []) (n : Nat) (p : Pattern) :
    alternativesAfter {} n p s = .ok (p, s) :=
  bind_of_ok (run_take_of_end '|' ended)

theorem alternativesAfter_bar {s : State} (bar : s.pieces.head? = some (.plain '|')) (n : Nat)
    (p : Pattern) :
    alternativesAfter {} n p s =
      (do return .alt p (← readAlternatives {} n) : Reader Pattern)
        { s with pieces := s.pieces.tail } := by
  have taken := run_take '|' s
  rw [if_pos bar] at taken
  exact bind_of_ok taken

theorem length_opening :
    (around.opening part.pieces).pieces.length =
      part.pieces.length + around.rest.length + 4 := by
  simp only [opening, List.length_cons, List.length_append]
  omega

theorem readAlternatives_part (noSwitches : ¬StartsWithSwitches part.pieces)
    (byName : around.opened = 0 ∨ ¬RefersByNumber part.pieces)
    (apart : ∀ name ∈ part.names, name ∉ around.names.map (·.1))
    (stops : IsBarOrEnd around.rest) {n : Nat}
    (enough : 4 * (around.opening part.pieces).pieces.length + 8 ≤ n + 1) :
    readAlternatives {} (n + 1) (around.opening part.pieces) =
      alternativesAfter {} n (part.pattern.raise around.opened) (around.passed part.final) := by
  rw [length_opening] at enough
  rw [readAlternatives_succ]
  exact bind_of_ok (readItems_part noSwitches byName apart stops (by omega))

theorem enough_behind (noSwitches : ¬StartsWithSwitches part.pieces) {next : Part}
    {rest : List Part} (stops : around.rest = following (next :: rest)) {n : Nat}
    (enough : 4 * (around.opening part.pieces).pieces.length + 8 ≤ n + 1) :
    4 * ((around.behind noSwitches (following rest)).opening next.pieces).pieces.length + 8 ≤
      n := by
  rw [length_opening] at enough ⊢
  rw [stops] at enough
  simp only [following, List.length_cons, List.length_append] at enough
  change 4 * (next.pieces.length + (following rest).length + 4) + 8 ≤ n
  omega

theorem readAlternatives_union (rest : List Part) {n : Nat} (stops : around.rest = following rest)
    (fit : Fit (around.names.map (·.1)) (part :: rest))
    (numbered : ReferByName around.opened (part :: rest))
    (asked : ∀ index ∈ around.asked, index ≤ around.opened)
    (enough : 4 * (around.opening part.pieces).pieces.length + 8 ≤ n) :
    ∃ s, readAlternatives {} n (around.opening part.pieces) =
        .ok (union around.opened part rest, s) ∧
      s.pieces = [] ∧ ∀ index ∈ s.asked, index ≤ s.opened := by
  -- On the patterns that follow: for them, the groups of this one are around as well.
  induction rest generalizing around part n with
  | nil =>
      obtain ⟨noSwitches, apart, -⟩ := fit
      obtain ⟨n, rfl⟩ := Nat.exists_eq_add_one_of_ne_zero (show n ≠ 0 by omega)
      have ended : (around.passed part.final).pieces = [] := stops
      rw [readAlternatives_part noSwitches numbered.1 apart (.inl stops) enough,
        alternativesAfter_end ended]
      exact ⟨_, rfl, ended, asked_le_behind asked⟩
  | cons next rest ih =>
      obtain ⟨noSwitches, apart, fits⟩ := fit
      obtain ⟨n, rfl⟩ := Nat.exists_eq_add_one_of_ne_zero (show n ≠ 0 by omega)
      have bar : (around.passed part.final).pieces.head? = some (.plain '|') :=
        congrArg List.head? stops
      let after := around.behind noSwitches (following rest)
      have fits : Fit (after.names.map (·.1)) (next :: rest) := names_embed part.final ▸ fits
      obtain ⟨s, read, ended, asked'⟩ := ih rfl fits numbered.2 (asked_le_behind asked)
        (enough_behind noSwitches stops enough)
      rw [readAlternatives_part noSwitches numbered.1 apart (stops ▸ isBarOrEnd_following _) enough,
        alternativesAfter_bar bar, opening_behind noSwitches stops, bind_of_ok read]
      exact ⟨s, rfl, ended, asked'⟩

theorem part_fits_of_readAlternatives (byName : around.opened = 0 ∨ ¬RefersByNumber part.pieces)
    {n : Nat} (enough : 4 * (around.opening part.pieces).pieces.length + 8 ≤ n)
    {result : Pattern × State}
    (read : readAlternatives {} n (around.opening part.pieces) = .ok result) :
    ¬StartsWithSwitches part.pieces ∧ ∀ name ∈ part.names, name ∉ around.names.map (·.1) := by
  obtain ⟨n, rfl⟩ := Nat.exists_eq_add_one_of_ne_zero (show n ≠ 0 by omega)
  rw [length_opening] at enough
  rw [readAlternatives_succ] at read
  obtain ⟨_, _, first, _⟩ := bind_eq_ok_iff.mp read
  by_contra bad
  rw [not_and_or, not_not] at bad
  exact readItems_part_ne_ok byName bad (show _ ≤ n by omega) _ first

theorem fit_of_readAlternatives (rest : List Part) {n : Nat}
    (stops : around.rest = following rest)
    (numbered : ReferByName around.opened (part :: rest))
    (enough : 4 * (around.opening part.pieces).pieces.length + 8 ≤ n) {result : Pattern × State}
    (read : readAlternatives {} n (around.opening part.pieces) = .ok result) :
    Fit (around.names.map (·.1)) (part :: rest) := by
  obtain ⟨noSwitches, apart⟩ := part_fits_of_readAlternatives numbered.1 enough read
  induction rest generalizing around part n result with
  | nil => exact ⟨noSwitches, apart, trivial⟩
  | cons next rest ih =>
      obtain ⟨n, rfl⟩ := Nat.exists_eq_add_one_of_ne_zero (show n ≠ 0 by omega)
      have bar : (around.passed part.final).pieces.head? = some (.plain '|') :=
        congrArg List.head? stops
      rw [readAlternatives_part noSwitches numbered.1 apart (stops ▸ isBarOrEnd_following _) enough,
        alternativesAfter_bar bar, opening_behind noSwitches stops] at read
      obtain ⟨_, _, later, _⟩ := bind_eq_ok_iff.mp read
      have enough := enough_behind noSwitches stops enough
      obtain ⟨noSwitches', apart'⟩ := part_fits_of_readAlternatives numbered.2.1 enough later
      have fits := ih rfl numbered.2 enough later noSwitches' apart'
      exact ⟨noSwitches, apart, names_embed part.final ▸ fits⟩

end Several

end NativeVariants.Pattern
