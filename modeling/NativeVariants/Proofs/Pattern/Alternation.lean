import NativeVariants.Proofs.Pattern.Alternatives

set_option autoImplicit false

/-!
The text of several patterns as alternatives. If each can be read by itself, and none refers to a
group by its number behind a pattern with groups, then the alternation can be read exactly if no
pattern starts with switches and no two name a group alike (`exists_read_alternation_iff`). What it
matches is what one of them matches by itself (`matchesAll_alternation`).
-/

namespace NativeVariants.Pattern
open Text Reader Surroundings

/-- The patterns as alternatives, each in a group that keeps nothing. -/
def alternation (texts : List String) : String :=
  "|".intercalate (texts.map fun text => "(?:" ++ text ++ ")")

/-- Nothing is around the whole, and the first pattern is followed by the others. -/
def Surroundings.outermost (rest : List Part) : Surroundings :=
  { alone with rest := following rest }

theorem pieces_group (part : Part) (after : List Char) :
    pieces (("(?:" ++ part.text ++ ")").toList ++ after) =
      (pieces after).map fun ps =>
        .plain '(' :: .plain '?' :: .plain ':' :: (part.pieces ++ .plain ')' :: ps) := by
  have opens : pieces "(?:".toList = .ok [.plain '(', .plain '?', .plain ':'] := rfl
  have closes : pieces ")".toList = .ok [.plain ')'] := rfl
  rw [String.toList_append, String.toList_append, List.append_assoc, List.append_assoc,
    pieces_append opens, pieces_append part.cut, pieces_append closes]
  cases pieces after with
  | error fault => rfl
  | ok ps => rfl

theorem pieces_alternation (part : Part) (rest : List Part) :
    pieces (alternation ((part :: rest).map (·.text))).toList =
      .ok ((outermost rest).opening part.pieces).pieces := by
  unfold alternation
  rw [String.toList_intercalate]
  induction rest generalizing part with
  | nil =>
      have alone := pieces_group part []
      rw [List.append_nil] at alone
      simp only [List.map_cons, List.map_nil, List.intercalate_singleton]
      exact alone
  | cons next rest ih =>
      have bar : pieces "|".toList = .ok [.plain '|'] := rfl
      simp only [List.map_cons] at ih ⊢
      rw [List.intercalate_cons_cons, List.append_assoc, pieces_group, pieces_append bar, ih]
      rfl

theorem readPieces_alternation (part : Part) (rest : List Part) :
    readPieces ((outermost rest).opening part.pieces).pieces =
      readAlternatives {} (4 * ((outermost rest).opening part.pieces).pieces.length + 8)
        ((outermost rest).opening part.pieces) := rfl

section Whole

variable {part : Part} {rest : List Part} (numbered : ReferByName 0 (part :: rest))

include numbered

theorem read_alternation (fit : Fit [] (part :: rest)) :
    Pattern.read (alternation ((part :: rest).map (·.text))) = .ok (union 0 part rest) := by
  obtain ⟨s, read, ended, asked⟩ :=
    @readAlternatives_union (outermost rest) part rest _ rfl fit numbered nofun (Nat.le_refl _)
  rw [read_of_cut (pieces_alternation part rest), readPieces_alternation, read]
  change (if _ then _ else _) = _
  rw [if_pos]
  · rfl
  · simpa [ended] using asked

theorem fit_of_read_alternation {p : Pattern}
    (read : Pattern.read (alternation ((part :: rest).map (·.text))) = .ok p) :
    Fit [] (part :: rest) := by
  rw [read_of_cut (pieces_alternation part rest), readPieces_alternation] at read
  cases whole : readAlternatives {} (4 * ((outermost rest).opening part.pieces).pieces.length + 8)
      ((outermost rest).opening part.pieces) with
  | error fault =>
      rw [whole] at read
      cases read
  | ok result => exact fit_of_readAlternatives rest rfl numbered (Nat.le_refl _) whole

end Whole

theorem matchesAll_union (k : Nat) (part : Part) (rest : List Part) (text : String) :
    (union k part rest).matchesAll text =
      (part :: rest).any (·.pattern.matchesAll text) := by
  induction rest generalizing k part with
  | nil => simp [union, matchesAll_raise]
  | cons next rest ih => simp [union, matchesAll_alt, matchesAll_raise, ih]

/-! ### Groups of a text -/

/-- What is known of the groups of a text when it has been read by itself. -/
def final? (text : String) : Option State :=
  (pieces text.toList >>= readPieces).toOption.map (·.2)

def groupCount (text : String) : Nat := (final? text).elim 0 (·.opened)

def groupNames (text : String) : List String := (final? text).elim [] fun s => s.names.map (·.1)

def HasSwitches (text : String) : Prop :=
  ∃ ps, pieces text.toList = .ok ps ∧ StartsWithSwitches ps

def UsesNumbers (text : String) : Prop := ∃ ps, pieces text.toList = .ok ps ∧ RefersByNumber ps

instance (text : String) : Decidable (UsesNumbers text) :=
  match cut : pieces text.toList with
  | .ok ps => decidable_of_iff (RefersByNumber ps) (by simp [UsesNumbers, cut])
  | .error _ => .isFalse (by simp [UsesNumbers, cut])

/-- Whether the text by itself is a pattern that matches the whole name. -/
def fullMatches (text name : String) : Bool :=
  match Pattern.read text with
  | .ok p => p.matchesAll name
  | .error _ => false

/-- Behind a pattern with groups, none refers to a group by its number. -/
def AreNumberedApart (texts : List String) : Prop :=
  texts.Pairwise fun before text => groupCount before = 0 ∨ ¬UsesNumbers text

instance (texts : List String) : Decidable (AreNumberedApart texts) :=
  inferInstanceAs (Decidable (texts.Pairwise fun before text =>
    groupCount before = 0 ∨ ¬UsesNumbers text))

/-- None of the patterns starts with switches, and no two name a group alike. -/
structure AreIsolated (texts : List String) : Prop where
  noSwitches : ∀ text ∈ texts, ¬HasSwitches text
  apart : texts.Pairwise fun before text => ∀ name ∈ groupNames text, name ∉ groupNames before

/-- Without a parenthesis in front there are no switches. -/
theorem areIsolated_of_head {texts : List String}
    (plain : ∀ text ∈ texts, text.toList.head? ≠ some '(')
    (apart : texts.Pairwise fun before text => ∀ name ∈ groupNames text, name ∉ groupNames before) :
    AreIsolated texts := by
  refine ⟨fun text inside switched => plain text inside ?_, apart⟩
  obtain ⟨ps, cut, starts⟩ := switched
  obtain ⟨rest, rfl⟩ := List.head?_eq_some_iff.mp starts.head?
  exact head?_of_pieces cut

namespace Part

variable (part : Part)

theorem final?_text : final? part.text = some part.final := by
  unfold final?
  rw [part.cut]
  change (readPieces part.pieces).toOption.map _ = _
  rw [part.read]
  rfl

theorem groupCount_text : groupCount part.text = part.final.opened := by
  rw [groupCount, part.final?_text]
  rfl

theorem groupNames_text : groupNames part.text = part.names := by
  rw [groupNames, part.final?_text]
  rfl

theorem hasSwitches_text : HasSwitches part.text ↔ StartsWithSwitches part.pieces := by
  unfold HasSwitches
  rw [part.cut]
  simp

theorem usesNumbers_text : UsesNumbers part.text ↔ RefersByNumber part.pieces := by
  unfold UsesNumbers
  rw [part.cut]
  simp

theorem fullMatches_text (name : String) :
    fullMatches part.text name = part.pattern.matchesAll name := by
  unfold fullMatches
  rw [read_eq_ok_iff.mpr ⟨part, rfl, rfl⟩]

end Part

theorem exists_parts {texts : List String}
    (readable : ∀ text ∈ texts, ∃ p, Pattern.read text = .ok p) :
    ∃ parts : List Part, parts.map (·.text) = texts := by
  induction texts with
  | nil => exact ⟨[], rfl⟩
  | cons text rest ih =>
      obtain ⟨p, read⟩ := readable text List.mem_cons_self
      obtain ⟨part, rfl, -⟩ := read_eq_ok_iff.mp read
      obtain ⟨parts, rfl⟩ := ih fun text inside => readable text (List.mem_cons_of_mem _ inside)
      exact ⟨part :: parts, rfl⟩

theorem areIsolated_cons {text : String} {rest : List String} :
    AreIsolated (text :: rest) ↔
      ¬HasSwitches text ∧ (∀ later ∈ rest, ∀ name ∈ groupNames later, name ∉ groupNames text) ∧
        AreIsolated rest := by
  constructor
  · rintro ⟨noSwitches, apart⟩
    obtain ⟨first, others⟩ := List.forall_mem_cons.mp noSwitches
    obtain ⟨names, apart⟩ := List.pairwise_cons.mp apart
    exact ⟨first, names, others, apart⟩
  · rintro ⟨first, names, others, apart⟩
    exact ⟨List.forall_mem_cons.mpr ⟨first, others⟩, List.pairwise_cons.mpr ⟨names, apart⟩⟩

theorem fit_iff (taken : List String) (parts : List Part) :
    Fit taken parts ↔
      AreIsolated (parts.map (·.text)) ∧
        ∀ part ∈ parts, ∀ name ∈ part.names, name ∉ taken := by
  induction parts generalizing taken with
  | nil => exact ⟨fun _ => ⟨⟨nofun, .nil⟩, nofun⟩, fun _ => trivial⟩
  | cons part rest ih =>
      rw [Fit, ih, List.map_cons, areIsolated_cons, part.hasSwitches_text]
      simp only [List.forall_mem_map, Part.groupNames_text, List.forall_mem_cons,
        List.mem_append, not_or]
      constructor
      · rintro ⟨noSwitches, fresh, isolated, apart⟩
        refine ⟨⟨noSwitches, fun later inside name own => ?_, isolated⟩, fresh, ?_⟩
        · exact (apart later inside name own).1
        · exact fun later inside name own => (apart later inside name own).2
      · rintro ⟨⟨noSwitches, apart, isolated⟩, fresh, others⟩
        refine ⟨noSwitches, fresh, isolated, fun later inside name own => ?_⟩
        exact ⟨apart later inside name own, others later inside name own⟩

theorem referByName_iff (k : Nat) (parts : List Part) :
    ReferByName k parts ↔
      AreNumberedApart (parts.map (·.text)) ∧
        (k = 0 ∨ ∀ part ∈ parts, ¬RefersByNumber part.pieces) := by
  induction parts generalizing k with
  | nil => exact ⟨fun _ => ⟨.nil, .inr nofun⟩, fun _ => trivial⟩
  | cons part rest ih =>
      rw [ReferByName, ih, AreNumberedApart, AreNumberedApart, List.map_cons, List.pairwise_cons]
      simp only [List.forall_mem_map, part.groupCount_text, Part.usesNumbers_text,
        List.forall_mem_cons, Nat.add_eq_zero_iff]
      by_cases first : k = 0
      · by_cases noGroups : part.final.opened = 0
        · simp [first, noGroups]
        · simp [first, noGroups, and_comm]
      · simp only [first, false_or, and_false]
        constructor
        · rintro ⟨named, apart, others⟩
          exact ⟨⟨fun later inside => .inr (others later inside), apart⟩, named, others⟩
        · rintro ⟨⟨_, apart⟩, named, others⟩
          exact ⟨named, apart, others⟩

section Readable

variable {texts : List String} (nonempty : texts ≠ [])
  (readable : ∀ text ∈ texts, ∃ p, Pattern.read text = .ok p) (numbered : AreNumberedApart texts)

include nonempty readable numbered

theorem exists_read_alternation_iff :
    (∃ p, Pattern.read (alternation texts) = .ok p) ↔ AreIsolated texts := by
  obtain ⟨parts, rfl⟩ := exists_parts readable
  obtain ⟨part, rest, rfl⟩ := List.exists_cons_of_ne_nil (by simpa using nonempty)
  have refer : ReferByName 0 (part :: rest) := (referByName_iff _ _).mpr ⟨numbered, .inl rfl⟩
  have fits : Fit [] (part :: rest) ↔ AreIsolated ((part :: rest).map (·.text)) := by
    simp [fit_iff]
  rw [← fits]
  constructor
  · rintro ⟨p, read⟩
    exact fit_of_read_alternation refer read
  · exact fun fit => ⟨_, read_alternation refer fit⟩

theorem matchesAll_alternation {p : Pattern} (read : Pattern.read (alternation texts) = .ok p)
    (name : String) : p.matchesAll name = texts.any (fullMatches · name) := by
  obtain ⟨parts, rfl⟩ := exists_parts readable
  obtain ⟨part, rest, rfl⟩ := List.exists_cons_of_ne_nil (by simpa using nonempty)
  have refer : ReferByName 0 (part :: rest) := (referByName_iff _ _).mpr ⟨numbered, .inl rfl⟩
  have known := read_alternation refer (fit_of_read_alternation refer read)
  obtain rfl : union 0 part rest = p := Except.ok.inj (known.symm.trans read)
  rw [matchesAll_union, List.any_map]
  simp only [Function.comp_def, Part.fullMatches_text]

end Readable

/-- Two patterns that give one name to a group of their own. -/
example : (Pattern.read (alternation ["(?P<x>a)", "(?P<x>b)"])).isOk = false := by decide +kernel

end NativeVariants.Pattern
