import NativeVariants.Proofs.Pattern.Pieces
import NativeVariants.Proofs.Pattern.Raising

set_option autoImplicit false

/-!
What stands around a pattern inside another one, and how a step of reading it there compares with
the same step by itself (`Mirrors`). Steps are compared one after the other
(`Mirrors.bind_of_goesOn`).
-/

namespace NativeVariants.Pattern
open Text Reader

variable {α β γ δ : Type}

/-! ### Readers -/

theorem bind_of_ok {x : Reader α} {f : α → Reader β} {s s' : State} {a : α}
    (first : x s = .ok (a, s')) : (x >>= f) s = f a s' := by
  change (x s >>= fun p => f p.1 p.2) = _
  rw [first]
  rfl

theorem bind_of_error {x : Reader α} {f : α → Reader β} {s : State} {fault : Fault}
    (first : x s = .error fault) : (x >>= f) s = .error fault := by
  change (x s >>= fun p => f p.1 p.2) = _
  rw [first]
  rfl

theorem bind_congr_run {x y : Reader α} {s s' : State} (same : x s = y s') (f : α → Reader β) :
    (x >>= f) s = (y >>= f) s' := by
  change (x s >>= fun p => f p.1 p.2) = (y s' >>= fun p => f p.1 p.2)
  rw [same]

theorem bind_eq_ok_iff {x : Reader α} {f : α → Reader β} {s s' : State} {b : β} :
    (x >>= f) s = .ok (b, s') ↔ ∃ a s₁, x s = .ok (a, s₁) ∧ f a s₁ = .ok (b, s') := by
  rcases first : x s with fault | ⟨a, s₁⟩
  · rw [bind_of_error first]
    simp
  · rw [bind_of_ok first]
    constructor
    · exact fun rest => ⟨a, s₁, rfl, rest⟩
    · rintro ⟨_, _, same, rest⟩
      cases same
      exact rest

/-! ### Surroundings -/

/-- What stands around a pattern inside another one: the groups before it, and the pieces behind the
parenthesis that closes it. -/
structure Surroundings where
  opened : Nat
  names : List (String × Nat)
  closed : List (Nat × Width)
  asked : List Nat
  rest : List Piece
  closed_le : ∀ entry ∈ closed, 0 < entry.1 ∧ entry.1 ≤ opened

namespace Surroundings

variable (around : Surroundings)

def embed (s : State) : State where
  pieces := s.pieces ++ .plain ')' :: around.rest
  opened := s.opened + around.opened
  names := s.names.map (fun (name, index) => (name, raiseIndex around.opened index)) ++ around.names
  closed := raiseEntries around.opened s.closed ++ around.closed
  lookbehind? := s.lookbehind?.map (· + around.opened)
  asked := s.asked.map (raiseIndex around.opened) ++ around.asked

/-- No name has been taken before. -/
def Apart (s : State) : Prop := ∀ name ∈ s.names.map (·.1), name ∉ around.names.map (·.1)

/-- What is kept while a pattern is read that may stand here. -/
structure Sound (s : State) : Prop where
  byName : around.opened = 0 ∨ ¬RefersByNumber s.pieces
  closed_le : ∀ entry ∈ s.closed, 0 < entry.1 ∧ entry.1 ≤ s.opened

/-- From `s` to `s'` the pattern was read by itself. Inside the other one, reading has the given
result. -/
structure Mirrored (s s' : State) (result : Except Fault (β × State)) (b : β) : Prop where
  names : s.names <:+ s'.names
  opened : s.opened ≤ s'.opened
  lookbehind : s'.lookbehind? = s.lookbehind?
  sound : around.Sound s'
  ok : around.Apart s' → result = .ok (b, around.embed s')
  clash : around.Apart s → ¬around.Apart s' → ∃ fault, result = .error fault

/-- What `x` reads by itself, `y` reads inside the other pattern. If `goesOn` holds, then only if
the text goes on afterwards. -/
def Mirrors (goesOn : Prop) (s : State) (x : Reader α) (y : Reader β) (f : α → β) : Prop :=
  ∀ a s', around.Sound s → x s = .ok (a, s') → (goesOn → s'.pieces ≠ []) →
    around.Mirrored s s' (y (around.embed s)) (f a)

variable {around}

theorem Apart.of_suffix {s s' : State} (apart : around.Apart s') (grown : s.names <:+ s'.names) :
    around.Apart s := fun name inside => apart name ((grown.map _).subset inside)

theorem Sound.of_pieces {s : State} (sound : around.Sound s) {ps : List Piece}
    (suffix : ps <:+ s.pieces) : around.Sound { s with pieces := ps } where
  byName := sound.byName.imp_right fun none refers => none (refers.of_suffix suffix)
  closed_le := sound.closed_le

section Lookups

variable (around) (s : State)

theorem lookup_closed (index : Nat) :
    (around.embed s).closed.lookup (raiseIndex around.opened index) = s.closed.lookup index := by
  have fresh : around.closed.lookup (raiseIndex around.opened index) = none := by
    rw [List.lookup_eq_none_iff]
    intro entry inside
    have bounds := around.closed_le entry inside
    rw [bne_iff_ne]
    unfold raiseIndex
    split <;> omega
  simp only [embed]
  rw [List.lookup_append, lookup_raiseEntries, fresh, Option.or_none]

theorem lookup_names (name : String) :
    (around.embed s).names.lookup name =
      ((s.names.lookup name).map (raiseIndex around.opened)).or (around.names.lookup name) := by
  have own (names : List (String × Nat)) :
      (names.map fun (name, index) => (name, raiseIndex around.opened index)).lookup name =
        (names.lookup name).map (raiseIndex around.opened) := by
    induction names with
    | nil => rfl
    | cons entry rest ih =>
        obtain ⟨other, index⟩ := entry
        simp only [List.map_cons, List.lookup_cons, ih]
        cases name == other <;> rfl
  simp only [embed]
  rw [List.lookup_append, own]

end Lookups

namespace Mirrors

variable {goesOn goesOn' : Prop} {s : State} {x : Reader α} {y : Reader β} {f : α → β}

theorem of_fails (fails : ∀ a s', x s ≠ .ok (a, s')) : around.Mirrors goesOn s x y f :=
  fun a s' _ read _ => absurd read (fails a s')

theorem malformed : around.Mirrors goesOn s Reader.malformed y f := of_fails nofun

/-- A step that takes pieces and leaves the rest of the state as it is. -/
theorem of_takes (takes : ∀ a s', x s = .ok (a, s') → ∃ ps, ps <:+ s.pieces ∧
      s' = { s with pieces := ps } ∧ y (around.embed s) = .ok (f a, around.embed s')) :
    around.Mirrors goesOn s x y f := by
  intro a s' sound read _
  obtain ⟨ps, suffix, rfl, other⟩ := takes a s' read
  exact ⟨List.suffix_rfl, Nat.le_refl _, rfl, sound.of_pieces suffix, fun _ => other,
    fun apart clash => absurd apart clash⟩

theorem of_run (a : α) (ps : List Piece) (own : x s = .ok (a, { s with pieces := ps }))
    (suffix : ps <:+ s.pieces)
    (other : y (around.embed s) = .ok (f a, around.embed { s with pieces := ps })) :
    around.Mirrors goesOn s x y f := by
  refine of_takes fun b s' read => ?_
  rw [own] at read
  cases read
  exact ⟨ps, suffix, rfl, other⟩

theorem pure {a : α} {b : β} (same : f a = b) : around.Mirrors goesOn s (pure a) (pure b) f :=
  of_run a s.pieces rfl List.suffix_rfl (same ▸ rfl)

theorem bind_of_goesOn {g : γ → δ} {k : α → Reader γ} {k' : β → Reader δ}
    (first : around.Mirrors goesOn' s x y f)
    (inner : ∀ a s₁ c s', k a s₁ = .ok (c, s') → (goesOn → s'.pieces ≠ []) → goesOn' →
      s₁.pieces ≠ [])
    (rest : ∀ a s₁, x s = .ok (a, s₁) → s.opened ≤ s₁.opened →
      around.Mirrors goesOn s₁ (k a) (k' (f a)) g) :
    around.Mirrors goesOn s (x >>= k) (y >>= k') g := by
  intro c s' sound read ends
  obtain ⟨a, s₁, own, later⟩ := bind_eq_ok_iff.mp read
  have one := first a s₁ sound own (inner a s₁ c s' later ends)
  have two := rest a s₁ own one.opened c s' one.sound later ends
  refine ⟨one.names.trans two.names, one.opened.trans two.opened,
    two.lookbehind.trans one.lookbehind, two.sound, fun apart => ?_, fun apart clash => ?_⟩
  · rw [bind_of_ok (one.ok (apart.of_suffix two.names))]
    exact two.ok apart
  · by_cases still : around.Apart s₁
    · rw [bind_of_ok (one.ok still)]
      exact two.clash still clash
    · obtain ⟨fault, failed⟩ := one.clash apart still
      exact ⟨fault, bind_of_error failed⟩

theorem bind {g : γ → δ} {k : α → Reader γ} {k' : β → Reader δ}
    (first : around.Mirrors False s x y f)
    (rest : ∀ a s₁, x s = .ok (a, s₁) → around.Mirrors goesOn s₁ (k a) (k' (f a)) g) :
    around.Mirrors goesOn s (x >>= k) (y >>= k') g :=
  first.bind_of_goesOn (fun _ _ _ _ _ _ => False.elim) fun a s₁ own _ => rest a s₁ own

theorem of_sound (read : around.Sound s → around.Mirrors goesOn s x y f) :
    around.Mirrors goesOn s x y f := fun a s' sound => read sound a s' sound

theorem get_bind {k : State → Reader α} {k' : State → Reader β}
    (rest : around.Mirrors goesOn s (k s) (k' (around.embed s)) f) :
    around.Mirrors goesOn s (get >>= k) (get >>= k') f := rest

theorem ite {p : Prop} [Decidable p] {x' : Reader α} {y' : Reader β}
    (yes : p → around.Mirrors goesOn s x y f) (no : ¬p → around.Mirrors goesOn s x' y' f) :
    around.Mirrors goesOn s (if p then x else x') (if p then y else y') f := by
  by_cases holds : p
  · simpa only [if_pos holds] using yes holds
  · simpa only [if_neg holds] using no holds

theorem check {p : Prop} [Decidable p] {rest : Unit → Reader α} {rest' : Unit → Reader β}
    (goes : ¬p → around.Mirrors goesOn s (rest ()) (rest' ()) f) :
    around.Mirrors goesOn s (if p then Reader.malformed >>= rest else rest ())
      (if p then Reader.malformed >>= rest' else rest' ()) f :=
  ite (fun _ => of_fails nofun) goes

end Mirrors

end Surroundings

end NativeVariants.Pattern
