import NativeVariants.Proofs.Problems

set_option autoImplicit false

/-!
Failures that are no problems. Nobody reports them, so a run that ends with one of them goes astray.
A computation of several steps goes astray if its first step does, or if that returns and the rest
goes astray.
-/

namespace NativeVariants

/-- The failure is no problem. -/
def Failure.IsStray (failure : Failure) : Prop := ∀ problem, failure ≠ .problem problem

/-- The result is a failure that is no problem. -/
def Strays {α : Type} (result : Except Failure α) : Prop :=
  ∃ failure, result = .error failure ∧ failure.IsStray

@[simp]
theorem Failure.not_isStray_problem (problem : Problem) : ¬(Failure.problem problem).IsStray :=
  fun stray => stray problem rfl

variable {α β σ : Type}

namespace Strays

theorem error {failure : Failure} (stray : failure.IsStray) :
    Strays (.error failure : Except Failure α) := ⟨failure, rfl, stray⟩

@[simp]
theorem not_ok (a : α) : ¬Strays (.ok a) := by
  rintro ⟨_, failed, _⟩
  cases failed

@[simp]
theorem error_iff {failure : Failure} :
    Strays (.error failure : Except Failure α) ↔ failure.IsStray := by
  constructor
  · rintro ⟨_, same, stray⟩
    cases same
    exact stray
  · exact error

@[simp]
theorem not_pure (a : α) : ¬Strays (pure a : Except Failure α) := not_ok a

@[simp]
theorem throw_iff {failure : Failure} :
    Strays (throw failure : Except Failure α) ↔ failure.IsStray := error_iff

theorem not_reported (result : Except Problem α) : ¬Strays (reported result) := by
  cases result with
  | ok a => exact not_ok a
  | error problem => exact fun astray => Failure.not_isStray_problem problem (error_iff.mp astray)

theorem bind_iff {x : Except Failure α} {f : α → Except Failure β} :
    Strays (x >>= f) ↔ Strays x ∨ ∃ a, x = .ok a ∧ Strays (f a) := by
  cases x with
  | error failure =>
      change Strays (.error failure : Except Failure β) ↔ _
      simp
  | ok a =>
      change Strays (f a) ↔ _
      simp

theorem map_iff {x : Except Failure α} {f : α → β} : Strays (x.map f) ↔ Strays x := by
  cases x with
  | error failure =>
      change Strays (.error failure : Except Failure β) ↔ _
      simp
  | ok a =>
      change Strays (.ok (f a) : Except Failure β) ↔ _
      simp

theorem of_failsOnly {result : Except Failure α} {failure : Failure}
    (quiet : FailsOnly (Failure.IfProblem fun _ => False) result)
    (failed : result = .error failure) : Strays result :=
  ⟨failure, failed, fun problem same => quiet failure failed problem same⟩

/-- If the first part reports nothing and what it returns does not matter, either part may go
astray. -/
theorem bind_iff_of_quiet {x : Except Failure α} {f : α → Except Failure β} {P : Prop}
    (quiet : FailsOnly (Failure.IfProblem fun _ => False) x) (next : ∀ a, Strays (f a) ↔ P) :
    Strays (x >>= f) ↔ Strays x ∨ P := by
  rw [bind_iff]
  constructor
  · rintro (first | ⟨a, _, later⟩)
    · exact .inl first
    · exact .inr ((next a).mp later)
  · rintro (first | holds)
    · exact .inl first
    · cases x with
      | error failure => exact .inl (of_failsOnly quiet rfl)
      | ok a => exact .inr ⟨a, rfl, (next a).mpr holds⟩

theorem of_reports {x : Stateful σ α} {failure : Failure} {s s' : σ}
    (quiet : Reports (fun _ => False) x) (failed : runFrom x s = (.error failure, s')) :
    Strays (runFrom x s).1 := by
  rw [failed]
  refine error fun problem same => ?_
  rw [same] at failed
  exact quiet.of_run failed

theorem iff_not_returned {x : Stateful σ α} {s : σ} (quiet : Reports (fun _ => False) x) :
    Strays (runFrom x s).1 ↔ ¬∃ a s', runFrom x s = (.ok a, s') := by
  rcases ran : runFrom x s with ⟨failure | a, s'⟩
  · have astray := of_reports quiet ran
    rw [ran] at astray
    exact iff_of_true astray (by simp)
  · exact iff_of_false (not_ok a) (not_not_intro ⟨a, s', rfl⟩)

/-- A computation that goes astray does so in one of its two parts. -/
theorem runFrom_bind_iff {x : Stateful σ α} {f : α → Stateful σ β} {s : σ} :
    Strays (runFrom (x >>= f) s).1 ↔ Strays (runFrom x s).1 ∨
      ∃ a s', runFrom x s = (.ok a, s') ∧ Strays (runFrom (f a) s').1 := by
  rw [runFrom_bind]
  rcases runFrom x s with ⟨failure | a, s'⟩
  · simp
  · constructor
    · exact fun astray => .inr ⟨a, s', rfl, astray⟩
    · rintro (first | ⟨a', s₁, same, astray⟩)
      · exact absurd first (not_ok a)
      · cases same
        exact astray

/-- A loop goes astray in the first of its turns that does. -/
theorem runFrom_forM_iff {xs : List α} {f : α → Stateful σ PUnit} {s : σ} :
    Strays (runFrom (xs.forM f) s).1 ↔ ∃ before a after s', xs = before ++ a :: after ∧
      runFrom (before.forM f) s = (.ok ⟨⟩, s') ∧ Strays (runFrom (f a) s').1 := by
  induction xs generalizing s with
  | nil =>
      constructor
      · exact fun astray => absurd astray (not_ok _)
      · rintro ⟨before, a, after, _, split, _⟩
        cases before <;> cases split
  | cons b rest ih =>
      rw [forM_cons, runFrom_bind_iff]
      constructor
      · rintro (first | ⟨_, s₁, ran, later⟩)
        · exact ⟨[], b, rest, s, rfl, rfl, first⟩
        · obtain ⟨before, a, after, s', rfl, reached, astray⟩ := ih.mp later
          refine ⟨b :: before, a, after, s', rfl, ?_, astray⟩
          rw [forM_cons, runFrom_bind_of_ok ran]
          exact reached
      · rintro ⟨before, a, after, s', split, reached, astray⟩
        cases before with
        | nil =>
            obtain ⟨rfl, rfl⟩ := List.cons.inj split
            cases reached
            exact .inl astray
        | cons c before =>
            obtain ⟨rfl, rfl⟩ := List.cons.inj split
            rw [forM_cons] at reached
            obtain ⟨_, s₁, ran, later⟩ := runFrom_bind_eq_ok.mp reached
            exact .inr ⟨_, s₁, ran, ih.mpr ⟨before, a, after, s', rfl, later, astray⟩⟩

/-- A loop that reports nothing goes astray if one of its turns does where that is reached. -/
theorem runFrom_forM_of_turn {before after : List α} {a : α} {f : α → Stateful σ PUnit} {s : σ}
    (quiet : ∀ a, Reports (fun _ => False) (f a))
    (turn : ∀ s', runFrom (before.forM f) s = (.ok ⟨⟩, s') → Strays (runFrom (f a) s').1) :
    Strays (runFrom ((before ++ a :: after).forM f) s).1 := by
  rw [forM_append, runFrom_bind_iff]
  rcases ran : runFrom (before.forM f) s with ⟨failure | _, s'⟩
  · left
    rw [← ran]
    exact of_reports (reports_forM fun a _ => quiet a) ran
  · right
    refine ⟨_, s', rfl, ?_⟩
    rw [forM_cons, runFrom_bind_iff]
    exact .inl (turn s' ran)

end Strays

def NeverStrays (x : Stateful σ α) : Prop := ∀ s, ¬Strays (runFrom x s).1

namespace NeverStrays

theorem of_returns {x : Stateful σ α} (returns : ∀ s, ∃ a, (runFrom x s).1 = .ok a) :
    NeverStrays x := by
  intro s astray
  obtain ⟨a, returned⟩ := returns s
  rw [returned] at astray
  exact Strays.not_ok a astray

theorem pure (a : α) : NeverStrays (pure a : Stateful σ α) := fun _ => Strays.not_ok a

theorem get : NeverStrays (get : Stateful σ σ) := fun s => Strays.not_ok s

theorem modify (f : σ → σ) : NeverStrays (modify f : Stateful σ PUnit) := fun _ => Strays.not_ok _

theorem bind {x : Stateful σ α} {f : α → Stateful σ β} (first : NeverStrays x)
    (next : ∀ a, NeverStrays (f a)) : NeverStrays (x >>= f) := by
  intro s astray
  rcases Strays.runFrom_bind_iff.mp astray with here | ⟨a, s', _, later⟩
  · exact first s here
  · exact next a s' later

theorem ite {condition : Prop} [Decidable condition] {x y : Stateful σ α} (yes : NeverStrays x)
    (no : NeverStrays y) : NeverStrays (if condition then x else y) := by
  split
  · exact yes
  · exact no

theorem mapM {xs : List α} {f : α → Stateful σ β} (each : ∀ a ∈ xs, NeverStrays (f a)) :
    NeverStrays (xs.mapM f) := by
  induction xs with
  | nil => exact pure _
  | cons a rest ih =>
      rw [List.mapM_cons]
      refine (each a List.mem_cons_self).bind fun b => ?_
      exact (ih fun c inRest => each c (List.mem_cons_of_mem a inRest)).bind fun bs => pure _

theorem forM {xs : List α} {f : α → Stateful σ PUnit} (each : ∀ a ∈ xs, NeverStrays (f a)) :
    NeverStrays (xs.forM f) := by
  intro s astray
  obtain ⟨before, a, after, s', split, _, here⟩ := Strays.runFrom_forM_iff.mp astray
  exact each a (by simp [split]) s' here

end NeverStrays

end NativeVariants
