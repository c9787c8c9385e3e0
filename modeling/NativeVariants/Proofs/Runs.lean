import Mathlib.Order.Defs.Unbundled
import NativeVariants.Failure

set_option autoImplicit false

/-!
Computations that may fail and keep their state either way: what a run does on its machine, and
what the collection of a header does to its progress.

`runFrom` gives the result together with the state that is left. A successful computation is taken
apart by `runFrom_bind_eq_ok`; `Respects` carries a relation between the state before and the state
after through a whole computation, failures included.
-/

namespace NativeVariants

/-- A computation on a state. What it did before a failure stays done. -/
abbrev Stateful (σ α : Type) := ExceptT Failure (StateM σ) α

variable {σ α β : Type}

/-- The result of a computation and the state that it leaves. -/
def runFrom (x : Stateful σ α) (s : σ) : Except Failure α × σ := x.run.run s

@[simp]
theorem runFrom_pure (a : α) (s : σ) : runFrom (pure a) s = (.ok a, s) := rfl

@[simp]
theorem runFrom_throw (e : Failure) (s : σ) :
    runFrom (throw e : Stateful σ α) s = (.error e, s) := rfl

@[simp]
theorem runFrom_get (s : σ) : runFrom (get : Stateful σ σ) s = (.ok s, s) := rfl

@[simp]
theorem runFrom_modify (f : σ → σ) (s : σ) :
    runFrom (modify f : Stateful σ PUnit) s = (.ok ⟨⟩, f s) := rfl

@[simp]
theorem runFrom_ofExcept (r : Except Failure α) (s : σ) :
    runFrom (ofExcept r : Stateful σ α) s = (r, s) := by
  cases r <;> rfl

theorem runFrom_bind (x : Stateful σ α) (f : α → Stateful σ β) (s : σ) :
    runFrom (x >>= f) s =
      match runFrom x s with
      | (.ok a, s') => runFrom (f a) s'
      | (.error e, s') => (.error e, s') := by
  have unfolded : runFrom (x >>= f) s =
      (ExceptT.bindCont f (runFrom x s).1 : StateM σ (Except Failure β)).run (runFrom x s).2 := rfl
  rw [unfolded]
  rcases runFrom x s with ⟨_ | a, s'⟩ <;> rfl

theorem runFrom_bind_of_ok {x : Stateful σ α} {s s' : σ} {a : α}
    (ran : runFrom x s = (.ok a, s')) (f : α → Stateful σ β) :
    runFrom (x >>= f) s = runFrom (f a) s' := by
  rw [runFrom_bind, ran]

theorem runFrom_bind_of_error {x : Stateful σ α} {s s' : σ} {e : Failure}
    (ran : runFrom x s = (.error e, s')) (f : α → Stateful σ β) :
    runFrom (x >>= f) s = (.error e, s') := by
  rw [runFrom_bind, ran]

/-- A computation that returns has returned from both of its parts. -/
theorem runFrom_bind_eq_ok {x : Stateful σ α} {f : α → Stateful σ β} {s s'' : σ} {b : β} :
    runFrom (x >>= f) s = (.ok b, s'') ↔
      ∃ a s', runFrom x s = (.ok a, s') ∧ runFrom (f a) s' = (.ok b, s'') := by
  rw [runFrom_bind]
  rcases ran : runFrom x s with ⟨_ | a, s'⟩
  · simp
  · constructor
    · intro returned
      exact ⟨a, s', rfl, returned⟩
    · rintro ⟨a', s₁, same, returned⟩
      cases same
      exact returned

/-- A computation that fails has failed in one of its parts. -/
theorem runFrom_bind_eq_error {x : Stateful σ α} {f : α → Stateful σ β} {s s'' : σ} {e : Failure} :
    runFrom (x >>= f) s = (.error e, s'') ↔
      runFrom x s = (.error e, s'') ∨
        ∃ a s', runFrom x s = (.ok a, s') ∧ runFrom (f a) s' = (.error e, s'') := by
  rw [runFrom_bind]
  rcases ran : runFrom x s with ⟨e' | a, s'⟩
  · simp
  · constructor
    · intro failed
      exact .inr ⟨a, s', rfl, failed⟩
    · rintro (failed | ⟨a', s₁, same, failed⟩)
      · cases failed
      · cases same
        exact failed

theorem forM_cons (a : α) (rest : List α) (f : α → Stateful σ PUnit) :
    (a :: rest).forM f = f a >>= fun _ => rest.forM f := rfl

theorem forM_append (xs ys : List α) (f : α → Stateful σ PUnit) :
    (xs ++ ys).forM f = xs.forM f >>= fun _ => ys.forM f := by
  simp only [List.forM_eq_forM, List.forM_append]

theorem runFrom_map (g : α → β) (x : Stateful σ α) (s : σ) :
    runFrom (g <$> x) s = ((runFrom x s).1.map g, (runFrom x s).2) := by
  change runFrom (x >>= fun a => pure (g a)) s = _
  rw [runFrom_bind]
  rcases runFrom x s with ⟨_ | a, s'⟩ <;> rfl

theorem runFrom_tryCatch (x : Stateful σ α) (recover : Failure → Stateful σ α) (s : σ) :
    runFrom (tryCatch x recover) s =
      match runFrom x s with
      | (.ok a, s') => (.ok a, s')
      | (.error e, s') => runFrom (recover e) s' := by
  unfold runFrom
  rw [ExceptT.run_tryCatch, StateT.run_bind]
  rcases StateT.run (ExceptT.run x) s with ⟨_ | a, s'⟩ <;> rfl

/-! ### What is returned -/

theorem exists_of_result {x : Stateful σ α} {s : σ} {r : Except Failure α}
    (ends : (runFrom x s).1 = r) : ∃ s', runFrom x s = (r, s') :=
  ⟨(runFrom x s).2, Prod.ext ends rfl⟩

theorem exists_of_isOk {x : Stateful σ α} {s : σ} (returns : (runFrom x s).1.isOk = true) :
    ∃ a s', runFrom x s = (.ok a, s') := by
  rcases ran : runFrom x s with ⟨e | a, s'⟩
  · rw [ran] at returns
    cases returns
  · exact ⟨a, s', rfl⟩

/-- The computation returns the value, whatever was done before. -/
def Returns (x : Stateful σ α) (a : α) : Prop := ∀ s, (runFrom x s).1 = .ok a

theorem Returns.runFrom_bind {x : Stateful σ α} {a : α} (returns : Returns x a)
    (f : α → Stateful σ β) (s : σ) : runFrom (x >>= f) s = runFrom (f a) (runFrom x s).2 := by
  obtain ⟨s', ran⟩ := exists_of_result (returns s)
  rw [runFrom_bind_of_ok ran, ran]

theorem returns_forM {xs : List α} {f : α → Stateful σ PUnit}
    (each : ∀ a ∈ xs, Returns (f a) ⟨⟩) : Returns (xs.forM f) ⟨⟩ := by
  induction xs with
  | nil => exact fun _ => rfl
  | cons a rest ih =>
      intro s
      rw [forM_cons, (each a List.mem_cons_self).runFrom_bind]
      apply ih
      exact fun b inRest => each b (List.mem_cons_of_mem a inRest)

/-- A failure that is caught and passed over does not keep a computation from returning. -/
theorem returns_passOver (x : Stateful σ PUnit) : Returns (tryCatch x fun _ => pure ⟨⟩) ⟨⟩ := by
  intro s
  rw [runFrom_tryCatch]
  rcases runFrom x s with ⟨_ | _, _⟩
  · rfl
  · rfl

/-- Whatever the computation returns has the property. -/
def Yields (P : α → Prop) (x : Stateful σ α) : Prop :=
  ∀ s a s', runFrom x s = (.ok a, s') → P a

theorem Yields.of_run {P : α → Prop} {x : Stateful σ α} (yields : Yields P x) {a : α} {s s' : σ}
    (returned : runFrom x s = (.ok a, s')) : P a := yields s a s' returned

theorem yields_pure {P : α → Prop} {a : α} (holds : P a) : Yields P (pure a : Stateful σ α) := by
  intro s b s' returned
  cases returned
  exact holds

theorem Yields.bind {P : β → Prop} {x : Stateful σ α} {f : α → Stateful σ β}
    (next : ∀ a, Yields P (f a)) : Yields P (x >>= f) := by
  intro s b s'' returned
  obtain ⟨a, s', _, later⟩ := runFrom_bind_eq_ok.mp returned
  exact next a s' b s'' later

theorem Yields.ite {P : α → Prop} {condition : Prop} [Decidable condition] {x y : Stateful σ α}
    (yes : Yields P x) (no : Yields P y) : Yields P (if condition then x else y) := by
  split
  · exact yes
  · exact no

/-- Every result of a loop that returns is the result of one of its turns. -/
theorem mem_of_runFrom_mapM {xs : List α} {f : α → Stateful σ β} {s s' : σ} {bs : List β}
    (returned : runFrom (xs.mapM f) s = (.ok bs, s')) :
    ∀ b ∈ bs, ∃ a ∈ xs, ∃ t t', runFrom (f a) t = (.ok b, t') := by
  induction xs generalizing s bs with
  | nil =>
      cases returned
      simp
  | cons a rest ih =>
      rw [List.mapM_cons] at returned
      obtain ⟨b, s₁, first, returned⟩ := runFrom_bind_eq_ok.mp returned
      obtain ⟨more, s₂, later, returned⟩ := runFrom_bind_eq_ok.mp returned
      cases returned
      intro c inside
      rcases List.mem_cons.mp inside with rfl | inMore
      · exact ⟨a, List.mem_cons_self, s, s₁, first⟩
      · obtain ⟨d, inRest, turn⟩ := ih later c inMore
        exact ⟨d, List.mem_cons_of_mem _ inRest, turn⟩

/-- A loop returns if every turn does, and keeps what holds of the turns before it. -/
theorem runFrom_mapM_of_turns {f : α → Stateful σ β} {xs : List α} (g : α → β)
    (holds : List α → σ → Prop)
    (turn : ∀ done a s, done ++ [a] <+: xs → holds done s →
      ∃ s', runFrom (f a) s = (.ok (g a), s') ∧ holds (done ++ [a]) s')
    {s : σ} (start : holds [] s) :
    ∃ s', runFrom (xs.mapM f) s = (.ok (xs.map g), s') ∧ holds xs s' := by
  suffices loop : ∀ rest done s, done ++ rest = xs → holds done s →
      ∃ s', runFrom (rest.mapM f) s = (.ok (rest.map g), s') ∧ holds xs s' from
    loop xs [] s rfl start
  intro rest
  induction rest with
  | nil =>
      intro done s all held
      rw [List.append_nil] at all
      exact ⟨s, rfl, all ▸ held⟩
  | cons a rest ih =>
      intro done s all held
      have split : done ++ [a] ++ rest = xs := by simpa using all
      obtain ⟨s₁, first, held⟩ := turn done a s ⟨rest, split⟩ held
      obtain ⟨s₂, later, held⟩ := ih (done ++ [a]) s₁ split held
      refine ⟨s₂, ?_, held⟩
      rw [List.mapM_cons, runFrom_bind_of_ok first, runFrom_bind_of_ok later]
      rfl

/-! ### Relations between the states before and after -/

/-- Whatever the computation does, and be it to fail, relates the state before to the one after. -/
def Respects (R : σ → σ → Prop) (x : Stateful σ α) : Prop := ∀ s, R s (runFrom x s).2

theorem Respects.of_run {R : σ → σ → Prop} {x : Stateful σ α} (respected : Respects R x)
    {result : Except Failure α} {s s' : σ} (ran : runFrom x s = (result, s')) : R s s' := by
  have related := respected s
  rwa [ran] at related

theorem Respects.map {R : σ → σ → Prop} {x : Stateful σ α} (respected : Respects R x) (g : α → β) :
    Respects R (g <$> x) := by
  intro s
  rw [runFrom_map]
  exact respected s

theorem Respects.ite {R : σ → σ → Prop} {condition : Prop} [Decidable condition] {x y : Stateful σ α}
    (yes : condition → Respects R x) (no : ¬condition → Respects R y) :
    Respects R (if condition then x else y) := by
  split
  · exact yes ‹_›
  · exact no ‹_›

variable {R : σ → σ → Prop} [IsPreorder σ R]

theorem respects_of_unchanged {x : Stateful σ α} (unchanged : ∀ s, (runFrom x s).2 = s) :
    Respects R x := by
  intro s
  rw [unchanged s]
  exact refl_of R s

theorem respects_pure (a : α) : Respects R (pure a : Stateful σ α) :=
  respects_of_unchanged fun _ => rfl

theorem respects_throw (e : Failure) : Respects R (throw e : Stateful σ α) :=
  respects_of_unchanged fun _ => rfl

theorem respects_get : Respects R (get : Stateful σ σ) := respects_of_unchanged fun _ => rfl

theorem respects_ofExcept (r : Except Failure α) : Respects R (ofExcept r : Stateful σ α) :=
  respects_of_unchanged fun _ => by rw [runFrom_ofExcept]

/-- The continuation has to respect the relation from the states alone in which the first part
returns. -/
theorem related_bind {x : Stateful σ α} {f : α → Stateful σ β} {s : σ}
    (first : R s (runFrom x s).2)
    (next : ∀ a s', runFrom x s = (.ok a, s') → R s' (runFrom (f a) s').2) :
    R s (runFrom (x >>= f) s).2 := by
  rw [runFrom_bind]
  rcases ran : runFrom x s with ⟨e | a, s'⟩
  · simpa only [ran] using first
  · rw [ran] at first
    exact trans_of R first (next a s' ran)

theorem Respects.bind {x : Stateful σ α} {f : α → Stateful σ β} (first : Respects R x)
    (next : ∀ a, Respects R (f a)) : Respects R (x >>= f) :=
  fun s => related_bind (first s) fun a s' _ => next a s'

/-- The continuation has to respect the relation for what is returned alone. -/
theorem Respects.bind_of {x : Stateful σ α} {f : α → Stateful σ β} (first : Respects R x)
    (next : ∀ a, (∃ s s', runFrom x s = (.ok a, s')) → Respects R (f a)) : Respects R (x >>= f) :=
  fun s => related_bind (first s) fun a s' ran => next a ⟨s, s', ran⟩ s'

theorem Respects.tryCatch {x : Stateful σ α} {recover : Failure → Stateful σ α}
    (first : Respects R x) (next : ∀ e, Respects R (recover e)) :
    Respects R (MonadExcept.tryCatch x recover) := by
  intro s
  rw [runFrom_tryCatch]
  rcases ran : runFrom x s with ⟨e | a, s'⟩
  · have before := first s
    rw [ran] at before
    exact trans_of R before (next e s')
  · simpa only [ran] using first s

theorem respects_forM {xs : List α} {f : α → Stateful σ PUnit}
    (each : ∀ a ∈ xs, Respects R (f a)) : Respects R (xs.forM f) := by
  induction xs with
  | nil => exact respects_pure _
  | cons a rest ih =>
      exact (each a (by simp)).bind fun _ => ih fun b inRest => each b (by simp [inRest])

theorem respects_mapM {xs : List α} {f : α → Stateful σ β}
    (each : ∀ a ∈ xs, Respects R (f a)) : Respects R (xs.mapM f) := by
  induction xs with
  | nil => exact respects_pure _
  | cons a rest ih =>
      rw [List.mapM_cons]
      exact (each a (by simp)).bind fun b =>
        (ih fun c inRest => each c (by simp [inRest])).bind fun bs => respects_pure _

theorem related_mapM_of_ok {xs : List α} {f : α → Stateful σ β} {accepted : β → Prop} {s s' : σ}
    {bs : List β}
    (each : ∀ a ∈ xs, ∀ s b s', runFrom (f a) s = (.ok b, s') → accepted b → R s s')
    (returned : runFrom (xs.mapM f) s = (.ok bs, s')) (all : ∀ b ∈ bs, accepted b) : R s s' := by
  induction xs generalizing s bs with
  | nil =>
      cases returned
      exact refl_of R _
  | cons a rest ih =>
      rw [List.mapM_cons] at returned
      obtain ⟨b, s₁, first, returned⟩ := runFrom_bind_eq_ok.mp returned
      obtain ⟨more, s₂, later, returned⟩ := runFrom_bind_eq_ok.mp returned
      cases returned
      refine trans_of R (each a (by simp) _ b s₁ first (all b (by simp))) ?_
      exact ih (fun c inRest => each c (by simp [inRest])) later
        fun c inMore => all c (by simp [inMore])

end NativeVariants
