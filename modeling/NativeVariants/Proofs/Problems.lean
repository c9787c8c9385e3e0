import NativeVariants.Proofs.Machine.Idleness

set_option autoImplicit false

/-!
Which problems a computation can report. `Reports P` says that every problem that ends the
computation has the property, wherever it starts; failures that are no problems may be any. What a
run does to its files reports no problem at all.
-/

namespace NativeVariants

/-- Every error of the result has the property. -/
def FailsOnly {ε α : Type} (P : ε → Prop) (result : Except ε α) : Prop :=
  ∀ e, result = .error e → P e

/-- The failure has the property if it is a problem. -/
abbrev Failure.IfProblem (P : Problem → Prop) (failure : Failure) : Prop :=
  ∀ problem, failure = .problem problem → P problem

/-- Every problem that ends the computation has the property. -/
def Reports {σ α : Type} (P : Problem → Prop) (x : Stateful σ α) : Prop :=
  ∀ s problem s', runFrom x s = (.error (.problem problem), s') → P problem

namespace FailsOnly

variable {ε α β : Type} {P : ε → Prop}

theorem ok (a : α) : FailsOnly P (.ok a) := by
  intro e failed
  cases failed

theorem error {e : ε} (holds : P e) : FailsOnly P (.error e : Except ε α) := by
  intro e' failed
  cases failed
  exact holds

theorem bind {x : Except ε α} {f : α → Except ε β} (first : FailsOnly P x)
    (next : ∀ a, FailsOnly P (f a)) : FailsOnly P (x >>= f) := by
  intro e failed
  cases x with
  | error e' =>
      cases failed
      exact first _ rfl
  | ok a => exact next a e failed

theorem ite {condition : Prop} [Decidable condition] {x y : Except ε α}
    (yes : condition → FailsOnly P x) (no : ¬condition → FailsOnly P y) :
    FailsOnly P (if condition then x else y) := by
  split
  · exact yes ‹_›
  · exact no ‹_›

theorem check {condition : Prop} [Decidable condition] {e : ε} {x : Except ε α} (holds : P e)
    (rest : FailsOnly P x) :
    FailsOnly P (if condition then (throw e : Except ε PUnit) >>= fun _ => x else x) :=
  ite (fun _ => (error holds).bind fun _ => rest) fun _ => rest

theorem foldlM {f : β → α → Except ε β} {xs : List α} (start : β)
    (each : ∀ b, ∀ a ∈ xs, FailsOnly P (f b a)) : FailsOnly P (xs.foldlM f start) := by
  induction xs generalizing start with
  | nil => exact ok _
  | cons a rest ih =>
      rw [List.foldlM_cons]
      exact (each start a (by simp)).bind fun b =>
        ih b fun b c inRest => each b c (by simp [inRest])

theorem mapM {f : α → Except ε β} {xs : List α} (each : ∀ a ∈ xs, FailsOnly P (f a)) :
    FailsOnly P (xs.mapM f) := by
  induction xs with
  | nil => exact ok _
  | cons a rest ih =>
      rw [List.mapM_cons]
      exact (each a (by simp)).bind fun b =>
        (ih fun c inRest => each c (by simp [inRest])).bind fun bs => ok _

theorem mapError {ε' : Type} {P : ε' → Prop} {x : Except ε α} {g : ε → ε'}
    (each : ∀ e, x = .error e → P (g e)) : FailsOnly P (x.mapError g) := by
  intro e failed
  cases x with
  | error e' =>
      cases failed
      exact each e' rfl
  | ok a => cases failed

end FailsOnly

section Computations

variable {σ α β : Type} {P : Problem → Prop}

theorem Reports.of_run {x : Stateful σ α} (reports : Reports P x) {s s' : σ} {problem : Problem}
    (failed : runFrom x s = (.error (.problem problem), s')) : P problem :=
  reports s problem s' failed

theorem Reports.mono {Q : Problem → Prop} {x : Stateful σ α} (reports : Reports P x)
    (weaker : ∀ problem, P problem → Q problem) : Reports Q x :=
  fun s problem s' failed => weaker problem (reports s problem s' failed)

theorem reports_throw {failure : Failure} (holds : failure.IfProblem P) :
    Reports P (throw failure : Stateful σ α) := by
  intro s problem s' failed
  cases failed
  exact holds problem rfl

theorem reports_ofExcept {result : Except Failure α}
    (fails : FailsOnly (Failure.IfProblem P) result) :
    Reports P (ofExcept result : Stateful σ α) := by
  intro s problem s' failed
  rw [runFrom_ofExcept] at failed
  exact fails _ (Prod.mk.inj failed).1 problem rfl

theorem reports_pure (a : α) : Reports P (pure a : Stateful σ α) := by
  intro s problem s' failed
  cases failed

theorem reports_get : Reports P (get : Stateful σ σ) := by
  intro s problem s' failed
  cases failed

theorem reports_modify (f : σ → σ) : Reports P (modify f : Stateful σ PUnit) := by
  intro s problem s' failed
  cases failed

theorem Reports.bind {x : Stateful σ α} {f : α → Stateful σ β} (first : Reports P x)
    (next : ∀ a, Reports P (f a)) : Reports P (x >>= f) := by
  intro s problem s'' failed
  rw [runFrom_bind] at failed
  rcases ran : runFrom x s with ⟨failure | a, s'⟩
  · rw [ran] at failed
    cases failed
    exact first s problem _ ran
  · rw [ran] at failed
    exact next a s' problem s'' failed

theorem Reports.map {x : Stateful σ α} (reports : Reports P x) (g : α → β) :
    Reports P (g <$> x) := by
  change Reports P (x >>= fun a => pure (g a))
  exact reports.bind fun _ => reports_pure _

theorem Reports.ite {condition : Prop} [Decidable condition] {x y : Stateful σ α}
    (yes : Reports P x) (no : Reports P y) : Reports P (if condition then x else y) := by
  split
  · exact yes
  · exact no

theorem Reports.check {condition : Prop} [Decidable condition] {failure : Failure}
    {x : Stateful σ α} (holds : failure.IfProblem P) (rest : Reports P x) :
    Reports P (if condition then (throw failure : Stateful σ PUnit) >>= fun _ => x else x) :=
  .ite ((reports_throw holds).bind fun _ => rest) rest

/-- What was caught may be thrown again. -/
theorem Reports.tryCatch {x : Stateful σ α} {recover : Failure → Stateful σ α}
    (first : Reports P x)
    (next : ∀ failure, failure.IfProblem P → Reports P (recover failure)) :
    Reports P (MonadExcept.tryCatch x recover) := by
  intro s problem s'' failed
  rw [runFrom_tryCatch] at failed
  rcases ran : runFrom x s with ⟨failure | a, s'⟩
  · rw [ran] at failed
    refine next failure (fun other same => ?_) s' problem s'' failed
    rw [same] at ran
    exact first s other s' ran
  · rw [ran] at failed
    cases failed

theorem reports_forM {xs : List α} {f : α → Stateful σ PUnit}
    (each : ∀ a ∈ xs, Reports P (f a)) : Reports P (xs.forM f) := by
  induction xs with
  | nil => exact reports_pure _
  | cons a rest ih =>
      exact (each a (by simp)).bind fun _ => ih fun b inRest => each b (by simp [inRest])

theorem reports_mapM {xs : List α} {f : α → Stateful σ β}
    (each : ∀ a ∈ xs, Reports P (f a)) : Reports P (xs.mapM f) := by
  induction xs with
  | nil => exact reports_pure _
  | cons a rest ih =>
      rw [List.mapM_cons]
      refine (each a (by simp)).bind fun b => ?_
      exact (ih fun c inRest => each c (by simp [inRest])).bind fun bs => reports_pure _

end Computations

namespace Run

variable {P : Problem → Prop} {α : Type}

theorem reports_report (event : Event) : Reports P (report event) := reports_modify _

theorem reports_print (line : String) : Reports P (print line) := reports_report _

theorem reports_note (recorder : Recorder) (message : String) :
    Reports P (note recorder message) :=
  reports_get.bind fun _ => .ite (reports_report _) (reports_pure _)

theorem reports_warn (recorder : Recorder) (message : String) :
    Reports P (warn recorder message) :=
  reports_get.bind fun _ => .ite (reports_report _) (reports_report _)

theorem reports_ofReported {result : Except Problem α} (fails : FailsOnly P result) :
    Reports P (ofReported result) := by
  refine reports_ofExcept (.mapError fun problem failed other same => ?_)
  cases same
  exact fails problem failed

theorem reports_setFiles (files : FileTree) : Reports P (setFiles files) := reports_modify _

theorem reports_ofFault (result : Except FileFault α) :
    Reports P (ofExcept (result.mapError .file) : Run α) :=
  reports_ofExcept (.mapError fun _ _ => nofun)

theorem reports_locate (p : Path) : Reports P (locate p) :=
  reports_get.bind fun _ => .check nofun (reports_ofFault _)

theorem reports_resolve (p : Path) : Reports P (resolve p) := by
  have resolved : Reports P (do return Path.ofLocation (p.resolve (← get).workingDir) : Run Path) :=
    reports_get.bind fun _ => reports_pure _
  exact .check nofun resolved

theorem reports_find? (p : Path) : Reports P (find? p) := reports_get.bind fun _ => reports_pure _

theorem reports_present (p : Path) : Reports P (present p) :=
  (reports_find? p).bind fun _ => reports_pure _

theorem reports_isDirectory (p : Path) : Reports P (isDirectory p) :=
  (reports_find? p).bind fun _ => reports_pure _

theorem reports_isFile (p : Path) : Reports P (isFile p) := by
  refine (reports_find? p).bind fun entry? => ?_
  split
  · exact reports_pure _
  · exact reports_pure _

theorem reports_readContent (p : Path) : Reports P (readContent p) :=
  (reports_locate p).bind fun _ => reports_get.bind fun _ => reports_ofFault _

theorem reports_readText (p : Path) : Reports P (readText p) := by
  refine (reports_readContent p).bind fun content => ?_
  split
  · exact reports_pure _
  · exact reports_throw nofun

theorem reports_writeContent (p : Path) (content : Content) :
    Reports P (writeContent p content) := by
  refine (reports_locate p).bind fun location => reports_get.bind fun m => ?_
  exact (reports_ofFault _).bind fun files => (reports_setFiles _).bind fun _ => reports_report _

theorem reports_makeDirectoryAt (p : Path) : Reports P (makeDirectoryAt p) := by
  refine (reports_locate p).bind fun location => reports_get.bind fun m => ?_
  split
  · exact reports_setFiles _
  · refine (reports_isDirectory p).bind fun there => .ite ?_ (reports_pure _)
    exact reports_throw nofun

theorem reports_makeDirectories (p : Path) : Reports P (makeDirectories p) := by
  suffices loop : ∀ fuel p, Reports P (makeDirectories.go fuel p) from loop _ p
  intro fuel
  induction fuel with
  | zero => exact reports_makeDirectoryAt
  | succ fuel ih =>
      intro p
      refine (reports_makeDirectoryAt p).tryCatch fun failure caught => .ite ?_ ?_
      · exact (ih p.parent).bind fun _ => reports_makeDirectoryAt p
      · exact reports_throw caught

theorem reports_replace (source target : Path) : Reports P (replace source target) := by
  refine (reports_locate source).bind fun _ => (reports_locate target).bind fun location => ?_
  have moved (from' : Location) : Reports P (do
      setFiles (← ofExcept (((← get).files.move from' location).mapError .file))
      report (.wrote location)) :=
    reports_get.bind fun _ => (reports_ofFault _).bind fun _ =>
      (reports_setFiles _).bind fun _ => reports_report _
  exact .check nofun (moved _)

theorem reports_writeWhole (p : Path) (text : String) : Reports P (writeWhole p text) := by
  have written : Reports P (do
      writeText (draftOf p) text
      replace (draftOf p) p) :=
    (reports_writeContent _ _).bind fun _ => reports_replace _ _
  exact (reports_makeDirectories _).bind fun _ => .check nofun written

theorem reports_copy (source target : Path) : Reports P (copy source target) := by
  have copied (target : Path) : Reports P (do
      if (← locate source) = (← locate target) then throw (.file .sameFile)
      writeContent target (← readContent source)) := by
    refine (reports_locate source).bind fun _ => (reports_locate target).bind fun _ => ?_
    have wrote : Reports P (do writeContent target (← readContent source)) :=
      (reports_readContent source).bind fun _ => reports_writeContent _ _
    exact .check nofun wrote
  exact (reports_isDirectory target).bind fun _ => .ite (copied _) (copied _)

theorem reports_nextUnit (header : String) (arguments : List String) :
    Reports P (nextUnit header arguments) := by
  refine (reports_report _).bind fun _ => reports_get.bind fun m => ?_
  split
  · exact reports_pure _
  · exact reports_pure _
  · exact (reports_modify _).bind fun _ => reports_pure _

theorem reports_start (command : Command) (workingDir : Path) :
    Reports P (start command workingDir) := by
  have next : Reports P nextOutcome := by
    refine reports_get.bind fun m => ?_
    split
    · exact reports_pure _
    · exact (reports_modify _).bind fun _ => reports_pure _
  refine (reports_report _).bind fun _ => next.bind fun outcome => ?_
  have left : Reports P (leave outcome.created) :=
    reports_forM fun _ _ => ((reports_makeDirectories _).bind fun _ =>
      reports_writeContent _ _).tryCatch fun _ _ => reports_pure _
  exact left.bind fun _ => reports_pure _

end Run

end NativeVariants
