import NativeVariants.Proofs.Machine.Operations

set_option autoImplicit false

/-!
Runs that do not look at the environment. From machines that differ in their environment alone, such
a run ends in the same way and on machines that differ in their environment alone.
-/

namespace NativeVariants

variable {α β : Type}

/-- The run does the same in every environment. -/
def Heedless (x : Run α) : Prop :=
  ∀ (m : Machine) (environ : Environ),
    runFrom x { m with environ } = ((runFrom x m).1, { (runFrom x m).2 with environ })

namespace Heedless

theorem bind {x : Run α} {f : α → Run β} (first : Heedless x) (next : ∀ a, Heedless (f a)) :
    Heedless (x >>= f) := by
  intro m environ
  rw [runFrom_bind, runFrom_bind, first m environ]
  rcases runFrom x m with ⟨failure | a, m'⟩
  · rfl
  · exact next a m' environ

theorem ite {condition : Prop} [Decidable condition] {x y : Run α} (yes : Heedless x)
    (no : Heedless y) : Heedless (if condition then x else y) := by
  split
  · exact yes
  · exact no

theorem tryCatch {x : Run α} {recover : Failure → Run α} (first : Heedless x)
    (next : ∀ failure, Heedless (recover failure)) :
    Heedless (MonadExcept.tryCatch x recover) := by
  intro m environ
  rw [runFrom_tryCatch, runFrom_tryCatch, first m environ]
  rcases runFrom x m with ⟨failure | a, m'⟩
  · exact next failure m' environ
  · rfl

end Heedless

theorem heedless_pure (a : α) : Heedless (pure a : Run α) := fun _ _ => rfl

theorem heedless_throw (failure : Failure) : Heedless (throw failure : Run α) := fun _ _ => rfl

theorem heedless_ofExcept (result : Except Failure α) : Heedless (ofExcept result : Run α) := by
  intro m environ
  rw [runFrom_ofExcept, runFrom_ofExcept]

theorem heedless_get_bind {f : Machine → Run α} (each : ∀ m, Heedless (f m))
    (same : ∀ m environ, f { m with environ } = f m) : Heedless (get >>= f) := by
  intro m environ
  rw [runFrom_bind_of_ok (runFrom_get m), runFrom_bind_of_ok (runFrom_get _), same]
  exact each m m environ

theorem heedless_forM {xs : List α} {f : α → Run PUnit} (each : ∀ a, Heedless (f a)) :
    Heedless (xs.forM f) := by
  induction xs with
  | nil => exact heedless_pure _
  | cons a rest ih => exact (each a).bind fun _ => ih

namespace Run

theorem heedless_report (event : Event) : Heedless (report event) := fun _ _ => rfl

theorem heedless_print (line : String) : Heedless (print line) := heedless_report _

theorem heedless_note (recorder : Recorder) (message : String) :
    Heedless (note recorder message) :=
  heedless_get_bind (fun _ => .ite (heedless_report _) (heedless_pure _)) fun _ _ => rfl

theorem heedless_warn (recorder : Recorder) (message : String) :
    Heedless (warn recorder message) :=
  heedless_get_bind (fun _ => .ite (heedless_report _) (heedless_report _)) fun _ _ => rfl

theorem heedless_setFiles (files : FileTree) : Heedless (setFiles files) := fun _ _ => rfl

theorem heedless_locate (p : Path) : Heedless (locate p) :=
  heedless_get_bind
    (fun _ => .ite ((heedless_throw _).bind fun _ => heedless_ofExcept _) (heedless_ofExcept _))
    fun _ _ => rfl

theorem heedless_resolve (p : Path) : Heedless (resolve p) := by
  have resolved : Heedless (do return Path.ofLocation (p.resolve (← get).workingDir) : Run Path) :=
    heedless_get_bind (fun _ => heedless_pure _) fun _ _ => rfl
  exact .ite ((heedless_throw _).bind fun _ => resolved) resolved

theorem heedless_find? (p : Path) : Heedless (find? p) := fun _ _ => rfl

theorem heedless_present (p : Path) : Heedless (present p) := fun _ _ => rfl

theorem heedless_isDirectory (p : Path) : Heedless (isDirectory p) := fun _ _ => rfl

theorem heedless_isFile (p : Path) : Heedless (isFile p) := by
  refine (heedless_find? p).bind fun entry? => ?_
  split
  · exact heedless_pure _
  · exact heedless_pure _

theorem heedless_readContent (p : Path) : Heedless (readContent p) :=
  (heedless_locate p).bind fun _ =>
    heedless_get_bind (fun _ => heedless_ofExcept _) fun _ _ => rfl

theorem heedless_readText (p : Path) : Heedless (readText p) := by
  refine (heedless_readContent p).bind fun content => ?_
  split
  · exact heedless_pure _
  · exact heedless_throw _

theorem heedless_writeContent (p : Path) (content : Content) :
    Heedless (writeContent p content) := by
  refine (heedless_locate p).bind fun location => ?_
  refine heedless_get_bind (fun m => ?_) fun _ _ => rfl
  exact (heedless_ofExcept _).bind fun files =>
    (heedless_setFiles files).bind fun _ => heedless_report _

theorem heedless_makeDirectoryAt (p : Path) : Heedless (makeDirectoryAt p) := by
  refine (heedless_locate p).bind fun location => ?_
  refine heedless_get_bind (fun m => ?_) fun _ _ => rfl
  split
  · exact heedless_setFiles _
  · exact (heedless_isDirectory p).bind fun _ => .ite (heedless_throw _) (heedless_pure _)

theorem heedless_makeDirectories (p : Path) : Heedless (makeDirectories p) := by
  suffices loop : ∀ fuel p, Heedless (makeDirectories.go fuel p) from loop _ p
  intro fuel
  induction fuel with
  | zero => exact heedless_makeDirectoryAt
  | succ fuel ih =>
      intro p
      refine (heedless_makeDirectoryAt p).tryCatch fun failure => .ite ?_ (heedless_throw _)
      exact (ih p.parent).bind fun _ => heedless_makeDirectoryAt p

theorem heedless_replace (source target : Path) : Heedless (replace source target) := by
  refine (heedless_locate source).bind fun source => (heedless_locate target).bind fun place => ?_
  have moved : Heedless (do
      setFiles (← ofExcept (((← get).files.move source place).mapError .file))
      report (.wrote place)) :=
    heedless_get_bind (fun _ => (heedless_ofExcept _).bind fun files =>
      (heedless_setFiles files).bind fun _ => heedless_report _) fun _ _ => rfl
  exact .ite ((heedless_throw _).bind fun _ => moved) moved

theorem heedless_writeWhole (p : Path) (text : String) : Heedless (writeWhole p text) := by
  have drafted : Heedless (do
      writeText (draftOf p) text
      replace (draftOf p) p) :=
    (heedless_writeContent _ _).bind fun _ => heedless_replace _ _
  exact (heedless_makeDirectories _).bind fun _ =>
    .ite ((heedless_throw _).bind fun _ => drafted) drafted

theorem heedless_nextUnit (header : String) (arguments : List String) :
    Heedless (nextUnit header arguments) := by
  rintro ⟨host, former, workingDir, files, _ | ⟨u, _ | _⟩, outcomes, shown, events⟩ environ
  · rfl
  · rfl
  · rfl

end Run

end NativeVariants
