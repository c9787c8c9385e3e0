import NativeVariants.Machine
import NativeVariants.Proofs.Places
import NativeVariants.Proofs.Runs

set_option autoImplicit false

/-!
What the operations of a run do to a machine. Many only look at it, so that they relate it to itself.
All others come down to four: a relation that admits them (`Admits`) relates the machines before and
after every operation that writes at accepted places.
-/

namespace NativeVariants

theorem ofReported_eq_ok {α : Type} {result : Except Problem α} {a : α} {m m' : Machine}
    (ran : runFrom (Run.ofReported result) m = (.ok a, m')) : result = .ok a ∧ m' = m := by
  unfold Run.ofReported at ran
  rw [runFrom_ofExcept] at ran
  cases result with
  | error problem => cases ran
  | ok b =>
      cases ran
      exact ⟨rfl, rfl⟩

namespace Run

theorem runFrom_locate_eq_ok_iff {p : Path} {m m' : Machine} {location : Location} :
    runFrom (locate p) m = (.ok location, m') ↔
      m' = m ∧ p.isNameable = true ∧ m.files.locate m.workingDir p = .ok location := by
  unfold locate
  rw [runFrom_bind_of_ok (runFrom_get m)]
  by_cases nameable : p.isNameable = true
  · simp only [nameable, Bool.not_true, Bool.false_eq_true, if_false, true_and]
    rw [runFrom_ofExcept, Prod.mk.injEq, and_comm, eq_comm]
    refine and_congr_right fun _ => ?_
    cases m.files.locate m.workingDir p with
    | error fault =>
        constructor
        · intro located
          cases located
        · intro located
          cases located
    | ok l =>
        constructor
        · intro located
          cases located
          rfl
        · intro located
          cases located
          rfl
  · simp only [nameable, Bool.not_false, if_true, Bool.false_eq_true]
    constructor
    · intro located
      cases located
    · rintro ⟨_, failed, _⟩
      cases failed

/-- A path that leads somewhere leads to the location that it names. -/
theorem runFrom_locate_eq_ok {p : Path} {m m' : Machine} {location : Location}
    (located : runFrom (locate p) m = (.ok location, m')) :
    m' = m ∧ location = p.resolve m.workingDir := by
  obtain ⟨same, _, leads⟩ := runFrom_locate_eq_ok_iff.mp located
  exact ⟨same, FileTree.locate_eq_ok leads⟩

theorem runFrom_locate_snd (p : Path) (m : Machine) : (runFrom (locate p) m).2 = m := by
  unfold locate
  rw [runFrom_bind, runFrom_get]
  by_cases nameable : p.isNameable = true
  · simp [nameable]
  · simp only [nameable, Bool.not_false, if_true]
    rfl

theorem runFrom_resolve (p : Path) (m : Machine) :
    runFrom (resolve p) m =
      (if p.isNameable then .ok (p.absolute m.workingDir) else .error .badValue, m) := by
  unfold resolve
  by_cases nameable : p.isNameable = true
  · simp only [nameable, Bool.not_true, Bool.false_eq_true, if_false, if_true]
    rfl
  · simp only [nameable, Bool.not_false, if_true, Bool.false_eq_true, if_false]
    rfl

theorem runFrom_resolve_eq_ok {p resolved : Path} {m m' : Machine}
    (returned : runFrom (resolve p) m = (.ok resolved, m')) :
    resolved = p.absolute m.workingDir ∧ m' = m := by
  rw [runFrom_resolve] at returned
  split at returned
  · cases returned
    exact ⟨rfl, rfl⟩
  · cases returned

section Looking

/-! #### What only looks at the machine relates it to itself -/

variable {R : Machine → Machine → Prop} [IsPreorder Machine R]

theorem respects_locate (p : Path) : Respects R (locate p) :=
  respects_of_unchanged (runFrom_locate_snd p)

theorem respects_resolve (p : Path) : Respects R (resolve p) :=
  respects_of_unchanged fun m => by rw [runFrom_resolve]

@[simp]
theorem runFrom_find? (p : Path) (m : Machine) :
    runFrom (find? p) m = (.ok (m.files.find? m.workingDir p), m) := rfl

theorem respects_find? (p : Path) : Respects R (find? p) := respects_of_unchanged fun _ => rfl

theorem respects_present (p : Path) : Respects R (present p) := respects_of_unchanged fun _ => rfl

theorem respects_isDirectory (p : Path) : Respects R (isDirectory p) :=
  respects_of_unchanged fun _ => rfl

theorem respects_isFile (p : Path) : Respects R (isFile p) := by
  refine (respects_find? p).bind fun entry? => ?_
  split
  · exact respects_pure _
  · exact respects_pure _

theorem respects_readContent (p : Path) : Respects R (readContent p) :=
  (respects_locate p).bind fun _ => respects_get.bind fun _ => respects_ofExcept _

theorem respects_readText (p : Path) : Respects R (readText p) := by
  refine (respects_readContent p).bind fun content => ?_
  split
  · exact respects_pure _
  · exact respects_throw _

end Looking

/-- The file that is written before it takes the place of another. -/
def draftOf (p : Path) : Path := p.withName s!".{p.name}.tmp"

/-- What is said, a directory that is made and a file that is written at an accepted place relate the
machines before and after. -/
structure Admits (R : Machine → Machine → Prop) (written : Path → Prop) : Prop where
  print : ∀ line, Respects R (print line)
  complain : ∀ line, Respects R (complain line)
  makeDirectoryAt : ∀ p, Respects R (makeDirectoryAt p)
  writeContent : ∀ p, written p → ∀ content, Respects R (writeContent p content)

namespace Admits

variable {R : Machine → Machine → Prop} [IsPreorder Machine R] {written : Path → Prop}
  (admits : Admits R written)
include admits

theorem note (recorder : Recorder) (message : String) : Respects R (note recorder message) :=
  respects_get.bind fun _ => .ite (fun _ => admits.complain _) fun _ => respects_pure _

theorem warn (recorder : Recorder) (message : String) : Respects R (warn recorder message) :=
  respects_get.bind fun _ => .ite (fun _ => admits.complain _) fun _ => admits.complain _

theorem makeDirectories (p : Path) : Respects R (makeDirectories p) := by
  suffices loop : ∀ fuel p, Respects R (makeDirectories.go fuel p) from loop _ p
  intro fuel
  induction fuel with
  | zero => exact admits.makeDirectoryAt
  | succ fuel ih =>
      intro p
      refine (admits.makeDirectoryAt p).tryCatch fun failure => .ite (fun _ => ?_) fun _ => ?_
      · exact (ih p.parent).bind fun _ => admits.makeDirectoryAt p
      · exact respects_throw _

theorem writeWhole {p : Path} (draft : written (draftOf p))
    (replaced : Respects R (replace (draftOf p) p)) (text : String) :
    Respects R (writeWhole p text) := by
  have drafted : Respects R (do
      writeText (draftOf p) text
      replace (draftOf p) p) :=
    (admits.writeContent _ draft _).bind fun _ => replaced
  exact (admits.makeDirectories _).bind fun _ =>
    .ite (fun _ => (respects_throw _).bind fun _ => drafted) fun _ => drafted

theorem copy {source target : Path} (expected : written target)
    (below : written (target.child source.name)) : Respects R (copy source target) := by
  have copied (place : Path) (expected : written place) : Respects R (do
      if (← locate source) = (← locate place) then throw (.file .sameFile)
      Run.writeContent place (← readContent source)) := by
    refine (respects_locate source).bind fun _ => (respects_locate place).bind fun _ => ?_
    have wrote : Respects R (do Run.writeContent place (← readContent source)) :=
      (respects_readContent source).bind fun _ => admits.writeContent _ expected _
    exact .ite (fun _ => (respects_throw _).bind fun _ => wrote) fun _ => wrote
  exact (respects_isDirectory target).bind fun _ =>
    .ite (fun _ => copied _ below) fun _ => copied _ expected

theorem leave {created : List (Path × String)} (expected : ∀ file ∈ created, written file.1) :
    Respects R (leave created) :=
  respects_forM fun file inCreated =>
    ((admits.makeDirectories _).bind fun _ =>
      admits.writeContent _ (expected file inCreated) _).tryCatch fun _ => respects_pure _

end Admits

theorem returns_leave (created : List (Path × String)) : Returns (leave created) () :=
  returns_forM fun _ _ => returns_passOver _

end Run

end NativeVariants
