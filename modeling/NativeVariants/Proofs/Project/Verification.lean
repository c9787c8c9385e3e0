import NativeVariants.Project.Verification
import NativeVariants.Proofs.Build.EarlyFailures
import NativeVariants.Proofs.Build.ReportedRuns

set_option autoImplicit false

/-!
The check of a project by itself and the one that a build begins with. Both look at the same places
and at nothing but the files (`Looks`); the one reports all that is missing and the other stops at
the first (`verify_agrees`).
-/

namespace NativeVariants
open Metadata

/-! ### Looking at files -/

/-- What comes of the run depends on the files and the working directory alone, and the machine is
left as it is. -/
def Looks {α : Type} (x : Run α) : Prop :=
  ∀ m m' : Machine, m'.files = m.files → m'.workingDir = m.workingDir →
    runFrom x m' = ((runFrom x m).1, m')

namespace Looks

variable {α β : Type}

theorem pure (a : α) : Looks (pure a : Run α) := fun _ _ _ _ => rfl

theorem throw (failure : Failure) : Looks (throw failure : Run α) := fun _ _ _ _ => rfl

theorem ofExcept (result : Except Failure α) : Looks (ofExcept result : Run α) := by
  intro m m' _ _
  rw [runFrom_ofExcept, runFrom_ofExcept]

theorem bind {x : Run α} {f : α → Run β} (first : Looks x) (next : ∀ a, Looks (f a)) :
    Looks (x >>= f) := by
  intro m m' files here
  rw [runFrom_bind, runFrom_bind, first m m' files here, first m m rfl rfl]
  cases (runFrom x m).1 with
  | error failure => rfl
  | ok a => exact next a m m' files here

theorem ite {condition : Prop} [Decidable condition] {x y : Run α} (yes : Looks x) (no : Looks y) :
    Looks (if condition then x else y) := by
  split
  · exact yes
  · exact no

theorem get_bind {f : Machine → Run α} (each : ∀ m, Looks (f m))
    (same : ∀ m m' : Machine, m'.files = m.files → m'.workingDir = m.workingDir → f m' = f m) :
    Looks (get >>= f) := by
  intro m m' files here
  rw [runFrom_bind_of_ok (runFrom_get m), runFrom_bind_of_ok (runFrom_get m'),
    same m m' files here]
  exact each m m m' files here

theorem forM {xs : List α} {f : α → Run PUnit} (each : ∀ a, Looks (f a)) : Looks (xs.forM f) := by
  induction xs with
  | nil => exact pure _
  | cons a rest ih => exact (each a).bind fun _ => ih

theorem resolve (p : Path) : Looks (Run.resolve p) := by
  intro m m' _ here
  rw [Run.runFrom_resolve, Run.runFrom_resolve, here]

theorem find? (p : Path) : Looks (Run.find? p) := by
  intro m m' files here
  rw [Run.runFrom_find?, Run.runFrom_find?, files, here]

theorem present (p : Path) : Looks (Run.present p) := (find? p).bind fun _ => pure _

theorem isFile (p : Path) : Looks (Run.isFile p) := by
  refine (find? p).bind fun entry? => ?_
  split
  · exact pure _
  · exact pure _

theorem readText (p : Path) : Looks (Run.readText p) := by
  have locate : Looks (Run.locate p) := by
    refine get_bind (fun m => ?_) fun m m' files here => by rw [files, here]
    exact .ite ((throw _).bind fun _ => ofExcept _) (ofExcept _)
  have content : Looks (Run.readContent p) :=
    locate.bind fun _ => get_bind (fun _ => ofExcept _) fun m m' files _ => by rw [files]
  refine content.bind fun content => ?_
  split
  · exact pure _
  · exact throw _

theorem load (root : Path) : Looks (ProjectFile.load root) := by
  refine (isFile _).bind fun there => .ite ?_ (ofExcept _)
  exact (readText _).bind fun text => ofExcept _

theorem resolvePaths (root : Path) (layout : Layout) (outDir? : Option Path) :
    Looks (ProjectPaths.resolve root layout outDir?) := by
  refine (resolve _).bind fun root => (resolve _).bind fun sourceDir => ?_
  exact (resolve _).bind fun outDir => (resolve _).bind fun wrapper => pure _

theorem check (paths : ProjectPaths) : Looks paths.check :=
  forM fun p => (present p).bind fun _ => .ite (throw _) (pure _)

end Looks

/-- The check that a build begins with, for the project as its file describes it. -/
def checkProject (root : Path) : Run Unit := do
  let file ← ProjectFile.load root
  let paths ← ProjectPaths.resolve root file.layout none
  paths.check

theorem looks_checkProject (root : Path) : Looks (checkProject root) :=
  (Looks.load root).bind fun file => (Looks.resolvePaths root file.layout none).bind Looks.check

/-! ### What is missing -/

def Machine.lacks (m : Machine) (p : Path) : Bool := (m.files.find? m.workingDir p).isNone

def Machine.missing (m : Machine) (paths : ProjectPaths) : List Path :=
  paths.required.filter m.lacks

theorem runFrom_present (p : Path) (m : Machine) :
    runFrom (Run.present p) m = (.ok (!m.lacks p), m) := by
  unfold Machine.lacks
  rw [Option.not_isNone]
  rfl

/-- The check ends at the first path that is missing. -/
theorem runFrom_check (paths : ProjectPaths) (m : Machine) :
    runFrom paths.check m =
      (match (m.missing paths).head? with
        | none => .ok ()
        | some p => .error (.problem (.missingSource p.display paths.sourceDir.display)), m) := by
  unfold ProjectPaths.check Machine.missing
  induction paths.required with
  | nil => rfl
  | cons p rest ih =>
      rw [forM_cons]
      cases lacking : m.lacks p with
      | false =>
          have passed : runFrom (do
              if !(← Run.present p) then
                throw (.problem (.missingSource p.display paths.sourceDir.display))) m =
              (.ok (), m) := by
            rw [runFrom_bind_of_ok (runFrom_present p m), lacking]
            rfl
          rw [runFrom_bind_of_ok passed, List.filter_cons_of_neg (by simp [lacking])]
          exact ih
      | true =>
          have failed : runFrom (do
              if !(← Run.present p) then
                throw (.problem (.missingSource p.display paths.sourceDir.display))) m =
              (.error (.problem (.missingSource p.display paths.sourceDir.display)), m) := by
            rw [runFrom_bind_of_ok (runFrom_present p m), lacking]
            rfl
          rw [runFrom_bind_of_error failed, List.filter_cons_of_pos lacking]
          rfl

/-! ### What is said about it -/

def complaints (events : List Event) : List String :=
  events.filterMap fun event =>
    match event with
    | .complained text => some text
    | _ => none

theorem complaints_append (xs ys : List Event) :
    complaints (xs ++ ys) = complaints xs ++ complaints ys := List.filterMap_append

/-- The run returns the value. It does nothing to the machine but to print and, with the given
texts, to complain. -/
def Machine.Tells (m : Machine) {α : Type} (x : Run α) (a : α) (texts : List String) : Prop :=
  ∃ added, runFrom x m = (.ok a, { m with events := m.events ++ added }) ∧
    complaints added = texts

namespace Machine.Tells

variable {α β : Type} {m : Machine}

theorem of_unchanged {x : Run α} {a : α} (ran : runFrom x m = (.ok a, m)) : m.Tells x a [] :=
  ⟨[], by rw [ran, List.append_nil], rfl⟩

theorem pure (m : Machine) (a : α) : m.Tells (pure a) a [] := of_unchanged (runFrom_pure a m)

theorem print (m : Machine) (line : String) : m.Tells (Run.print line) () [] := ⟨[_], rfl, rfl⟩

theorem complain (m : Machine) (line : String) : m.Tells (Run.complain line) () [line ++ "\n"] :=
  ⟨[_], rfl, rfl⟩

/-- What is told does not matter to those who look at files alone. -/
theorem bind {x : Run α} {f : α → Run β} {a : α} {b : β} {texts more : List String}
    (first : m.Tells x a texts)
    (next : ∀ events, { m with events }.Tells (f a) b more) : m.Tells (x >>= f) b (texts ++ more) := by
  obtain ⟨added, ran, rfl⟩ := first
  obtain ⟨later, ranLater, rfl⟩ := next (m.events ++ added)
  refine ⟨added ++ later, ?_, complaints_append added later⟩
  rw [runFrom_bind_of_ok ran, ranLater, List.append_assoc]

theorem tried {x : Run α} {a : α} {texts : List String} (told : m.Tells x a texts)
    (recover : Failure → Run α) : m.Tells (MonadExcept.tryCatch x recover) a texts := by
  obtain ⟨added, ran, same⟩ := told
  refine ⟨added, ?_, same⟩
  rw [runFrom_tryCatch, ran]

theorem caught {x : Run α} {failure : Failure} {recover : Failure → Run α} {a : α}
    {texts : List String} (failed : runFrom x m = (.error failure, m))
    (told : m.Tells (recover failure) a texts) :
    m.Tells (MonadExcept.tryCatch x recover) a texts := by
  obtain ⟨added, ran, same⟩ := told
  refine ⟨added, ?_, same⟩
  rw [runFrom_tryCatch, failed]
  exact ran

theorem forM_print (m : Machine) (lines : List α) (line : α → String) :
    m.Tells (lines.forM fun a => Run.print (line a)) () [] := by
  induction lines generalizing m with
  | nil => exact pure m ()
  | cons a rest ih => exact (print m (line a)).bind fun events => ih _

end Machine.Tells

theorem tells_printKeys (m : Machine) (package : String) : m.Tells (printKeys package) () [] := by
  refine (Machine.Tells.print m _).bind fun _ => (Machine.Tells.print _ _).bind fun _ => ?_
  refine (Machine.Tells.forM_print _ _ _).bind fun _ => (Machine.Tells.print _ _).bind fun _ => ?_
  exact Machine.Tells.forM_print _ _ _

def missingLine (p : Path) : String := s!"❌ {p.display} not found" ++ "\n"

def lookAt (p : Path) : Run (Option Path) := do
  if ← Run.present p then
    Run.print s!"✅ {p.display}"
    return none
  else
    Run.complain s!"❌ {p.display} not found"
    return some p

theorem tells_lookAt_of_there {m : Machine} {p : Path} (there : m.lacks p = false) :
    m.Tells (lookAt p) none [] := by
  refine (Machine.Tells.of_unchanged (runFrom_present p m)).bind fun events => ?_
  rw [there]
  exact (Machine.Tells.print _ _).bind fun _ => .pure _ _

theorem tells_lookAt_of_lacking {m : Machine} {p : Path} (lacking : m.lacks p = true) :
    m.Tells (lookAt p) (some p) [missingLine p] := by
  refine (Machine.Tells.of_unchanged (runFrom_present p m)).bind fun events => ?_
  rw [lacking]
  exact (Machine.Tells.complain _ _).bind fun _ => .pure _ _

theorem tells_filterMapM_lookAt (m : Machine) (places : List Path) :
    m.Tells (places.filterMapM lookAt) (places.filter m.lacks)
      ((places.filter m.lacks).map missingLine) := by
  induction places generalizing m with
  | nil => exact .pure m []
  | cons p rest ih =>
      rw [List.filterMapM_cons]
      cases lacking : m.lacks p with
      | false =>
          rw [List.filter_cons_of_neg (by simp [lacking])]
          exact (tells_lookAt_of_there lacking).bind fun events => ih { m with events }
      | true =>
          rw [List.filter_cons_of_pos lacking]
          refine (tells_lookAt_of_lacking lacking).bind fun events => ?_
          have later := (ih { m with events }).bind (f := fun found => pure (p :: found))
            fun _ => .pure _ _
          rwa [List.append_nil] at later

theorem tells_countMissing (m : Machine) (places : List Path) :
    m.Tells (countMissing places) (places.filter m.lacks).length
      ((places.filter m.lacks).map missingLine) := by
  have counted := (tells_filterMapM_lookAt m places).bind
    (f := fun found => pure found.length) fun _ => .pure _ _
  rwa [List.append_nil] at counted

/-- The closing line about so many missing paths. -/
def countLine (paths : ProjectPaths) (count : Nat) : String :=
  s!"❌ {count} required path(s) missing under {paths.projectRoot.display}" ++ "\n"

/-- The complaints about the missing paths of a project: one for each, and then their number. -/
def Machine.missingLines (m : Machine) (paths : ProjectPaths) : List String :=
  (m.missing paths).map missingLine ++
    if m.missing paths = [] then [] else [countLine paths (m.missing paths).length]

/-- What is reported on a layout once its project file was looked at. -/
def reportMissing (paths : ProjectPaths) : Run Nat := do
  let missing ← countMissing paths.required
  printKeys paths.packageName
  if missing ≠ 0 then
    Run.complain
      s!"❌ {missing} required path(s) missing under {paths.projectRoot.display}"
    return 1
  else
    Run.print "✅ Source layout OK"
    return 0

theorem tells_reportMissing (m : Machine) (paths : ProjectPaths) :
    m.Tells (reportMissing paths) (if m.missing paths = [] then 0 else 1) (m.missingLines paths) := by
  have closing (events : List Event) : { m with events }.Tells (do
      if (m.missing paths).length ≠ 0 then
        Run.complain
          s!"❌ {(m.missing paths).length} required path(s) missing under {paths.projectRoot.display}"
        return 1
      else
        Run.print "✅ Source layout OK"
        return 0)
      (if m.missing paths = [] then 0 else 1)
      (if m.missing paths = [] then [] else [countLine paths (m.missing paths).length]) := by
    by_cases complete : m.missing paths = []
    · rw [if_pos complete, if_pos complete, if_neg (by simpa using complete)]
      exact (Machine.Tells.print _ _).bind fun _ => .pure _ 0
    · rw [if_neg complete, if_neg complete, if_pos (by simpa using complete)]
      exact (Machine.Tells.complain _ _).bind fun _ => .pure _ 1
  exact (tells_countMissing m paths.required).bind fun _ =>
    (tells_printKeys _ _).bind fun events => closing events

theorem tells_reportLayout {root : Path} {file : ProjectFile} {paths : ProjectPaths} {m : Machine}
    (resolved : runFrom (ProjectPaths.resolve root file.layout none) m = (.ok paths, m)) :
    m.Tells (reportLayout root file) (if m.missing paths = [] then 0 else 1)
      (m.missingLines paths) := by
  refine (Machine.Tells.of_unchanged resolved).bind fun events => ?_
  refine (Machine.Tells.of_unchanged (Run.runFrom_isFile _ _)).bind fun events => ?_
  dsimp only
  split
  · exact (Machine.Tells.print _ _).bind fun events => tells_reportMissing { m with events } paths
  · exact (Machine.Tells.print _ _).bind fun events => tells_reportMissing { m with events } paths

/-- The project file, unless there is a problem with it: that is reported. -/
def loadReported (root : Path) : Run (Option ProjectFile) := do
  try
    let file ← ProjectFile.load root
    Run.ofReported (Variant.validate Variant.registered)
    pure (some file)
  catch
    | .problem problem => do
        printProblem problem
        pure none
    | failure => throw failure

theorem verify_eq (root : Path) :
    verify root = (do
      match ← loadReported root with
      | none => return 1
      | some file => reportLayout root file) := rfl

section Loading

variable {root : Path} {m : Machine}

theorem tells_loadReported {file : ProjectFile}
    (loaded : runFrom (ProjectFile.load root) m = (.ok file, m)) :
    m.Tells (loadReported root) (some file) [] := by
  have accepted (m : Machine) :
      runFrom (Run.ofReported (Variant.validate Variant.registered)) m = (.ok (), m) := by
    have registry : Variant.validate Variant.registered = .ok () := by decide
    rw [registry]
    rfl
  refine Machine.Tells.tried ?_ _
  refine (Machine.Tells.of_unchanged loaded).bind fun _ => ?_
  exact (Machine.Tells.of_unchanged (accepted _)).bind fun _ => .pure _ (some file)

theorem tells_loadReported_of_problem {problem : Problem}
    (failed : runFrom (ProjectFile.load root) m = (.error (.problem problem), m)) :
    m.Tells (loadReported root) none [s!"❌ {problem.message}" ++ "\n"] := by
  refine Machine.Tells.caught (runFrom_bind_of_error failed _) ?_
  exact (Machine.Tells.complain m _).bind fun _ => .pure _ none

theorem runFrom_loadReported_of_stray {failure : Failure} (stray : failure.IsStray)
    (failed : runFrom (ProjectFile.load root) m = (.error failure, m)) :
    runFrom (loadReported root) m = (.error failure, m) := by
  unfold loadReported
  rw [runFrom_tryCatch, runFrom_bind_of_error failed]
  cases failure with
  | problem problem => exact absurd rfl (stray problem)
  | _ => rfl

end Loading

inductive Verified (root : Path) (m : Machine) : Prop
  /-- There is a problem with the project file. -/
  | refused (problem : Problem) (ofOptions : problem.IsOfOptions)
      (checking : (runFrom (checkProject root) m).1 = .error (.problem problem))
      (told : m.Tells (verify root) 1 [s!"❌ {problem.message}" ++ "\n"])
  /-- The project file or its paths cannot be used at all. -/
  | astray (failure : Failure) (stray : failure.IsStray)
      (checking : (runFrom (checkProject root) m).1 = .error failure)
      (verifying : (runFrom (verify root) m).1 = .error failure)
  | looked (file : ProjectFile) (paths : ProjectPaths)
      (loading : (runFrom (ProjectFile.load root) m).1 = .ok file)
      (resolving : (runFrom (ProjectPaths.resolve root file.layout none) m).1 = .ok paths)
      (told : m.Tells (verify root) (if m.missing paths = [] then 0 else 1) (m.missingLines paths))

theorem verified (root : Path) (m : Machine) : Verified root m := by
  have loaded := Looks.load root m m rfl rfl
  cases loading : (runFrom (ProjectFile.load root) m).1 with
  | error failure =>
      rw [loading] at loaded
      have checking : (runFrom (checkProject root) m).1 = .error failure := by
        unfold checkProject
        rw [runFrom_bind_of_error loaded]
      by_cases stray : failure.IsStray
      · refine .astray failure stray checking ?_
        rw [verify_eq, runFrom_bind_of_error (runFrom_loadReported_of_stray stray loaded)]
      · simp only [Failure.IsStray, not_forall, not_not] at stray
        obtain ⟨problem, rfl⟩ := stray
        refine .refused problem ((ProjectFile.reports_load root).of_run loaded) checking ?_
        rw [verify_eq]
        have told := (tells_loadReported_of_problem loaded).bind
          (f := fun file? : Option ProjectFile => match file? with
            | none => pure 1
            | some file => reportLayout root file) fun _ => .pure _ 1
        exact told
  | ok file =>
      rw [loading] at loaded
      have resolved (events : List Event) :=
        Looks.resolvePaths root file.layout none m { m with events } rfl rfl
      cases resolving : (runFrom (ProjectPaths.resolve root file.layout none) m).1 with
      | error failure =>
          rw [resolving] at resolved
          have stray : Strays (runFrom (ProjectPaths.resolve root file.layout none) m).1 :=
            .of_reports (ProjectPaths.reports_resolve _ _ _) (resolved m.events)
          rw [resolving, Strays.error_iff] at stray
          refine .astray failure stray ?_ ?_
          · unfold checkProject
            rw [runFrom_bind_of_ok loaded, runFrom_bind_of_error (resolved m.events)]
          · obtain ⟨added, ran, _⟩ := tells_loadReported loaded
            have reported : runFrom (reportLayout root file) { m with events := m.events ++ added } =
                (.error failure, { m with events := m.events ++ added }) :=
              runFrom_bind_of_error (resolved _) _
            rw [verify_eq, runFrom_bind_of_ok ran]
            exact congrArg Prod.fst reported
      | ok paths =>
          rw [resolving] at resolved
          refine .looked file paths loading resolving ?_
          rw [verify_eq]
          exact (tells_loadReported loaded).bind fun events =>
            tells_reportLayout (m := { m with events }) (resolved events)

/-- What the check that a build begins with finds, once the project file was read. -/
theorem runFrom_checkProject {root : Path} {m : Machine} {file : ProjectFile}
    {paths : ProjectPaths} (loading : (runFrom (ProjectFile.load root) m).1 = .ok file)
    (resolving : (runFrom (ProjectPaths.resolve root file.layout none) m).1 = .ok paths) :
    (runFrom (checkProject root) m).1 =
      match (m.missing paths).head? with
      | none => .ok ()
      | some p => .error (.problem (.missingSource p.display paths.sourceDir.display)) := by
  have loaded := Looks.load root m m rfl rfl
  have resolved := Looks.resolvePaths root file.layout none m m rfl rfl
  rw [loading] at loaded
  rw [resolving] at resolved
  unfold checkProject
  rw [runFrom_bind_of_ok loaded, runFrom_bind_of_ok resolved, runFrom_check]

theorem Machine.Tells.result {m : Machine} {α : Type} {x : Run α} {a : α} {texts : List String}
    (told : m.Tells x a texts) : (runFrom x m).1 = .ok a := by
  obtain ⟨added, ran, _⟩ := told
  rw [ran]

theorem Machine.Tells.complaints_eq {m : Machine} {α : Type} {x : Run α} {a : α}
    {texts : List String} (told : m.Tells x a texts) :
    complaints (runFrom x m).2.events = complaints m.events ++ texts := by
  obtain ⟨added, ran, rfl⟩ := told
  rw [ran, complaints_append]

/-- The exit status for the way in which a check ended. Failures that are no problems have none. -/
def exitStatus : Except Failure Unit → Except Failure Nat
  | .ok () => .ok 0
  | .error (.problem _) => .ok 1
  | .error failure => .error failure

theorem exitStatus_eq_zero_iff {result : Except Failure Unit} :
    exitStatus result = .ok 0 ↔ result = .ok () := by
  rcases result with failure | _
  · cases failure <;> simp [exitStatus]
  · simp [exitStatus]

theorem exitStatus_eq_one_iff {result : Except Failure Unit} :
    exitStatus result = .ok 1 ↔ ∃ problem, result = .error (.problem problem) := by
  rcases result with failure | _
  · cases failure <;> simp [exitStatus]
  · simp [exitStatus]

theorem exitStatus_eq_error_iff {result : Except Failure Unit} {failure : Failure} :
    exitStatus result = .error failure ↔ failure.IsStray ∧ result = .error failure := by
  rcases result with other | _
  · cases other with
    | problem problem =>
        simp only [exitStatus, reduceCtorEq, false_iff, not_and, Except.error.injEq]
        rintro stray rfl
        exact stray problem rfl
    | _ =>
        simp only [exitStatus, Except.error.injEq, iff_and_self]
        rintro rfl
        exact nofun
  · simp [exitStatus]

/-- The exit status says how the check that a build begins with ends. -/
theorem result_verify (root : Path) (m : Machine) :
    (runFrom (verify root) m).1 = exitStatus (runFrom (checkProject root) m).1 := by
  cases verified root m with
  | refused problem _ checking told =>
      rw [told.result, checking]
      rfl
  | astray failure stray checking verifying =>
      rw [verifying, checking]
      cases failure with
      | problem problem => exact absurd rfl (stray problem)
      | _ => rfl
  | looked file paths loading resolving told =>
      rw [told.result, runFrom_checkProject loading resolving]
      cases m.missing paths with
      | nil => rfl
      | cons first others => rfl

/-- The first path that is complained about is the one that the other check names. -/
theorem complaints_verify {root : Path} {m : Machine} {named sourceDir : String}
    (checking : (runFrom (checkProject root) m).1 =
      .error (.problem (.missingSource named sourceDir))) :
    ∃ file paths first others, (runFrom (ProjectFile.load root) m).1 = .ok file ∧
      (runFrom (ProjectPaths.resolve root file.layout none) m).1 = .ok paths ∧
      m.missing paths = first :: others ∧ first.display = named ∧
      complaints (runFrom (verify root) m).2.events =
        complaints m.events ++ (first :: others).map missingLine ++
          [countLine paths (others.length + 1)] := by
  cases verified root m with
  | refused problem ofOptions refused _ =>
      rw [checking] at refused
      cases refused
      cases ofOptions.1
  | astray failure stray astray _ =>
      rw [checking] at astray
      cases astray
      exact absurd rfl (stray _)
  | looked file paths loading resolving told =>
      rw [runFrom_checkProject loading resolving] at checking
      cases missing : m.missing paths with
      | nil =>
          rw [missing] at checking
          cases checking
      | cons first others =>
          rw [missing] at checking
          refine ⟨file, paths, first, others, loading, resolving, missing, ?_, ?_⟩
          · cases checking
            rfl
          · rw [told.complaints_eq, Machine.missingLines, missing, if_neg (List.cons_ne_nil _ _),
              List.append_assoc]
            rfl

/-! ### The build -/

section Build

variable {options : Options} {m m' : Machine}

theorem Problem.IsRegistryFault.failureClass {problem : Problem}
    (atFault : problem.IsRegistryFault) : problem.report.failureClass = .configuration := by
  cases problem with
  | duplicateVariantName name => rfl
  | duplicateVariantBasename basename name => rfl
  | reservedBasename name basename => rfl
  | _ => cases atFault

/-- The check of the sources succeeds in a build of a project in which nothing is missing, wherever
its results go. -/
theorem runFrom_check_of_settled {environ : Environ} {settled : Settled}
    (complete : (runFrom (checkProject options.projectRoot) m).1 = .ok ())
    (settling : runFrom (options.settle environ) m = (.ok settled, m')) :
    runFrom settled.paths.check m' = (.ok (), m') := by
  obtain ⟨file, loaded, settles, noted⟩ := Options.settle_eq_ok_iff.mp settling
  have untouched : m.Untouched m' := (Run.untouched_note _ _).of_run noted
  obtain ⟨records, rfl⟩ := untouched
  unfold checkProject at complete
  rw [runFrom_bind_of_ok loaded] at complete
  obtain ⟨m₁, complete⟩ := exists_of_result complete
  obtain ⟨paths, m₂, resolved, checked⟩ := runFrom_bind_eq_ok.mp complete
  obtain ⟨_, rfl, rfl⟩ := ProjectPaths.resolve_eq_ok_iff.mp resolved
  have required : settled.paths.required =
      (ProjectPaths.ofLayout m₂.workingDir options.projectRoot file.layout none).required := by
    rw [settles.paths]
    rfl
  have there := ProjectPaths.check_eq_ok checked
  apply ProjectPaths.runFrom_check_of_present
  rw [required]
  exact there

theorem failureClass_of_runPipeline {problem : Problem}
    (complete : (runFrom (checkProject options.projectRoot) m).1 = .ok ())
    (failed : runFrom (runPipeline options) m = (.error (.problem problem), m')) :
    problem.report.failureClass ≠ .source := by
  intro sourced
  rcases runPipeline_eq_error failed with failed | ⟨settled, m₁, _, _, failed⟩
  · rcases runFrom_bind_eq_error.mp failed with failed | ⟨settled, m₁, settling, failed⟩
    · have ofOptions := ((options.reports_settle _).of_run failed).1
      rw [sourced] at ofOptions
      cases ofOptions
    · have checked := runFrom_check_of_settled complete settling
      unfold Settled.generate at failed
      rw [bind_assoc, runFrom_bind_of_ok checked] at failed
      have ofBindings : problem.IsOfBindings := by
        refine Reports.of_run (P := Problem.IsOfBindings) ?_ failed
        refine ((Run.reports_note _ _).bind fun _ => ?_).bind fun _ => reports_pure _
        exact (reports_generateBindings settled.bindingRequest).map _
      rw [Problem.IsOfBindings, sourced] at ofBindings
      cases ofBindings
  · obtain ⟨atFault, _⟩ := buildVariants_early (.inr sourced) failed
    obtain ⟨_, found⟩ := Variant.forMode_eq_error atFault
    have ofRegistry := (Variant.isRegistryFault_of_registryFault? found).failureClass
    rw [sourced] at ofRegistry
    cases ofRegistry

/-- What makes the check of a project go astray makes a build of it go astray, too. -/
theorem runPipeline_astray {failure : Failure} (unplaced : options.outDir? = none)
    (stray : failure.IsStray)
    (astray : (runFrom (checkProject options.projectRoot) m).1 = .error failure) :
    (runFrom (runPipeline options) m).1 = .error failure := by
  obtain ⟨m₁, astray⟩ := exists_of_result astray
  have settling : runFrom (options.settle m.environ) m = (.error failure, m₁) := by
    unfold Options.settle
    rcases runFrom_bind_eq_error.mp astray with failed | ⟨file, m₂, loaded, failed⟩
    · exact runFrom_bind_of_error failed _
    · rw [runFrom_bind_of_ok loaded, unplaced]
      rcases runFrom_bind_eq_error.mp failed with failed | ⟨paths, m₃, _, failed⟩
      · exact runFrom_bind_of_error failed _
      · have checking : Strays (runFrom paths.check m₃).1 := by
          rw [failed]
          exact .error stray
        exact absurd checking (paths.neverStrays_check m₃)
  unfold runPipeline
  rw [runFrom_bind_of_ok (runFrom_get m), runFrom_bind_of_error settling]

end Build

/-- The check of a project and the one that a build begins with agree. The one accepts what the other
accepts, reports a problem where the other does, and goes astray where the other does. The first path
that it complains about is the one that the other names. After it has accepted a project, no build of
the project, whatever its options and its environment, misses a source. -/
theorem verify_agrees (root : Path) (m : Machine) :
    ((runFrom (verify root) m).1 = .ok 0 ↔ (runFrom (checkProject root) m).1 = .ok ()) ∧
    ((runFrom (verify root) m).1 = .ok 1 ↔
      ∃ problem, (runFrom (checkProject root) m).1 = .error (.problem problem)) ∧
    (∀ failure, (runFrom (verify root) m).1 = .error failure ↔
      failure.IsStray ∧ (runFrom (checkProject root) m).1 = .error failure) ∧
    (∀ named sourceDir,
      (runFrom (checkProject root) m).1 = .error (.problem (.missingSource named sourceDir)) →
        ∃ file paths first others, (runFrom (ProjectFile.load root) m).1 = .ok file ∧
          (runFrom (ProjectPaths.resolve root file.layout none) m).1 = .ok paths ∧
          m.missing paths = first :: others ∧ first.display = named ∧
          complaints (runFrom (verify root) m).2.events =
            complaints m.events ++ (first :: others).map missingLine ++
              [countLine paths (others.length + 1)]) ∧
    (∀ (options : Options) (m' : Machine), options.projectRoot = root → m'.files = m.files →
      m'.workingDir = m.workingDir →
        ((runFrom (verify root) m).1 = .ok 0 → ∀ problem,
          (runFrom (runPipeline options) m').1 = .error (.problem problem) →
            problem.report.failureClass ≠ .source) ∧
        (∀ failure, options.outDir? = none → (runFrom (verify root) m).1 = .error failure →
          (runFrom (runPipeline options) m').1 = .error failure)) := by
  rw [result_verify]
  refine ⟨exitStatus_eq_zero_iff, exitStatus_eq_one_iff, fun _ => exitStatus_eq_error_iff,
    fun _ _ => complaints_verify, ?_⟩
  rintro options m' rfl files here
  have same : (runFrom (checkProject options.projectRoot) m').1 =
      (runFrom (checkProject options.projectRoot) m).1 := by
    rw [looks_checkProject options.projectRoot m m' files here]
  rw [← same]
  refine ⟨fun accepted problem failed => ?_, fun failure unplaced astray => ?_⟩
  · obtain ⟨m'', failed⟩ := exists_of_result failed
    exact failureClass_of_runPipeline (exitStatus_eq_zero_iff.mp accepted) failed
  · obtain ⟨stray, checking⟩ := exitStatus_eq_error_iff.mp astray
    exact runPipeline_astray unplaced stray checking

def bareProject : Machine :=
  { smallProject [] with
    files := ⟨Table.ofList
      [(["work"], .directory), (["work", "wrapper.h"], .file (.text "")),
        (["work", "ggml"], .directory)]⟩ }

/-- A project is accepted, and one without sources is refused for the first of them. -/
theorem verify_smallProject :
    (runFrom (verify (.ofText ".")) (smallProject [])).1 = .ok 0 ∧
      (∀ problem,
        (runFrom (runPipeline { Options.default with projectRoot := .ofText "." }) (smallProject [])).1 =
          .error (.problem problem) → problem.report.failureClass ≠ .source) ∧
      ∃ others count, complaints (runFrom (verify (.ofText ".")) bareProject).2.events =
        "❌ /work/ggml/CMakeLists.txt not found\n" :: others ++ [count] := by
  have complete : (runFrom (checkProject (.ofText ".")) (smallProject [])).1 = .ok () := by
    decide +kernel
  have incomplete : (runFrom (checkProject (.ofText ".")) bareProject).1 =
      .error (.problem (.missingSource "/work/ggml/CMakeLists.txt" "/work/ggml")) := by
    decide +kernel
  obtain ⟨accepted, _, _, _, building⟩ := verify_agrees (.ofText ".") (smallProject [])
  obtain ⟨_, _, _, refused, _⟩ := verify_agrees (.ofText ".") bareProject
  obtain ⟨_, paths, first, others, _, _, _, named, told⟩ := refused _ _ incomplete
  refine ⟨accepted.mpr complete, ?_, others.map missingLine,
    countLine paths (others.length + 1), ?_⟩
  · exact (building { Options.default with projectRoot := .ofText "." } (smallProject []) rfl rfl
      rfl).1 (accepted.mpr complete)
  · have line : missingLine first = "❌ /work/ggml/CMakeLists.txt not found\n" := by
      rw [missingLine, named]
      decide
    rw [told, List.map_cons, line]
    rfl

end NativeVariants
