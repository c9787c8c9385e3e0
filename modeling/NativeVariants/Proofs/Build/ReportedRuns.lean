import NativeVariants.Proofs.Build.Obstacles
import NativeVariants.Proofs.Build.Repetition
import NativeVariants.Proofs.Build.UnusableOptions
import NativeVariants.Proofs.Header.Unreadable

set_option autoImplicit false

/-!
What a run reports. A build goes astray if its options or its header cannot be used
(`strays_runPipeline_of_cannotBegin`), and otherwise only if it meets an obstacle
(`obstacle_of_strays_runPipeline`). Every other run has an exit status: zero if the build was carried
out, else one, and then the problem was reported and no directive printed (`runReported_status`).
-/

namespace NativeVariants
open Header

/-! ### The header -/

/-- What is reported of the header cannot be used, and nothing is said about it. -/
inductive BindingRequest.IsUnreadable (request : BindingRequest) (u : HeaderUnit) : Prop
  | declaration (clean : ∀ d ∈ u.diagnostics, d.isError = false)
      (unreadable : u.IsUnreadable request.allow .empty)
  | constant {surface : Surface}
      (collected : (collectUnit request.allow .empty request.header.display u).surface =
        .ok surface)
      (filled : surface.isEmpty = false) (tooLong : Bindings.isRenderable surface = false)

theorem BindingRequest.strays_read_iff {request : BindingRequest} {m : Machine}
    (there : (m.fileAt? request.header).isSome = true) :
    Strays (runFrom request.read m).1 ↔ request.IsUnreadable m.nextUnit := by
  have collected := runFrom_readHeader_fst request
    (runFrom (Run.print s!"🔗 Generating bindings from {request.header.name}...") m).2
  have next : (runFrom (Run.print s!"🔗 Generating bindings from {request.header.name}...")
    m).2.nextUnit = m.nextUnit := rfl
  rw [next] at collected
  unfold read
  rw [runFrom_bind_of_ok (Run.runFrom_isFile _ m), there, if_pos rfl,
    (Run.returns_print _).runFrom_bind, Strays.runFrom_bind_iff, collected, strays_collectUnit_iff]
  constructor
  · rintro (⟨clean, unreadable⟩ | ⟨surface, m', ran, astray⟩)
    · exact .declaration clean unreadable
    · rw [ran] at collected
      split at astray
      · exact absurd astray (by simp)
      · rename_i filled
        split at astray
        · exact absurd astray (Strays.not_ok _)
        · rename_i tooLong
          exact .constant collected.symm (Bool.eq_false_iff.mpr filled)
            (Bool.eq_false_iff.mpr tooLong)
  · rintro (⟨clean, unreadable⟩ | ⟨found, filled, tooLong⟩)
    · exact .inl ⟨clean, unreadable⟩
    · obtain ⟨m', ran⟩ := exists_of_result (collected.trans found)
      refine .inr ⟨_, m', ran, ?_⟩
      rw [filled, tooLong, if_neg Bool.false_ne_true, if_neg Bool.false_ne_true]
      exact Strays.error nofun

theorem BindingRequest.header_of_strays_read {request : BindingRequest} {m : Machine}
    (astray : Strays (runFrom request.read m).1) :
    (m.fileAt? request.header).isSome = true := by
  unfold read at astray
  rw [runFrom_bind_of_ok (Run.runFrom_isFile _ m)] at astray
  by_contra absent
  rw [if_neg absent] at astray
  exact absurd astray (by simp)

/-! ### The part of a run up to the header -/

structure Settled.HasSources (settled : Settled) (m : Machine) : Prop where
  required : ∀ p ∈ settled.paths.required, (m.files.find? m.workingDir p).isSome = true
  header : (m.fileAt? settled.paths.wrapperHeader).isSome = true

/-- The sources are checked and the header is read. -/
def Settled.begin (settled : Settled) : Run Surface := do
  settled.paths.check
  Run.note .pipeline
    s!"Source tree {settled.paths.sourceDir.display}, output {settled.paths.outDir.display}"
  settled.bindingRequest.read

def Options.begin (options : Options) (environ : Environ) : Run (Settled × Surface) := do
  let settled ← options.settle environ
  return (settled, ← settled.begin)

theorem runFrom_runPipeline_begin (options : Options) (m : Machine) :
    runFrom (runPipeline options) m = runFrom (options.begin m.environ >>= fun found =>
      found.1.conclude options m.environ.docsSignal? found.2) m := by
  rw [runFrom_runPipeline]
  unfold Options.generate Settled.generate Options.begin Settled.begin Settled.conclude
  simp only [bind_assoc, pure_bind, discard_bind, BindingRequest.generateBindings_eq]

theorem ProjectPaths.neverStrays_check (paths : ProjectPaths) : NeverStrays paths.check := by
  refine .forM fun p _ => ?_
  have looked : NeverStrays (Run.present p) := .of_returns fun s => ⟨_, rfl⟩
  exact looked.bind fun there => .ite (fun _ => by simp) (.pure _)

section Beginning

variable {options : Options} {settled : Settled} {surface : Surface} {m m' : Machine}

theorem proceeds_begin (options : Options) (environ : Environ) :
    Respects Machine.Proceeds (options.begin environ) := by
  have read (request : BindingRequest) : Respects Machine.Proceeds request.read := by
    refine (Run.respects_isFile _).bind fun there => .ite (fun _ => ?_) fun _ => respects_throw _
    refine (Run.proceeds_print (by simp [String.toList_append, toString])).bind fun _ => ?_
    have header : Respects Machine.Proceeds (readHeader request) := by
      refine (Run.proceeds_note _ _).bind fun _ => (Run.proceeds_nextUnit _ _).bind fun u => ?_
      refine (respects_forM fun _ _ => Run.proceeds_warn _ _).bind fun _ => ?_
      exact (respects_ofExcept _).bind fun _ =>
        (Run.proceeds_note _ _).bind fun _ => respects_pure _
    refine header.bind fun surface => .ite (fun _ => respects_throw _) fun _ => ?_
    exact .ite (fun _ => respects_pure _) fun _ => respects_throw _
  refine (options.respects_settle Run.proceeds_note environ).bind fun settled => ?_
  have begun : Respects Machine.Proceeds settled.begin :=
    settled.paths.respects_check.bind fun _ => (Run.proceeds_note _ _).bind fun _ => read _
  exact begun.bind fun _ => respects_pure _

theorem Settled.begin_eq_ok (ran : runFrom settled.begin m = (.ok surface, m')) :
    settled.HasSources m ∧ settled.bindingRequest.Gives m.nextUnit surface := by
  unfold begin at ran
  obtain ⟨_, m₁, checked, ran⟩ := runFrom_bind_eq_ok.mp ran
  obtain ⟨_, m₂, noted, read⟩ := runFrom_bind_eq_ok.mp ran
  obtain rfl : m = m₁ := settled.paths.respects_check.of_run checked
  have untouched : m.Untouched m₂ := (Run.untouched_note _ _).of_run noted
  obtain ⟨header, gives⟩ := BindingRequest.read_eq_ok read
  rw [untouched.talks.fileAt?_eq] at header
  rw [untouched.nextUnit] at gives
  exact ⟨⟨ProjectPaths.check_eq_ok checked, header⟩, gives⟩

theorem Settled.strays_begin_iff :
    Strays (runFrom settled.begin m).1 ↔
      settled.HasSources m ∧ settled.bindingRequest.IsUnreadable m.nextUnit := by
  have noted (message : String) : m.Untouched (runFrom (Run.note .pipeline message) m).2 :=
    Run.untouched_note _ _ m
  unfold begin
  constructor
  · intro astray
    rcases Strays.runFrom_bind_iff.mp astray with here | ⟨_, m₁, checked, astray⟩
    · exact absurd here (settled.paths.neverStrays_check m)
    obtain rfl : m = m₁ := settled.paths.respects_check.of_run checked
    rw [(Run.returns_note _ _).runFrom_bind] at astray
    have header := BindingRequest.header_of_strays_read astray
    rw [BindingRequest.strays_read_iff header, (noted _).nextUnit] at astray
    rw [(noted _).talks.fileAt?_eq] at header
    exact ⟨⟨ProjectPaths.check_eq_ok checked, header⟩, astray⟩
  · rintro ⟨sources, unreadable⟩
    rw [runFrom_bind_of_ok (ProjectPaths.runFrom_check_of_present sources.required),
      (Run.returns_note _ _).runFrom_bind]
    have header := sources.header
    rw [← (noted _).talks.fileAt?_eq] at header
    rw [BindingRequest.strays_read_iff header, (noted _).nextUnit]
    exact unreadable

theorem Settled.hasSources_iff_of_talks (talks : m.Talks m') :
    settled.HasSources m' ↔ settled.HasSources m := by
  constructor
  · rintro ⟨required, header⟩
    rw [talks.files, talks.workingDir] at required
    rw [talks.fileAt?_eq] at header
    exact ⟨required, header⟩
  · rintro ⟨required, header⟩
    rw [← talks.files, ← talks.workingDir] at required
    rw [← talks.fileAt?_eq] at header
    exact ⟨required, header⟩

theorem Options.begin_eq_ok
    (ran : runFrom (options.begin m.environ) m = (.ok (settled, surface), m')) :
    (runFrom (options.settle m.environ) m).1 = .ok settled ∧ settled.HasSources m ∧
      settled.bindingRequest.Gives m.nextUnit surface := by
  unfold begin at ran
  obtain ⟨found, m₁, settling, ran⟩ := runFrom_bind_eq_ok.mp ran
  obtain ⟨_, m₂, begun, returned⟩ := runFrom_bind_eq_ok.mp ran
  cases returned
  have settles : m.Untouched m₁ := (options.respects_settle Run.untouched_note _).of_run settling
  obtain ⟨sources, gives⟩ := Settled.begin_eq_ok begun
  rw [settles.nextUnit] at gives
  rw [Settled.hasSources_iff_of_talks settles.talks] at sources
  exact ⟨congrArg Prod.fst settling, sources, gives⟩

/-- The options or the header cannot be used. -/
inductive Options.CannotBegin (options : Options) (m : Machine) : Prop
  | options (unusable : options.AreUnusable m)
  | header {settled : Settled}
      (settles : (runFrom (options.settle m.environ) m).1 = .ok settled)
      (sources : settled.HasSources m)
      (unreadable : settled.bindingRequest.IsUnreadable m.nextUnit)

theorem Options.strays_begin_iff :
    Strays (runFrom (options.begin m.environ) m).1 ↔ options.CannotBegin m := by
  unfold begin
  rw [Strays.runFrom_bind_iff, strays_settle_iff]
  constructor
  · rintro (unusable | ⟨settled, m₁, settling, astray⟩)
    · exact .options unusable
    have settles : m.Untouched m₁ := (options.respects_settle Run.untouched_note _).of_run settling
    rcases Strays.runFrom_bind_iff.mp astray with here | ⟨_, _, _, returned⟩
    · obtain ⟨sources, unreadable⟩ := Settled.strays_begin_iff.mp here
      rw [settles.nextUnit] at unreadable
      rw [Settled.hasSources_iff_of_talks settles.talks] at sources
      exact .header (congrArg Prod.fst settling) sources unreadable
    · exact absurd returned (Strays.not_ok _)
  · rintro (unusable | ⟨settles, sources, unreadable⟩)
    · exact .inl unusable
    obtain ⟨m₁, settling⟩ := exists_of_result settles
    have untouched : m.Untouched m₁ :=
      (options.respects_settle Run.untouched_note _).of_run settling
    refine .inr ⟨_, m₁, settling, Strays.runFrom_bind_iff.mpr (.inl ?_)⟩
    rw [← untouched.nextUnit] at unreadable
    rw [← Settled.hasSources_iff_of_talks untouched.talks] at sources
    exact Settled.strays_begin_iff.mpr ⟨sources, unreadable⟩

end Beginning

/-! ### The whole run -/

/-- The header was read, and the rest of the build came to an obstacle. -/
def Options.MeetsObstacle (options : Options) (m : Machine) (failure : Failure) (s : Machine) :
    Prop :=
  ∃ settled surface, (runFrom (options.settle m.environ) m).1 = .ok settled ∧
    settled.HasSources m ∧ settled.bindingRequest.Gives m.nextUnit surface ∧
    settled.Obstacle options m failure s

section Whole

variable (options : Options) (m : Machine)

theorem strays_runPipeline_of_cannotBegin (unable : options.CannotBegin m) :
    Strays (runFrom (runPipeline options) m).1 := by
  rw [runFrom_runPipeline_begin, Strays.runFrom_bind_iff, Options.strays_begin_iff]
  exact .inl unable

/-- Whatever is not reported has a reason. -/
theorem obstacle_of_strays_runPipeline {failure : Failure} {s : Machine}
    (failed : runFrom (runPipeline options) m = (.error failure, s)) (stray : failure.IsStray) :
    options.CannotBegin m ∨ options.MeetsObstacle m failure s := by
  rw [runFrom_runPipeline_begin] at failed
  rcases runFrom_bind_eq_error.mp failed with here | ⟨⟨settled, surface⟩, m₁, begun, later⟩
  · refine .inl (Options.strays_begin_iff.mp ?_)
    rw [here]
    exact .error stray
  · obtain ⟨settles, sources, gives⟩ := Options.begin_eq_ok begun
    have concluded : settled.IsPart options m
        (settled.conclude options m.environ.docsSignal? surface) := Settled.isPart_conclude _ _
    have expected := concluded.of_failed ((proceeds_begin options _).of_run begun) later
    exact .inr ⟨settled, surface, settles, sources, gives, expected stray⟩

/-- No directive is printed before a build is done. -/
theorem proceeds_runPipeline : m.Proceeds (runFrom (runPipeline options) m).2 := by
  rw [runFrom_runPipeline_begin]
  refine related_bind (proceeds_begin options _ m) fun found m₁ _ => ?_
  have concluded : found.1.IsPart options m₁
      (found.1.conclude options m.environ.docsSignal? found.2) := Settled.isPart_conclude _ _
  exact (concluded m₁ (refl_of Machine.Proceeds m₁)).1

theorem runFrom_runReported :
    runFrom (runReported options) m =
      match runFrom (runPipeline options) m with
      | (.ok result, s) => (.ok 0, (runFrom (result.built?.toList.forM printBuilt) s).2)
      | (.error (.problem problem), s) => (.ok 1, (runFrom (printProblem problem) s).2)
      | (.error failure, s) => (.error failure, s) := by
  have printed (result : PipelineResult) :
      Returns (result.built?.toList.forM printBuilt : Run PUnit) ⟨⟩ := by
    refine returns_forM fun built _ s => ?_
    have shown : Returns (built.links.forM fun d => Run.print d.render : Run PUnit) ⟨⟩ :=
      returns_forM fun _ _ => Run.returns_print _
    unfold printBuilt
    rw [shown.runFrom_bind]
    rfl
  unfold runReported
  rw [runFrom_bind, runFrom_tryCatch, runFrom_bind]
  rcases runFrom (runPipeline options) m with ⟨failure | result, s⟩
  · cases failure <;> rfl
  · dsimp only
    rw [(printed result).runFrom_bind]
    rfl

/-- The problem was reported, and no directive printed, from one machine to the other. -/
def Problem.IsReported (problem : Problem) (m m' : Machine) : Prop :=
  ∃ added, IsUnlinked added ∧
    m'.events = m.events ++ added ++ [.complained (s!"❌ {problem.message}" ++ "\n")]

/-- A run ends as its build does. -/
theorem runReported_cases :
    (∃ result, (runFrom (runPipeline options) m).1 = .ok result ∧
        (runFrom (runReported options) m).1 = .ok 0) ∨
      (∃ problem, (runFrom (runPipeline options) m).1 = .error (.problem problem) ∧
        (runFrom (runReported options) m).1 = .ok 1 ∧
        problem.IsReported m (runFrom (runReported options) m).2) ∨
      ∃ failure, failure.IsStray ∧ (runFrom (runPipeline options) m).1 = .error failure ∧
        (runFrom (runReported options) m).1 = .error failure := by
  obtain ⟨added, events, unlinked⟩ := (proceeds_runPipeline options m).output
  rw [runFrom_runReported]
  rcases ran : runFrom (runPipeline options) m with ⟨failure | result, s⟩
  · rw [ran] at events
    cases failure with
    | problem problem =>
        refine .inr (.inl ⟨problem, rfl, rfl, added, unlinked, ?_⟩)
        rw [← events]
        rfl
    | _ =>
        refine .inr (.inr ⟨_, ?_, rfl, rfl⟩)
        exact nofun
  · exact .inl ⟨result, rfl, rfl⟩

end Whole

/-- A run has no status exactly if its build ends with a failure that is no problem. It does so if
the options or the header cannot be used; in any other case that it does there was an obstacle. The
status is zero if the build is carried out; it is one if the build ends with a problem, and then that
was reported and no directive was printed. -/
theorem runReported_status (options : Options) (m : Machine) :
    (∀ failure, (runFrom (runReported options) m).1 = .error failure ↔
        failure.IsStray ∧ (runFrom (runPipeline options) m).1 = .error failure) ∧
      (options.CannotBegin m → ∃ failure, (runFrom (runReported options) m).1 = .error failure) ∧
      (∀ failure, (runFrom (runReported options) m).1 = .error failure →
        options.CannotBegin m ∨
          options.MeetsObstacle m failure (runFrom (runPipeline options) m).2) ∧
      ((∃ failure, (runFrom (runReported options) m).1 = .error failure) ∨
        (runFrom (runReported options) m).1 = .ok 0 ∨
        (runFrom (runReported options) m).1 = .ok 1) ∧
      ((runFrom (runReported options) m).1 = .ok 0 ↔
        ∃ result, (runFrom (runPipeline options) m).1 = .ok result) ∧
      ((runFrom (runReported options) m).1 = .ok 1 ↔
        ∃ problem, (runFrom (runPipeline options) m).1 = .error (.problem problem) ∧
          problem.IsReported m (runFrom (runReported options) m).2) := by
  have unreported (failure : Failure) : (runFrom (runReported options) m).1 = .error failure ↔
      failure.IsStray ∧ (runFrom (runPipeline options) m).1 = .error failure := by
    rcases runReported_cases options m with ⟨result, returned, status⟩ |
      ⟨problem, failed, status, reported⟩ | ⟨other, stray, failed, status⟩
    · simp [returned, status]
    · rw [failed, status]
      refine ⟨nofun, ?_⟩
      rintro ⟨stray, same⟩
      exact absurd (Except.error.inj same).symm (stray problem)
    · rw [failed, status, Except.error.injEq, Except.error.injEq]
      exact ⟨fun same => ⟨same ▸ stray, same⟩, And.right⟩
  refine ⟨unreported, fun unable => ?_, fun failure failed => ?_, ?_⟩
  · obtain ⟨failure, failed, stray⟩ := strays_runPipeline_of_cannotBegin options m unable
    exact ⟨failure, (unreported failure).mpr ⟨stray, failed⟩⟩
  · obtain ⟨stray, failed⟩ := (unreported failure).mp failed
    exact obstacle_of_strays_runPipeline options m (Prod.ext failed rfl) stray
  · rcases runReported_cases options m with ⟨result, returned, status⟩ |
      ⟨problem, failed, status, reported⟩ | ⟨failure, stray, failed, status⟩
    · simp [returned, status]
    · simp [failed, status, reported]
    · have noProblem (problem : Problem) : failure ≠ .problem problem := stray problem
      simp [failed, status, noProblem]

/-- A small project that asks for infinitely many jobs. -/
def endlessProject : Machine :=
  smallProjectWith [(["work", "ggml-tooling.yaml"], .file (.text "jobs: .inf\n"))]

/-- The number of jobs is no integer, and nothing is said about it. -/
theorem failed_endlessProject :
    (runFrom (runReported .default) endlessProject).1 = .error .outOfRange := by
  decide +kernel

end NativeVariants
