import NativeVariants.Build.Pipeline
import NativeVariants.Proofs.Build.Preparation

set_option autoImplicit false

/-!
The steps of a build that returns. A build begins with the generation of the bindings
(`Options.generate`) and then ends, if only the bindings were asked for, or builds the variants.
-/

namespace NativeVariants
open Metadata

theorem discard_eq_ok {σ α : Type} {x : Stateful σ α} {s s' : σ} {done : PUnit}
    (ran : runFrom (discard x) s = (.ok done, s')) : ∃ a, runFrom x s = (.ok a, s') := by
  change runFrom ((fun _ => PUnit.unit) <$> x) s = _ at ran
  rw [runFrom_map] at ran
  rcases returned : runFrom x s with ⟨e | a, s₁⟩
  · rw [returned] at ran
    cases ran
  · rw [returned] at ran
    cases ran
    exact ⟨a, rfl⟩

theorem discard_eq_error {σ α : Type} {x : Stateful σ α} {s s' : σ} {e : Failure}
    (ran : runFrom (discard x) s = (.error e, s')) : runFrom x s = (.error e, s') := by
  change runFrom ((fun _ => PUnit.unit) <$> x) s = _ at ran
  rw [runFrom_map] at ran
  rcases returned : runFrom x s with ⟨e | a, s₁⟩
  · rw [returned] at ran
    cases ran
    rfl
  · rw [returned] at ran
    cases ran

theorem discard_bind {σ α β : Type} (x : Stateful σ α) (f : PUnit → Stateful σ β) :
    discard x >>= f = x >>= fun _ => f ⟨⟩ := bind_map_left (fun _ => PUnit.unit) x f

def Settled.generate (settled : Settled) : Run Unit := do
  settled.paths.check
  Run.note .pipeline
    s!"Source tree {settled.paths.sourceDir.display}, output {settled.paths.outDir.display}"
  discard <| generateBindings settled.bindingRequest

def Options.generate (options : Options) (environ : Environ) : Run Settled := do
  let settled ← options.settle environ
  settled.generate
  return settled

def Options.finish (options : Options) (signal? : Option String) (settled : Settled) :
    Run PipelineResult :=
  match signal? with
  | some signal => do
      Run.print s!"📚 {signal} is set: bindings only, skipping native build"
      return ⟨settled.paths.bindings, none⟩
  | none => do return ⟨settled.paths.bindings, some (← buildVariants options settled)⟩

theorem runFrom_runPipeline (options : Options) (m : Machine) :
    runFrom (runPipeline options) m =
      runFrom (options.generate m.environ >>= options.finish m.environ.docsSignal?) m := by
  unfold runPipeline Options.generate Settled.generate
  rw [runFrom_bind_of_ok (runFrom_get m)]
  simp only [bind_assoc, pure_bind]
  rfl

/-- A run that fails does so while the bindings are generated, or it builds variants and fails
there. -/
theorem runPipeline_eq_error {options : Options} {m m' : Machine} {failure : Failure}
    (failed : runFrom (runPipeline options) m = (.error failure, m')) :
    runFrom (options.generate m.environ) m = (.error failure, m') ∨
      ∃ settled m₁, m.environ.docsSignal? = none ∧
        runFrom (options.generate m.environ) m = (.ok settled, m₁) ∧
        runFrom (buildVariants options settled) m₁ = (.error failure, m') := by
  rw [runFrom_runPipeline] at failed
  rcases runFrom_bind_eq_error.mp failed with failed | ⟨settled, m₁, generated, finishing⟩
  · exact .inl failed
  · right
    refine ⟨settled, m₁, ?_⟩
    cases signal : m.environ.docsSignal? with
    | some name =>
        rw [signal] at finishing
        cases finishing
    | none =>
        rw [signal] at finishing
        rcases runFrom_bind_eq_error.mp finishing with failed | ⟨built, m₂, _, returned⟩
        · exact ⟨rfl, generated, failed⟩
        · cases returned

section Returns

variable {options : Options} {settled : Settled} {m m' : Machine}

theorem Options.generate_eq_ok {environ : Environ}
    (ran : runFrom (options.generate environ) m = (.ok settled, m')) :
    ∃ m₁ m₂ surface,
      runFrom (options.settle environ) m = (.ok settled, m₁) ∧ m.Untouched m₁ ∧
      runFrom settled.paths.check m₁ = (.ok (), m₁) ∧ m₁.Untouched m₂ ∧
      runFrom (generateBindings settled.bindingRequest) m₂ = (.ok surface, m') := by
  unfold generate at ran
  obtain ⟨found, m₁, settling, ran⟩ := runFrom_bind_eq_ok.mp ran
  obtain ⟨_, m₂, generating, returned⟩ := runFrom_bind_eq_ok.mp ran
  cases returned
  unfold Settled.generate at generating
  obtain ⟨_, m₃, checked, noting⟩ := runFrom_bind_eq_ok.mp generating
  obtain ⟨_, m₄, noted, discarding⟩ := runFrom_bind_eq_ok.mp noting
  obtain rfl : m₁ = m₃ := settled.paths.respects_check.of_run checked
  obtain ⟨surface, generated⟩ := discard_eq_ok discarding
  refine ⟨m₁, m₄, surface, settling, ?_, checked, ?_, generated⟩
  · exact (options.respects_settle Run.untouched_note _).of_run settling
  · exact (Run.untouched_note _ _).of_run noted

theorem Options.workingDir_of_generate {environ : Environ}
    (ran : runFrom (options.generate environ) m = (.ok settled, m')) :
    m'.workingDir = m.workingDir := by
  obtain ⟨m₁, m₂, surface, _, settled₁, _, noted, generated⟩ := generate_eq_ok ran
  obtain ⟨m₃, m₄, _, read, written, told⟩ := generateBindings_eq_ok generated
  calc m'.workingDir = m₄.workingDir := told.workingDir
    _ = m₃.workingDir := (Run.entry?_of_writeWhole written).1
    _ = m₂.workingDir := read.workingDir
    _ = m₁.workingDir := noted.talks.workingDir
    _ = m.workingDir := settled₁.talks.workingDir

theorem buildVariants_eq {built : Built}
    (ran : runFrom (buildVariants options settled) m = (.ok built, m')) :
    ∃ opened variants channel m₁ m₂ m₃,
      runFrom (publishInclude (.empty settled.paths.packageName) settled.paths.includeDir) m =
        (.ok opened, m₁) ∧
      Variant.forMode settled.config.multiVariant options.variants = .ok variants ∧
      runFrom (buildAll settled options.tool opened variants) m₁ =
        (.ok (channel, built.sets), m₂) ∧
      runFrom (commit channel settled.paths.metadata) m₂ = (.ok (), m₃) ∧
      runFrom (stageAll built.sets options.stagingDir? settled.config.target) m₃ =
        (.ok built.staged, m') ∧
      built.multiVariant = settled.config.multiVariant ∧
      built.links = buildLinks settled.config built.sets ∧
      built.metadata = settled.paths.metadata ∧ built.values = channel.values := by
  unfold buildVariants at ran
  obtain ⟨opened, m₁, published, ran⟩ := runFrom_bind_eq_ok.mp ran
  obtain ⟨variants, m₂, chosen, ran⟩ := runFrom_bind_eq_ok.mp ran
  obtain ⟨⟨channel, sets⟩, m₃, builtAll, ran⟩ := runFrom_bind_eq_ok.mp ran
  obtain ⟨_, m₄, committed, ran⟩ := runFrom_bind_eq_ok.mp ran
  obtain ⟨staged, m₅, copied, ran⟩ := runFrom_bind_eq_ok.mp ran
  cases ran
  obtain ⟨inMode, rfl⟩ := ofReported_eq_ok chosen
  exact ⟨opened, variants, channel, m₂, m₃, m₄, published, inMode, builtAll, committed, copied,
    rfl, rfl, rfl, rfl⟩

end Returns

end NativeVariants
