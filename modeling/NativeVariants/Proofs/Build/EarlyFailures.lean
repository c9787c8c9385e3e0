import NativeVariants.Proofs.Build.Problems
import NativeVariants.Proofs.Build.Steps
import NativeVariants.Proofs.Build.VariantProcesses
import NativeVariants.Proofs.Registry

set_option autoImplicit false

/-!
When a build that was asked for wrongly fails. Problems of the configuration and of the sources are
found before anything is done, except for the faults of a registry: those are found when the header
has been read and the bindings have been written (`runPipeline_untouched_iff`).
-/

namespace NativeVariants
open Metadata

/-- Whoever has read a header has done more than to leave records. -/
theorem Machine.Reads.not_untouched {writes : Location → Prop} {header : String} {m m' : Machine}
    (reads : m.Reads writes [header] m') : ¬m.Untouched m' := by
  rintro ⟨records, rfl⟩
  obtain ⟨added, addedEq, _, read, _⟩ := reads.events
  have same : records.map Event.complained = added := List.append_cancel_left addedEq
  have none : parses (records.map Event.complained) = [] := by
    apply List.filterMap_eq_nil_iff.mpr
    intro e inRecords
    obtain ⟨text, _, rfl⟩ := List.mem_map.mp inRecords
    rfl
  rw [← same, none] at read
  cases read

def Settled.WritesBindings (settled : Settled) (workingDir l : Location) : Prop :=
  l = settled.paths.bindings.resolve workingDir ∨
    l = (Run.draftOf settled.paths.bindings).resolve workingDir

/-- The header of a build has been read and its bindings are in place, and that is all. -/
structure Settled.HasGenerated (settled : Settled) (m m' : Machine) : Prop where
  reads : m.Reads (settled.WritesBindings m.workingDir) [settled.paths.wrapperHeader.display] m'
  bindings : ∃ surface, m'.files.entry? (settled.paths.bindings.resolve m.workingDir) =
    some (.file (.text (Bindings.render surface settled.paths.wrapperHeader.name)))

section Generation

variable {settled : Settled} {m m' m'' : Machine}

theorem Settled.hasGenerated {surface : Header.Surface}
    (generated : runFrom (generateBindings settled.bindingRequest) m = (.ok surface, m')) :
    settled.HasGenerated m m' := by
  have once : ReadsOnce m.workingDir (settled.WritesBindings m.workingDir)
      settled.paths.wrapperHeader.display (generateBindings settled.bindingRequest) :=
    readsOnce_generateBindings settled.bindingRequest (.inr rfl) (.inl rfl)
  have reads := once m rfl
  rw [generated] at reads
  rcases reads with reads | ⟨_, failure, failed⟩
  · refine ⟨reads, surface, ?_⟩
    obtain ⟨m₁, m₂, _, before, written, after⟩ := generateBindings_eq_ok generated
    have there := (Run.entry?_of_writeWhole written).2
    rw [before.workingDir] at there
    rw [after.files]
    exact there
  · cases failed

theorem Settled.HasGenerated.of_untouched (untouched : m.Untouched m')
    (generated : settled.HasGenerated m' m'') : settled.HasGenerated m m'' := by
  have here : m'.workingDir = m.workingDir := (untouched.idles fun _ => True).workingDir
  obtain ⟨reads, bindings⟩ := generated
  rw [here] at reads bindings
  exact ⟨(untouched.idles _).reads.trans reads, bindings⟩

theorem Settled.HasGenerated.untouched (generated : settled.HasGenerated m m')
    (untouched : m'.Untouched m'') : settled.HasGenerated m m'' := by
  have reads := generated.reads.trans (untouched.idles _).reads
  rw [List.append_nil] at reads
  refine ⟨reads, ?_⟩
  obtain ⟨records, rfl⟩ := untouched
  exact generated.bindings

end Generation

/-- Only the registry makes a build of the variants fail as one that was asked for wrongly. -/
theorem buildVariants_early {options : Options} {settled : Settled} {problem : Problem}
    {m m' : Machine} (early : problem.IsEarly)
    (failed : runFrom (buildVariants options settled) m = (.error (.problem problem), m')) :
    Variant.forMode settled.config.multiVariant options.variants = .error problem ∧
      m.Untouched m' := by
  unfold buildVariants at failed
  rcases runFrom_bind_eq_error.mp failed with failed | ⟨channel, m₁, published, failed⟩
  · exact absurd early ((reports_publish _ _).of_run failed)
  · have before : m.Untouched m₁ := (respects_publish Run.untouched_note _ _).of_run published
    rcases runFrom_bind_eq_error.mp failed with failed | ⟨variants, m₂, chosen, failed⟩
    · unfold Run.ofReported at failed
      rw [runFrom_ofExcept] at failed
      cases mode : Variant.forMode settled.config.multiVariant options.variants with
      | error other =>
          rw [mode] at failed
          cases failed
          exact ⟨rfl, before⟩
      | ok variants =>
          rw [mode] at failed
          cases failed
    · refine absurd early (Reports.of_run (P := Problem.IsOfBuild) ?_ failed)
      refine (reports_buildAll _ _ _ _).bind fun published => ?_
      exact (reports_commit _ _).bind fun _ => (reports_stageAll _ _ _).bind fun _ =>
        reports_pure _

theorem Variant.isRegistryFault_of_registryFault? {names basenames : List String}
    {variants : List Variant} {problem : Problem}
    (found : registryFault? names basenames variants = some problem) :
    problem.IsRegistryFault := by
  induction variants generalizing names basenames with
  | nil => cases found
  | cons v rest ih =>
      unfold registryFault? at found
      split at found
      · cases found
        trivial
      · split at found
        · cases found
          trivial
        · split at found
          · cases found
            trivial
          · exact ih found

theorem Variant.forMode_eq_error {multiVariant : Bool} {registry : List Variant}
    {problem : Problem} (failed : forMode multiVariant registry = .error problem) :
    multiVariant = true ∧ registryFault? [] [] registry = some problem := by
  cases multiVariant with
  | false => cases failed
  | true =>
      refine ⟨rfl, ?_⟩
      cases found : registryFault? [] [] registry with
      | none =>
          have checked : forMode true registry = .ok registry := by
            simp only [forMode, validate, found]
            rfl
          rw [checked] at failed
          cases failed
      | some other =>
          have checked : forMode true registry = .error other := by
            simp only [forMode, validate, found]
            rfl
          rw [checked] at failed
          cases failed
          rfl

/-- A build that was asked for wrongly has done nothing, or a registry is at fault. -/
theorem runPipeline_early {options : Options} {m m' : Machine} {problem : Problem}
    (early : problem.IsEarly)
    (failed : runFrom (runPipeline options) m = (.error (.problem problem), m')) :
    m.Untouched m' ∧ ¬problem.IsRegistryFault ∨ ∃ settled,
      (runFrom (options.settle m.environ) m).1 = .ok settled ∧
      m.environ.docsSignal? = none ∧
      Variant.forMode settled.config.multiVariant options.variants = .error problem ∧
      settled.HasGenerated m m' := by
  unfold runPipeline at failed
  rw [runFrom_bind_of_ok (runFrom_get m)] at failed
  rcases runFrom_bind_eq_error.mp failed with failed | ⟨settled, m₁, settling, failed⟩
  · refine .inl ⟨(options.respects_settle Run.untouched_note _).of_run failed, ?_⟩
    exact ((options.reports_settle _).of_run failed).2
  have settledHere : m.Untouched m₁ :=
    (options.respects_settle Run.untouched_note _).of_run settling
  rcases runFrom_bind_eq_error.mp failed with failed | ⟨_, m₂, checked, failed⟩
  · obtain rfl : m₁ = m' := settled.paths.respects_check.of_run failed
    exact .inl ⟨settledHere, (settled.paths.reports_check.of_run failed).2⟩
  obtain rfl : m₁ = m₂ := settled.paths.respects_check.of_run checked
  rcases runFrom_bind_eq_error.mp failed with failed | ⟨_, m₃, noted, failed⟩
  · exact ((Run.reports_note (P := fun _ => False) _ _).of_run failed).elim
  have notedHere : m.Untouched m₃ :=
    trans_of Machine.Untouched settledHere ((Run.untouched_note _ _).of_run noted)
  rcases runFrom_bind_eq_error.mp failed with failed | ⟨_, m₄, generated, failed⟩
  · have ofBindings : problem.IsOfBindings :=
      ((reports_generateBindings settled.bindingRequest).map _).of_run failed
    rcases early with configured | sourced
    · rw [ofBindings] at configured
      cases configured
    · rw [ofBindings] at sourced
      cases sourced
  obtain ⟨surface, generated⟩ := discard_eq_ok generated
  have generatedHere : settled.HasGenerated m m₄ :=
    (Settled.hasGenerated generated).of_untouched notedHere
  cases signal : m.environ.docsSignal? with
  | some name =>
      rw [signal] at failed
      cases failed
  | none =>
      rw [signal] at failed
      rcases runFrom_bind_eq_error.mp failed with failed | ⟨built, m₅, finished, failed⟩
      · obtain ⟨atFault, unchanged⟩ := buildVariants_early early failed
        exact .inr ⟨settled, by rw [settling], rfl, atFault, generatedHere.untouched unchanged⟩
      · cases failed

/-- A build that was asked for wrongly fails before anything is done, unless it is the registry that
is at fault: then the header has been read and the bindings have been written, but no process has
been started. -/
theorem runPipeline_untouched_iff (options : Options) (m m' : Machine) (problem : Problem)
    (early : problem.IsEarly)
    (failed : runFrom (runPipeline options) m = (.error (.problem problem), m')) :
    (m.Untouched m' ↔ ¬problem.IsRegistryFault) ∧
      (problem.IsRegistryFault → ∃ settled,
        (runFrom (options.settle m.environ) m).1 = .ok settled ∧
        m.environ.docsSignal? = none ∧
        settled.config.multiVariant = true ∧
        Variant.registryFault? [] [] options.variants = some problem ∧
        settled.HasGenerated m m') := by
  rcases runPipeline_early early failed with ⟨untouched, other⟩ | ⟨settled, settling, rest⟩
  · exact ⟨iff_of_true untouched other, fun atFault => absurd atFault other⟩
  · obtain ⟨quiet, unbuildable, generated⟩ := rest
    obtain ⟨multiVariant, found⟩ := Variant.forMode_eq_error unbuildable
    have atFault := Variant.isRegistryFault_of_registryFault? found
    refine ⟨iff_of_false generated.reads.not_untouched (not_not_intro atFault), fun _ => ?_⟩
    exact ⟨settled, settling, quiet, multiVariant, found, generated⟩

def Options.ofNamesakes : Options :=
  { Options.ofRegistered with variants := [⟨"llama", "ggml_llama"⟩, ⟨"llama", "ggml_other"⟩] }

/-- The registry is refused once the bindings are there. -/
theorem touched_ofNamesakes :
    let run := runFrom (runPipeline .ofNamesakes) (smallProject [])
    let bindings := ["work", "build", "ggml-tooling", "bindings.py"]
    run.1 = .error (.problem (.duplicateVariantName "llama")) ∧
      (Problem.duplicateVariantName "llama").report.failureClass = .configuration ∧
      (smallProject []).files.entry? bindings = none ∧ (run.2.files.entry? bindings).isSome ∧
      parses run.2.events = ["/work/wrapper.h"] := by
  decide +kernel

theorem untouched_iff_ofNamesakes :
    ∃ problem m', problem.IsEarly ∧
      runFrom (runPipeline .ofNamesakes) (smallProject []) = (.error (.problem problem), m') ∧
      (Machine.Untouched (smallProject []) m' ↔ ¬problem.IsRegistryFault) ∧
      (problem.IsRegistryFault → ∃ settled,
        (runFrom (Options.ofNamesakes.settle (smallProject []).environ) (smallProject [])).1 =
          .ok settled ∧
        (smallProject []).environ.docsSignal? = none ∧
        settled.config.multiVariant = true ∧
        Variant.registryFault? [] [] Options.ofNamesakes.variants = some problem ∧
        settled.HasGenerated (smallProject []) m') := by
  obtain ⟨m', failed⟩ := exists_of_result (x := runPipeline .ofNamesakes) (s := smallProject [])
    (r := .error (.problem (.duplicateVariantName "llama"))) (by decide +kernel)
  have early : (Problem.duplicateVariantName "llama").IsEarly := .inl rfl
  exact ⟨_, _, early, failed, runPipeline_untouched_iff _ _ _ _ early failed⟩

end NativeVariants
