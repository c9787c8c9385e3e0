import NativeVariants.Proofs.Build.EarlyFailures
import NativeVariants.Proofs.Build.Record

set_option autoImplicit false

/-!
Contradictions among published facts. The check of a registry compares names as they are, but keys
hold them normalized. A build reports a contradiction only if two of its variants have names that
are written alike in keys, and a build of several such variants never returns
(`runPipeline_conflictFree_iff`).
-/

namespace NativeVariants
open Metadata

def Problem.IsConflict (problem : Problem) : Prop :=
  ∃ key, problem.report.failureClass = .metadataConflict key

theorem Problem.IsEarly.not_isConflict {problem : Problem} (early : problem.IsEarly) :
    ¬problem.IsConflict := by
  rintro ⟨key, conflict⟩
  unfold IsEarly at early
  rw [conflict] at early
  rcases early with configured | sourced
  · cases configured
  · cases sourced

section Building

variable {settled : Settled} {tool : String} {m m' : Machine} {problem : Problem}

theorem reports_publish_of_taken {P : Problem → Prop} {channel channel' : Channel}
    {items : List (String × String)} (taken : channel.stage items = .ok channel') :
    Reports P (publish channel items) := by
  have staged : FailsOnly P (channel.stage items) := by
    rw [taken]
    exact .ok _
  refine (Run.reports_ofReported staged).bind fun channel => ?_
  exact (reports_forM fun _ _ => Run.reports_note _ _).bind fun _ => reports_pure _

theorem publishInclude_empty (package : String) (includeDir : Path) :
    ∃ channel, (Channel.empty package).publishInclude includeDir = .ok channel := by
  refine ⟨_, Channel.stage_eq_ok_iff.mpr ⟨?_, rfl⟩⟩
  intro key value _ old known
  cases known

/-- What tells the variants apart tells the next one from those that were built before. -/
theorem ne_of_nodup_origins {f : Variant → String} {sets : List Artifacts} {v : Variant}
    {rest : List Variant} (nodup : ((sets.map Artifacts.origin ++ v :: rest).map f).Nodup) :
    ∀ other ∈ sets, f other.origin ≠ f v := by
  intro other inside same
  rw [List.map_append, List.map_cons, List.nodup_middle, List.nodup_cons, List.mem_append] at nodup
  apply nodup.1
  rw [← same]
  exact .inl (List.mem_map_of_mem (List.mem_map_of_mem inside))

/-- As long as all leads are different, only the process of a variant is to blame. The channel holds
the facts of the variants that were built before. -/
theorem problem_of_buildAll {channel : Channel} {sets : List Artifacts} {variants : List Variant}
    (holds : Channel.Holds settled.paths.packageName settled.paths.includeDir sets channel)
    (leads : ((sets.map Artifacts.origin ++ variants).map
      fun v => variantLead settled.paths.packageName v.name).Nodup)
    (basenames : ((sets.map Artifacts.origin ++ variants).map (·.basename)).Nodup)
    (failed : runFrom (buildAll settled tool channel variants) m =
      (.error (.problem problem), m')) :
    ∃ v ∈ variants, problem.IsOfVariant v := by
  induction variants generalizing channel sets m with
  | nil => cases failed
  | cons v rest ih =>
      have fresh := ne_of_nodup_origins leads
      have distinct := ne_of_nodup_origins basenames
      unfold buildAll at failed
      rcases runFrom_bind_eq_error.mp failed with failed | ⟨published, m₁, built, failed⟩
      · refine ⟨v, List.mem_cons_self, ?_⟩
        unfold buildAndPublish at failed
        rcases runFrom_bind_eq_error.mp failed with failed | ⟨artifacts, m₁, built, failed⟩
        · exact (reports_buildVariant _ _ _ _ _).of_run failed
        · have left := buildVariant_eq_ok built
          obtain ⟨channel', taken⟩ : ∃ next, channel.publishVariant artifacts = .ok next := by
            apply holds.exists_publishVariant
            rw [left]
            exact fresh
          refine Reports.of_run (Reports.bind (reports_publish_of_taken taken) fun _ => ?_) failed
          exact (Run.reports_note _ _).bind fun _ => reports_pure _
      · obtain ⟨left, taken, _⟩ := buildAndPublish_eq_ok built
        rcases runFrom_bind_eq_error.mp failed with failed | ⟨_, m₂, _, failed⟩
        · have more := holds.publishVariant taken (by rwa [left])
          have origin : published.2.origin = v := by rw [left]; rfl
          have shape : (sets ++ [published.2]).map Artifacts.origin ++ rest =
              sets.map Artifacts.origin ++ v :: rest := by
            rw [List.map_append, List.map_singleton, origin, List.append_assoc,
              List.singleton_append]
          obtain ⟨w, inRest, ofVariant⟩ :=
            ih more (by rwa [shape]) (by rwa [shape]) failed
          exact ⟨w, List.mem_cons_of_mem _ inRest, ofVariant⟩
        · cases failed

theorem Problem.IsRegistryFault.isEarly (fault : problem.IsRegistryFault) : problem.IsEarly := by
  cases problem <;> first | exact .inl rfl | exact fault.elim

/-- Facts contradict each other only if two variants that are built have one lead. -/
theorem conflict_of_buildVariants {options : Options} (conflict : problem.IsConflict)
    (failed : runFrom (buildVariants options settled) m = (.error (.problem problem), m')) :
    ∃ variants, Variant.forMode settled.config.multiVariant options.variants = .ok variants ∧
      ¬(variants.map fun v => variantLead settled.paths.packageName v.name).Nodup := by
  unfold buildVariants at failed
  rcases runFrom_bind_eq_error.mp failed with failed | ⟨opened, m₁, published, failed⟩
  · obtain ⟨channel, taken⟩ := publishInclude_empty settled.paths.packageName
      settled.paths.includeDir
    exact ((reports_publish_of_taken (P := fun _ => False) taken).of_run failed).elim
  · have start := Channel.holds_publishInclude (publish_eq_ok published)
    rcases runFrom_bind_eq_error.mp failed with failed | ⟨variants, m₂, chosen, building⟩
    · have refused : FailsOnly Problem.IsEarly
          (Variant.forMode settled.config.multiVariant options.variants) :=
        fun problem failed => Problem.IsRegistryFault.isEarly
          (Variant.isRegistryFault_of_registryFault? (Variant.forMode_eq_error failed).2)
      exact absurd conflict ((Run.reports_ofReported refused).of_run failed).not_isConflict
    · obtain ⟨inMode, rfl⟩ := ofReported_eq_ok chosen
      refine ⟨variants, inMode, fun leads => ?_⟩
      rcases runFrom_bind_eq_error.mp building with building | ⟨built, m₃, _, finishing⟩
      · obtain ⟨v, _, ofVariant⟩ := problem_of_buildAll start leads
          (Variant.nodup_basenames_of_forMode inMode) building
        obtain ⟨key, isConflict⟩ := conflict
        rw [ofVariant] at isConflict
        cases isConflict
      · refine (Reports.of_run (P := fun _ => False) ?_ finishing).elim
        exact (reports_commit _ _).bind fun _ => (reports_stageAll _ _ _).bind fun _ =>
          reports_pure _

/-- What is done before the variants are built contradicts nothing. -/
theorem conflict_of_runPipeline {options : Options} (conflict : problem.IsConflict)
    (failed : runFrom (runPipeline options) m = (.error (.problem problem), m')) :
    ∃ settled m₁, runFrom (options.generate m.environ) m = (.ok settled, m₁) ∧
      runFrom (buildVariants options settled) m₁ = (.error (.problem problem), m') := by
  have ofBindings {other : Problem} (bindings : other.IsOfBindings) : ¬other.IsConflict := by
    rintro ⟨key, isConflict⟩
    rw [bindings] at isConflict
    cases isConflict
  have generate : Reports (fun problem => ¬problem.IsConflict) (options.generate m.environ) := by
    refine ((options.reports_settle _).mono fun _ early => early.isSettling.1.not_isConflict).bind
      fun settled => ?_
    have generated : Reports (fun problem => ¬problem.IsConflict) settled.generate := by
      refine ((settled.paths.reports_check).mono fun _ early => early.1.not_isConflict).bind
        fun _ => (Run.reports_note _ _).bind fun _ => ?_
      exact ((reports_generateBindings _).mono fun _ => ofBindings).map _
    exact generated.bind fun _ => reports_pure _
  rcases runPipeline_eq_error failed with failed | ⟨settled, m₁, _, generated, failed⟩
  · exact absurd conflict (generate.of_run failed)
  · exact ⟨settled, m₁, generated, failed⟩

end Building

/-- An accepted registry leads to contradictions exactly if two of its names are written alike in
keys. Then nothing can be built from all of it; else no run over it reports a contradiction. -/
theorem runPipeline_conflictFree_iff (options : Options)
    (accepted : Variant.validate options.variants = .ok ()) :
    (∀ package, (expectedKeys package options.variants).Nodup ↔ NamedApart options.variants) ∧
      (NamedApart options.variants → ∀ m problem m',
        runFrom (runPipeline options) m = (.error (.problem problem), m') →
        ¬problem.IsConflict) ∧
      (¬NamedApart options.variants → ∀ m result built m',
        runFrom (runPipeline options) m = (.ok result, m') → result.built? = some built →
        built.multiVariant = false) := by
  have registry := Variant.validate_eq_ok_iff.mp accepted
  have leads : ∀ package, (options.variants.map fun v => variantLead package v.name).Nodup ↔
      NamedApart options.variants := fun package => nodup_leads_iff package _ registry.names
  refine ⟨fun package => (nodup_expectedKeys_iff package _).trans (leads package), ?_, ?_⟩
  · intro apart m problem m' failed conflict
    obtain ⟨settled, m₁, _, building⟩ := conflict_of_runPipeline conflict failed
    obtain ⟨variants, inMode, shared⟩ := conflict_of_buildVariants conflict building
    have choice := Variant.forMode_eq_ok_iff.mp inMode
    split at choice
    · rw [choice.2] at shared
      exact shared ((leads _).mpr apart)
    · rw [choice] at shared
      exact shared (List.nodup_singleton _)
  · intro alike m result built m' returned isBuilt
    rw [runFrom_runPipeline] at returned
    obtain ⟨settled, m₁, _, finishing⟩ := runFrom_bind_eq_ok.mp returned
    cases signal : m.environ.docsSignal? with
    | some name =>
        rw [signal] at finishing
        cases finishing
        cases isBuilt
    | none =>
        rw [signal] at finishing
        obtain ⟨_, m₂, finished, ended⟩ := runFrom_bind_eq_ok.mp finishing
        cases ended
        cases isBuilt
        obtain ⟨variants, channel, inMode, builds, _, _⟩ := buildVariants_eq_ok finished
        rw [builds.multiVariant]
        by_contra multi
        rw [Bool.not_eq_false] at multi
        rw [multi] at inMode
        have chosen := (Variant.forMode_eq_ok_iff.mp inMode).2
        have held := builds.holds.leads
        rw [List.map_map, chosen] at held
        exact alike ((leads _).mp (by rwa [List.map_map] at held))

/-- The registered variants are written differently. -/
theorem conflictFree_ofRegistered :
    Variant.validate Options.ofRegistered.variants = .ok () ∧
      NamedApart Options.ofRegistered.variants ∧
      (∀ package, (expectedKeys package Options.ofRegistered.variants).Nodup) ∧
      ∀ m problem m',
        runFrom (runPipeline .ofRegistered) m = (.error (.problem problem), m') →
        ¬problem.IsConflict := by
  have accepted : Variant.validate Options.ofRegistered.variants = .ok () := by decide
  have apart : NamedApart Options.ofRegistered.variants := by decide +kernel
  obtain ⟨keys, free, _⟩ := runPipeline_conflictFree_iff _ accepted
  exact ⟨accepted, apart, fun package => (keys package).mpr apart, free apart⟩

def Options.ofAlike : Options :=
  { Options.ofRegistered with variants := [⟨"a-b", "ggml_a"⟩, ⟨"a_b", "ggml_b"⟩] }

/-- The registry is accepted, all processes succeed, and yet the facts contradict each other. -/
theorem conflict_ofAlike :
    Variant.validate Options.ofAlike.variants = .ok () ∧
      ¬(expectedKeys "ggml-tooling" Options.ofAlike.variants).Nodup ∧
      (smallProject []).outcomes = [] ∧
      (runFrom (runPipeline .ofAlike) (smallProject [])).1 = .error (.problem
        (.metadataConflict "DEP_GGML_TOOLING_GGML_A_B_LIB_DIR"
          "/work/build/ggml-tooling/a-b/lib" "/work/build/ggml-tooling/a_b/lib")) := by
  decide +kernel

end NativeVariants
