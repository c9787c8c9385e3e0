import NativeVariants.Proofs.Build.RepeatedBindings
import NativeVariants.Proofs.Build.RepeatedStaging

set_option autoImplicit false

/-!
Builds that are repeated. On the files that a build has left, the same build returns the same and
changes nothing (`runPipeline_isRepeatable`), if its outputs are apart from one another and from its
inputs, and everything else leaves them alone.
-/

namespace NativeVariants
open Metadata

/-! ### The record once more -/

section Record

variable {channel : Channel} {p : Path} {m m' last : Machine}

theorem holdsWhole_of_commit (sound : m.files.IsSound)
    (committed : runFrom (commit channel p) m = (.ok (), m')) :
    m'.HoldsWhole p channel.render ∧
      m.Changes (fun l => l = (Run.draftOf p).resolve m.workingDir ∨ l = p.resolve m.workingDir)
        (· = (Run.draftOf p).resolve m.workingDir) m' := by
  unfold commit at committed
  obtain ⟨_, m₁, written, noted⟩ := runFrom_bind_eq_ok.mp committed
  have changes := Run.changes_of_writeWhole sound written
  have holds := Run.holdsWhole_of_writeWhole sound written
  have talks : m₁.Talks m' := (Run.talks_note _ _).of_run noted
  have after : m₁.Changes (fun _ => False) (fun _ => False) m' := talks.changes changes.sound _ _
  exact ⟨holds.of_changes after not_false,
    changes.trans (after.mono (fun _ => False.elim) fun _ => False.elim)⟩

theorem replays_commit (sound : last.files.IsSound) (holds : last.HoldsWhole p channel.render)
    (free : last.files.entry? ((Run.draftOf p).resolve last.workingDir) = none) :
    Replays last (commit channel p) ⟨⟩ :=
  (Run.replays_writeWhole sound holds free).bind (Run.replays_note _ _)

end Record

/-! ### The variants once more -/

namespace Settled

def recordDraft (settled : Settled) (workingDir : Location) : Location :=
  (Run.draftOf settled.paths.metadata).resolve workingDir

def allConfigs (settled : Settled) (options : Options) (workingDir : Location) : List Location :=
  (settled.variants options.variants).flatMap (settled.configs workingDir)

/-- The outputs of a build of the variants are apart from one another and from what is kept, and
everything else leaves them alone. -/
structure IsBuiltApart (settled : Settled) (options : Options) (kept : List Location)
    (built : Built) (m m' : Machine) : Prop where
  /-- No output is at the place of another one, or of the draft of the record. -/
  places : (kept ++ settled.paths.metadata.resolve m.workingDir ::
    settled.recordDraft m.workingDir :: settled.allConfigs options m.workingDir).Nodup
  /-- No source is where the record is drafted. -/
  sources : ∀ p ∈ settled.paths.required,
    p.resolve m.workingDir ≠ settled.recordDraft m.workingDir
  /-- In the end no draft of the record is left. -/
  noDraft : m'.files.entry? (settled.recordDraft m.workingDir) = none
  /-- No process writes where something was read or written before. -/
  processes : settled.LeavesAlone m.workingDir (settled.allConfigs options m.workingDir)
    (settled.variants options.variants) m.outcomes kept
  /-- No package configuration has marks of its own. -/
  unmarked : PackageConfig.IsUnmarked (settled.allConfigs options m.workingDir) m.files
  /-- No library is staged twice, -/
  staged : built.staged.Nodup
  /-- or in the place of another output, -/
  copies : ∀ dest ∈ options.stagingDir?, ∀ l, IsStagedAt dest m.workingDir built.staged l →
    l ∉ kept ++ settled.paths.metadata.resolve m.workingDir ::
      settled.allConfigs options m.workingDir
  /-- or where libraries are looked for. -/
  libraries : ∀ dest ∈ options.stagingDir?, ∀ v ∈ settled.variants options.variants, ∀ l,
    (settled.artifacts m.workingDir v).IsSought settled.config.target m.workingDir l →
      ¬IsStagedAt dest m.workingDir built.staged l

/-- Outputs are as much apart from one another after some changes elsewhere. -/
theorem IsBuiltApart.of_changes {settled : Settled} {options : Options} {kept : List Location}
    {built : Built} {m n m' : Machine} {writes drafts : Location → Prop}
    (apart : settled.IsBuiltApart options kept built m m') (changes : m.Changes writes drafts n)
    (outcomes : n.outcomes = m.outcomes)
    (elsewhere : ∀ l ∈ settled.allConfigs options m.workingDir, ¬writes l) :
    settled.IsBuiltApart options kept built n m' := by
  obtain ⟨places, sources, noDraft, processes, unmarked, staged, copies, libraries⟩ := apart
  have later := unmarked.of_changes changes elsewhere
  rw [← changes.workingDir] at places sources noDraft processes later copies libraries
  rw [← outcomes] at processes
  exact ⟨places, sources, noDraft, processes, later, staged, copies, libraries⟩

structure IsRecorded (settled : Settled) (tool : String) (channel : Channel)
    (variants : List Variant) (m : Machine) : Prop where
  built : ∀ v ∈ variants, v.IsBuilt settled.paths.sourceDir settled.paths.outDir
    ⟨settled.jobs, tool⟩ m
  record : m.HoldsWhole settled.paths.metadata channel.render

section Recorded

variable {settled : Settled} {tool : String} {channel : Channel} {variants : List Variant}
  {kept : List Location} {m m' m'' : Machine}

theorem IsRecorded.of_changes {writes drafts : Location → Prop}
    (recorded : settled.IsRecorded tool channel variants m) (areKnown : variants ⊆ Variant.known)
    (plain : Path.upward ∉ m.workingDir) (sound : m.files.IsSound)
    (changes : m.Changes writes drafts m')
    (apart : ∀ l ∈ settled.paths.metadata.resolve m.workingDir ::
      variants.flatMap (settled.configs m.workingDir), ¬writes l) :
    settled.IsRecorded tool channel variants m' where
  built := by
    intro v inVariants
    apply (recorded.built v inVariants).of_changes (areKnown inVariants) plain sound changes
    intro p isConfig
    apply apart
    apply List.mem_cons_of_mem
    exact List.mem_flatMap.mpr ⟨v, inVariants, List.mem_map_of_mem isConfig⟩
  record := recorded.record.of_changes changes (apart _ List.mem_cons_self)

/-- What is left when the variants have been built and their facts recorded. -/
theorem isRecorded_of_commit {sets : List Artifacts} {start : Channel}
    (areKnown : variants ⊆ Variant.known) (plain : Path.upward ∉ m.workingDir)
    (sound : m.files.IsSound)
    (places : (kept ++ settled.paths.metadata.resolve m.workingDir ::
      settled.recordDraft m.workingDir ::
        variants.flatMap (settled.configs m.workingDir)).Nodup)
    (processes : settled.LeavesAlone m.workingDir
      (variants.flatMap (settled.configs m.workingDir)) variants m.outcomes kept)
    (unmarked : PackageConfig.IsUnmarked (variants.flatMap (settled.configs m.workingDir)) m.files)
    (builtAll : runFrom (buildAll settled tool start variants) m = (.ok (channel, sets), m'))
    (committed : runFrom (commit channel settled.paths.metadata) m' = (.ok (), m'')) :
    settled.IsRecorded tool channel variants m'' ∧
      m.Changes (· ∉ kept) (· = settled.recordDraft m.workingDir) m'' := by
  obtain ⟨keptNodup, laterNodup, keptApart⟩ := List.nodup_append'.mp places
  rw [List.nodup_cons, List.nodup_cons, List.mem_cons, not_or] at laterNodup
  obtain ⟨⟨_, recordApart⟩, draftApart, configsNodup⟩ := laterNodup
  have keptConfigs : (kept ++ variants.flatMap (settled.configs m.workingDir)).Nodup := by
    apply List.nodup_append'.mpr ⟨keptNodup, configsNodup, _⟩
    exact fun l isKept isConfig => keptApart isKept (by simp [isConfig])
  obtain ⟨areBuilt, building⟩ := isBuilt_of_buildAll areKnown plain sound processes
    (List.Subset.refl _) keptConfigs unmarked builtAll
  have here := building.workingDir
  obtain ⟨record, committing⟩ := holdsWhole_of_commit building.sound committed
  rw [here] at committing
  refine ⟨⟨?_, record⟩, ?_⟩
  · intro v inVariants
    apply (areBuilt v inVariants).of_changes (areKnown inVariants) (by rwa [here]) building.sound
      committing
    rw [here]
    intro p isConfig
    have inConfigs : p.resolve m.workingDir ∈ variants.flatMap (settled.configs m.workingDir) :=
      List.mem_flatMap.mpr ⟨v, inVariants, List.mem_map_of_mem isConfig⟩
    rintro (isDraft | isRecord)
    · rw [isDraft] at inConfigs
      exact draftApart inConfigs
    · rw [isRecord] at inConfigs
      exact recordApart inConfigs
  · refine (building.mono (fun _ => id) fun _ => False.elim).trans (committing.mono ?_ fun _ => id)
    rintro l (rfl | rfl) isKept
    · exact keptApart isKept (by simp [recordDraft])
    · exact keptApart isKept (by simp)

end Recorded

end Settled

theorem replays_buildVariants {options : Options} {settled : Settled} {kept : List Location}
    {built : Built} {m m' : Machine} (registered : options.variants = Variant.registered)
    (plain : Path.upward ∉ m.workingDir) (sound : m.files.IsSound)
    (apart : settled.IsBuiltApart options kept built m m')
    (ran : runFrom (buildVariants options settled) m = (.ok built, m')) :
    Replays m' (buildVariants options settled) built ∧
      m.Changes (· ∉ kept) (· = settled.recordDraft m.workingDir) m' := by
  obtain ⟨opened, variants, channel, m₁, m₂, m₃, published, inMode, builtAll, committed, copied,
    multi, links, metadata, values⟩ := buildVariants_eq ran
  have chosen : settled.variants options.variants = variants := by
    unfold Settled.variants
    rw [inMode]
    rfl
  have areKnown : variants ⊆ Variant.known := by
    rw [registered] at inMode
    exact Variant.mem_known_of_forMode inMode
  have talks : m.Talks m₁ := (respects_publish Run.talks_note _ _).of_run published
  have before : m.Changes (fun _ => False) (fun _ => False) m₁ := talks.changes sound _ _
  obtain ⟨places, _, noDraft, processes, unmarked, nodup, copies, libraries⟩ := apart
  unfold Settled.allConfigs at *
  rw [chosen] at *
  rw [← talks.workingDir] at plain places noDraft processes unmarked copies libraries ⊢
  rw [← talks.outcomes] at processes
  rw [← talks.files] at unmarked
  -- The variants are built and recorded,
  obtain ⟨recorded, recording⟩ := Settled.isRecorded_of_commit areKnown plain before.sound places
    processes unmarked builtAll committed
  obtain ⟨setsEq, taken, _⟩ := buildAll_eq_ok builtAll
  simp only at setsEq taken
  have here := recording.workingDir
  -- and their libraries are staged.
  have placed : ∀ artifacts ∈ built.sets, artifacts.IsPlaced settled.config.target := by
    rw [setsEq]
    intro artifacts inSets
    obtain ⟨v, inVariants, rfl⟩ := List.mem_map.mp inSets
    exact settled.isPlaced_artifacts plain (areKnown inVariants) _
  have looked : ∀ dest ∈ options.stagingDir?, ∀ artifacts ∈ built.sets, ∀ l,
      artifacts.IsSought settled.config.target m₃.workingDir l →
        ¬IsStagedAt dest m₃.workingDir built.staged l := by
    rw [setsEq, here]
    intro dest isDest artifacts inSets
    obtain ⟨v, inVariants, rfl⟩ := List.mem_map.mp inSets
    exact libraries dest isDest v inVariants
  obtain ⟨stagesAgain, staging⟩ :=
    replays_stageAll placed recording.sound looked nodup copied
  rw [here] at staging
  have last : settled.IsRecorded options.tool channel variants m' := by
    apply recorded.of_changes areKnown (by rwa [here]) recording.sound staging
    rw [here]
    rintro l inside ⟨dest, isDest, there⟩
    exact copies dest isDest l there (List.mem_append_right _ inside)
  have hereLast : m'.workingDir = m₁.workingDir := staging.workingDir.trans here
  constructor
  · rw [setsEq, ← hereLast] at taken
    rw [← hereLast] at noDraft
    apply (replays_publish (publish_eq_ok published)).bind
    apply (replays_ofReported inMode).bind
    apply (replays_buildAll last.built taken).bind
    apply (replays_commit staging.sound last.record noDraft).bind
    rw [hereLast, ← setsEq]
    apply stagesAgain.bind
    have same : (⟨built.sets, settled.config.multiVariant,
        buildLinks settled.config built.sets, settled.paths.metadata, channel.values,
        built.staged⟩ : Built) = built := by
      rw [← multi, ← links, ← metadata, ← values]
    rw [same]
    exact replays_pure _
  · refine (before.mono (fun _ => False.elim) fun _ => False.elim).trans
      (recording.trans (staging.mono ?_ fun _ => False.elim))
    rintro l ⟨dest, isDest, there⟩ isKept
    exact copies dest isDest l there (List.mem_append_left _ isKept)

/-! ### The whole build once more -/

/-- What a build that goes on after the bindings leaves alone. -/
def Options.kept (options : Options) (settled : Settled) (workingDir : Location) : List Location :=
  [options.projectFile.resolve workingDir, settled.paths.bindings.resolve workingDir,
    settled.draft workingDir]

/-- The outputs of a build are apart from one another and from its inputs, and everything else
leaves them alone. -/
structure Options.IsApart (options : Options) (settled : Settled) (result : PipelineResult)
    (m m' : Machine) : Prop where
  /-- The project's root is found without leading back, or it was there before. -/
  rooted : Path.upward ∉ options.projectRoot.parts ∨ m.HasDirectory options.projectRoot
  /-- The bindings and their draft are not where the project file is, -/
  places : (options.kept settled m.workingDir).Nodup
  /-- and the draft is not where a source is. -/
  sources : ∀ p ∈ settled.paths.required, p.resolve m.workingDir ≠ settled.draft m.workingDir
  /-- In the end no draft is left. -/
  noDraft : m'.files.entry? (settled.draft m.workingDir) = none
  built : ∀ built ∈ result.built?,
    settled.IsBuiltApart options (options.kept settled m.workingDir) built m m'

section Whole

variable {options : Options} {settled : Settled} {result : PipelineResult} {m m' : Machine}

/-- The end of a build is replayed on what it has left, without a change. -/
theorem Options.replays_finish {signal? : Option String} {kept : List Location}
    (registered : options.variants = Variant.registered) (plain : Path.upward ∉ m.workingDir)
    (sound : m.files.IsSound)
    (apart : ∀ built ∈ result.built?, settled.IsBuiltApart options kept built m m')
    (ran : runFrom (options.finish signal? settled) m = (.ok result, m')) :
    Replays m' (options.finish signal? settled) result ∧
      ∃ drafts : Location → Prop,
        (∀ p ∈ settled.paths.required, ¬drafts (p.resolve m.workingDir)) ∧
        m.Changes (· ∉ kept) drafts m' := by
  cases signal? with
  | some signal =>
      obtain ⟨_, m₁, printed, returned⟩ := runFrom_bind_eq_ok.mp ran
      cases returned
      have talks : m.Talks m' := (Run.talks_print _).of_run printed
      refine ⟨(Run.replays_print _).bind (replays_pure _), fun _ => False, fun _ _ => not_false, ?_⟩
      exact talks.changes sound _ _
  | none =>
      obtain ⟨built, m₁, finished, returned⟩ := runFrom_bind_eq_ok.mp ran
      cases returned
      obtain ⟨again, changes⟩ :=
        replays_buildVariants registered plain sound (apart built rfl) finished
      exact ⟨again.bind (replays_pure _), _, (apart built rfl).sources, changes⟩

end Whole

/-- Whenever the build is run once more with the same environment on the files that it has left, the
header is reported as before, and all processes succeed and leave no files, it returns the same and
changes nothing. -/
def Options.IsRepeatable (options : Options) (result : PipelineResult) (m m' : Machine) : Prop :=
  ∀ again, m'.Repeats again → again.environ = m.environ → again.nextUnit = m.nextUnit →
    ∃ n', runFrom (runPipeline options) again = (.ok result, n') ∧ n'.files = m'.files

section Parts

variable {options : Options} {settled : Settled} {result : PipelineResult} {m n m' : Machine}

theorem Options.IsApart.later (apart : options.IsApart settled result m m')
    (written : m.Changes (fun l => l = settled.draft m.workingDir ∨
      l = settled.paths.bindings.resolve m.workingDir) (· = settled.draft m.workingDir) n)
    (outcomes : n.outcomes = m.outcomes) :
    ∀ built ∈ result.built?, settled.IsBuiltApart options (options.kept settled m.workingDir)
      built n m' := by
  intro built isBuilt
  apply (apart.built built isBuilt).of_changes written outcomes
  intro l isConfig written
  have isKept : l ∈ options.kept settled m.workingDir := by
    rcases written with rfl | rfl
    · simp [kept]
    · simp [kept]
  have places := (List.nodup_append'.mp (apart.built built isBuilt).places).2.2
  exact places isKept (by simp [isConfig])

theorem Options.isRepeatable_of_parts
    (settles : Replays m' (options.settle m.environ) settled)
    (generated : settled.IsGenerated m.nextUnit m') (sound : m'.files.IsSound)
    (noDraft : m'.files.entry? (settled.draft m'.workingDir) = none)
    (finishes : Replays m' (options.finish m.environ.docsSignal? settled) result) :
    options.IsRepeatable result m m' := by
  intro again repeats environ reads
  obtain ⟨n₁, settling, repeatsSettled⟩ := settles again repeats
  have untouched : again.Untouched n₁ :=
    (options.respects_settle Run.untouched_note _).of_run settling
  obtain ⟨n₂, generating, repeatsGenerated⟩ :=
    generated.again sound noDraft repeatsSettled (untouched.nextUnit.trans reads)
  obtain ⟨n', finishing, repeatsFinished⟩ := finishes n₂ repeatsGenerated
  refine ⟨n', ?_, repeatsFinished.files⟩
  rw [runFrom_runPipeline, environ]
  unfold generate
  rw [bind_assoc, runFrom_bind_of_ok settling, bind_assoc, runFrom_bind_of_ok generating,
    pure_bind]
  exact finishing

end Parts

/-! ### Builds whose outputs are apart -/

/-- Libraries of the given names are staged apart from the other outputs, and from all places where
libraries are looked for. -/
structure Settled.StagesApart (settled : Settled) (options : Options) (workingDir : Location)
    (dest : Path) (names : List String) (staged : List Path) : Prop where
  isDest : options.stagingDir? = some dest
  areNames : ∀ name ∈ names, Path.IsName name
  areCopies : staged = names.map dest.child
  nodup : staged.Nodup
  copies : ∀ l ∈ copyPlaces dest workingDir names,
    l ∉ options.kept settled workingDir ++ settled.paths.metadata.resolve workingDir ::
      settled.allConfigs options workingDir
  libraries : ∀ v ∈ settled.variants options.variants,
    ∀ name ∈ (settled.artifacts workingDir v).libraries,
      ∀ source ∈ (settled.artifacts workingDir v).candidates settled.config.target name,
        source.resolve workingDir ∉ copyPlaces dest workingDir names

instance (settled : Settled) (options : Options) (workingDir : Location) (dest : Path)
    (names : List String) (staged : List Path) :
    Decidable (settled.StagesApart options workingDir dest names staged) :=
  decidable_of_iff (_ ∧ _ ∧ _ ∧ _ ∧ _ ∧ _)
    ⟨fun ⟨a, b, c, d, e, f⟩ => ⟨a, b, c, d, e, f⟩, fun ⟨a, b, c, d, e, f⟩ => ⟨a, b, c, d, e, f⟩⟩

/-- Whether a build that stages libraries of the given names shows that its outputs are apart. -/
def Options.showsApart (options : Options) (dest : Path) (names : List String) (m : Machine) :
    Bool :=
  match (runFrom (options.settle m.environ) m).1, runFrom (runPipeline options) m with
  | .ok settled, (.ok result, m') =>
      Path.upward ∉ options.projectRoot.parts &&
      (∀ p ∈ settled.paths.required, p.resolve m.workingDir ≠ settled.draft m.workingDir ∧
        p.resolve m.workingDir ≠ settled.recordDraft m.workingDir) &&
      m'.files.entry? (settled.draft m.workingDir) = none &&
      m'.files.entry? (settled.recordDraft m.workingDir) = none &&
      (options.kept settled m.workingDir ++ settled.paths.metadata.resolve m.workingDir ::
        settled.recordDraft m.workingDir :: settled.allConfigs options m.workingDir).Nodup &&
      settled.LeavesAlone m.workingDir (settled.allConfigs options m.workingDir)
        (settled.variants options.variants) m.outcomes (options.kept settled m.workingDir) &&
      PackageConfig.IsUnmarked (settled.allConfigs options m.workingDir) m.files &&
      ∀ built ∈ result.built?,
        settled.StagesApart options m.workingDir dest names built.staged
  | _, _ => false

theorem Options.exists_isApart_of_shows {options : Options} {dest : Path} {names : List String}
    {m : Machine} (shows : options.showsApart dest names m = true) :
    ∃ settled result m', (runFrom (options.settle m.environ) m).1 = .ok settled ∧
      runFrom (runPipeline options) m = (.ok result, m') ∧
      options.IsApart settled result m m' := by
  unfold showsApart at shows
  split at shows
  · rename_i settled result m' settles returned
    simp only [Bool.and_eq_true, decide_eq_true_eq] at shows
    obtain ⟨⟨⟨⟨⟨⟨⟨rooted, sources⟩, noDraft⟩, noRecordDraft⟩, places⟩, processes⟩, unmarked⟩,
      stages⟩ := shows
    refine ⟨settled, result, m', settles, returned, .inl rooted, (List.nodup_append'.mp places).1,
      fun p isRequired => (sources p isRequired).1, noDraft, fun built isBuilt => ?_⟩
    obtain ⟨isDest, areNames, staged, nodup, copies, libraries⟩ := stages built isBuilt
    have copied : ∀ l, IsStagedAt dest m.workingDir built.staged l →
        l ∈ copyPlaces dest m.workingDir names := by
      rw [staged]
      exact fun l there => there.mem_copyPlaces areNames
    refine ⟨places, fun p isRequired => (sources p isRequired).2, noRecordDraft, processes,
      unmarked, nodup, ?_, ?_⟩
    · rw [isDest]
      rintro _ ⟨⟩ l there
      exact copies l (copied l there)
    · rw [isDest]
      rintro _ ⟨⟩ v isVariant l ⟨name, isLibrary, source, isSource, rfl⟩ there
      exact libraries v isVariant name isLibrary source isSource (copied _ there)
  · cases shows

/-! ### Builds that are repeatable -/

/-- A build of the registered variants whose outputs are apart is repeatable. -/
theorem runPipeline_isRepeatable
    (options : Options) (settled : Settled) (result : PipelineResult) (m m' : Machine)
    (registered : options.variants = Variant.registered)
    (plain : Path.upward ∉ m.workingDir) (sound : m.files.IsSound)
    (settles : (runFrom (options.settle m.environ) m).1 = .ok settled)
    (returned : runFrom (runPipeline options) m = (.ok result, m'))
    (apart : options.IsApart settled result m m') :
    options.IsRepeatable result m m' := by
  rw [runFrom_runPipeline] at returned
  obtain ⟨found, m₂, generating, finishing⟩ := runFrom_bind_eq_ok.mp returned
  unfold Options.generate at generating
  obtain ⟨other, m₁, settling, generating⟩ := runFrom_bind_eq_ok.mp generating
  rw [settling] at settles
  cases settles
  obtain ⟨_, m₃, generated, ended⟩ := runFrom_bind_eq_ok.mp generating
  cases ended
  have untouched : m.Untouched m₁ := (options.respects_settle Run.untouched_note _).of_run settling
  have talks := untouched.talks
  have before : m.Changes (fun _ => False) (fun _ => False) m₁ := talks.changes sound _ _
  -- The bindings are generated,
  have sources := apart.sources
  rw [← talks.workingDir] at sources
  obtain ⟨isGenerated, generation, outcomes⟩ :=
    Settled.isGenerated_of_generate before.sound sources generated
  rw [untouched.nextUnit] at isGenerated
  rw [talks.workingDir] at generation
  have start : m.Changes (fun l => l = settled.draft m.workingDir ∨
      l = settled.paths.bindings.resolve m.workingDir) (· = settled.draft m.workingDir) m₂ :=
    (before.mono (fun _ => False.elim) fun _ => False.elim).trans generation
  have here := start.workingDir
  -- what comes after them leaves them alone,
  obtain ⟨finishes, drafts, required, ending⟩ := Options.replays_finish registered
    (by rwa [here]) start.sound (apart.later start (outcomes.trans talks.outcomes)) finishing
  rw [here] at required
  have isGeneratedLast : settled.IsGenerated m.nextUnit m' := by
    apply isGenerated.of_changes ending
    · rwa [here]
    · rw [here]
      simp [Options.kept]
  -- and nothing writes the project file.
  have whole : m.Changes (· ≠ options.projectFile.resolve m.workingDir) (fun _ => True) m' := by
    refine (start.mono ?_ fun _ _ => trivial).trans (ending.mono ?_ fun _ _ => trivial)
    · have outside := (List.nodup_cons.mp apart.places).1
      rintro l (rfl | rfl) same
      · exact outside (by simp [← same])
      · exact outside (by simp [← same])
    · rintro l outside rfl
      exact outside List.mem_cons_self
  have same := Options.fileAt?_projectFile whole sound apart.rooted (by simp)
  have settlesAgain : Replays m' (options.settle m.environ) settled :=
    Options.replays_settle (congrArg Prod.fst settling) whole.host whole.workingDir same
  have noDraft : m'.files.entry? (settled.draft m'.workingDir) = none := by
    rw [whole.workingDir]
    exact apart.noDraft
  exact Options.isRepeatable_of_parts settlesAgain isGeneratedLast whole.sound noDraft finishes

def Options.ofStaging : Options := { Options.ofRegistered with stagingDir? := some (.ofText "dist") }

def resultPath (name : String) : Path := (Path.ofText "build/ggml-tooling").child name

/-- The processes of a variant, the last of which leaves files among the results. -/
def leavingResults (files : List (String × String)) : List ProcessOutcome :=
  [.finished 0 "" "" [], .finished 0 "" "" [],
    .finished 0 "" "" (files.map fun file => (resultPath file.1, file.2))]

/-- A small project whose first variant leaves a package configuration with a name to be replaced,
and a library. -/
def installedProject : Machine :=
  smallProject (leavingResults
    [("llama/build/ggml-config.cmake", "set(GGML_LIBRARIES ggml ggml-base)\n"),
      ("llama/lib/libggml_llama.so", "ELF")])

theorem showsApart_installedProject :
    Options.ofStaging.showsApart (.ofText "dist") ["libggml_llama.so"] installedProject = true := by
  decide +kernel

/-- A build that leaves a package configuration and stages a library is repeatable. -/
theorem isRepeatable_installedProject :
    ∃ settled result m', Options.ofStaging.variants = Variant.registered ∧
      Path.upward ∉ installedProject.workingDir ∧ installedProject.files.IsSound ∧
      (runFrom (Options.ofStaging.settle installedProject.environ) installedProject).1 =
        .ok settled ∧
      runFrom (runPipeline .ofStaging) installedProject = (.ok result, m') ∧
      Options.ofStaging.IsApart settled result installedProject m' ∧
      Options.ofStaging.IsRepeatable result installedProject m' := by
  have registered : Options.ofStaging.variants = Variant.registered := rfl
  have plain : Path.upward ∉ installedProject.workingDir := by decide
  have sound : installedProject.files.IsSound := by decide
  obtain ⟨settled, result, m', settles, returned, apart⟩ :=
    Options.exists_isApart_of_shows showsApart_installedProject
  exact ⟨settled, result, m', registered, plain, sound, settles, returned, apart,
    runPipeline_isRepeatable _ _ _ _ _ registered plain sound settles returned apart⟩

/-! ### Builds that are not repeatable -/

/-- The machine after a build, prepared for the same build. -/
def Machine.rewound (m m' : Machine) : Machine :=
  { m' with environ := m.environ, units := m.units, outcomes := [] }

theorem Machine.repeats_rewound (m m' : Machine) : m'.Repeats (m.rewound m') :=
  ⟨rfl, rfl, rfl, by simp [rewound]⟩

namespace Settled

def results (settled : Settled) (options : Options) (built? : Option Built)
    (workingDir : Location) : List Location :=
  settled.paths.bindings.resolve workingDir ::
    match built? with
    | none => []
    | some built => settled.paths.metadata.resolve workingDir ::
        settled.allConfigs options workingDir ++ built.staged.map (·.resolve workingDir)

def inputs (settled : Settled) (options : Options) (workingDir : Location) : List Location :=
  (options.projectFile :: settled.paths.required).map (·.resolve workingDir)

end Settled

/-- A build of the registered variants whose results are apart from one another and from the inputs
is not repeatable, although no package configuration has marks of its own. -/
def Options.IsUnsteady (options : Options) (m : Machine) : Prop :=
  options.variants = Variant.registered ∧ Path.upward ∉ m.workingDir ∧ m.files.IsSound ∧
    ∃ settled result m', (runFrom (options.settle m.environ) m).1 = .ok settled ∧
      runFrom (runPipeline options) m = (.ok result, m') ∧
      (settled.results options result.built? m.workingDir ++
        settled.inputs options m.workingDir).Nodup ∧
      PackageConfig.IsUnmarked (settled.allConfigs options m.workingDir) m.files ∧
      PackageConfig.IsUnmarked (settled.allConfigs options m.workingDir) m'.files ∧
      ¬options.IsRepeatable result m m'

def Options.showsUnsteady (options : Options) (m : Machine) : Bool :=
  options.variants = Variant.registered && Path.upward ∉ m.workingDir && m.files.IsSound &&
    match (runFrom (options.settle m.environ) m).1, runFrom (runPipeline options) m with
    | .ok settled, (.ok result, m') =>
        (settled.results options result.built? m.workingDir ++
          settled.inputs options m.workingDir).Nodup &&
        PackageConfig.IsUnmarked (settled.allConfigs options m.workingDir) m.files &&
        PackageConfig.IsUnmarked (settled.allConfigs options m.workingDir) m'.files &&
        match runFrom (runPipeline options) (m.rewound m') with
        | (.ok other, n') => other ≠ result || n'.files ≠ m'.files
        | (.error _, _) => true
    | _, _ => false

theorem Options.isUnsteady_of_shows {options : Options} {m : Machine}
    (shows : options.showsUnsteady m = true) : options.IsUnsteady m := by
  unfold showsUnsteady at shows
  simp only [Bool.and_eq_true, decide_eq_true_eq] at shows
  obtain ⟨⟨⟨registered, plain⟩, sound⟩, shows⟩ := shows
  refine ⟨registered, plain, sound, ?_⟩
  split at shows
  · rename_i settled result m' settles returned
    simp only [Bool.and_eq_true, decide_eq_true_eq] at shows
    obtain ⟨⟨⟨nodup, before⟩, after⟩, differs⟩ := shows
    refine ⟨settled, result, m', settles, returned, nodup, before, after, ?_⟩
    intro repeatable
    obtain ⟨n', again, same⟩ := repeatable _ (m.repeats_rewound m') rfl rfl
    rw [again] at differs
    simp [same] at differs
  · cases shows

def smallProjectWith (files : List (Location × Entry)) : Machine :=
  { smallProject [] with
    files := files.foldl (fun tree entry => tree.set entry.1 entry.2) (smallProject []).files }

def unsteadyProjects : List (Options × Machine) :=
  [ -- A process writes over the bindings.
    (.default, smallProject (leavingResults [("bindings.py", "")])),
    -- The header is where the bindings are drafted.
    (.default, smallProjectWith
      [(["work", "build"], .directory), (["work", "build", "ggml-tooling"], .directory),
        (["work", "build", "ggml-tooling", ".bindings.py.tmp"], .file (.text "")),
        (["work", "ggml-tooling.yaml"],
          .file (.text "wrapper_header: build/ggml-tooling/.bindings.py.tmp\n"))]),
    -- The libraries are staged where they are looked for.
    ({ Options.default with
        target? := some "x86_64-pc-windows-msvc"
        stagingDir? := some (resultPath "default/bin") },
      smallProject (leavingResults [("default/lib/ggml.dll", "MZ")])),
    -- The project file is found by way of a directory that the build makes.
    ({ Options.default with
        projectRoot := .ofText "build/.."
        outDir? := some (.ofText "build/out") },
      smallProjectWith [(["work", "ggml-tooling.yaml"], .file (.text "package_name: other\n"))]),
    -- The libraries are staged in a directory where the bindings are drafted.
    ({ Options.default with stagingDir? := some (resultPath ".bindings.py.tmp") },
      smallProject [])]

/-- It is not enough that the results are apart from one another and from the inputs. -/
theorem isUnsteady_unsteadyProjects :
    unsteadyProjects.Forall fun project => project.1.IsUnsteady project.2 := by
  -- One project at a time: the kernel keeps what it has evaluated until a proof is checked.
  have shown : unsteadyProjects.Forall fun project =>
      project.1.showsUnsteady project.2 = true := by
    refine ⟨?_, ?_, ?_, ?_, ?_⟩
    all_goals decide +kernel
  exact shown.imp fun _ => Options.isUnsteady_of_shows

end NativeVariants
