import NativeVariants.Proofs.Build.BindingsOnly
import NativeVariants.Proofs.Build.Problems
import NativeVariants.Proofs.Build.RepeatedVariants

set_option autoImplicit false

/-!
The record that a failed run leaves. On the way to the commit nothing but a process can write at its
place, and a commit replaces it in its last step, so a run that fails there has kept the record
(`Settled.spares_of_publishAll`). What comes after the commit can fail as well, and does not take the
record back (`runPipeline_leavesRecord`).
-/

namespace NativeVariants
open Header Metadata

/-! ### The files of processes -/

/-- A process that ended between two machines leaves a file at the location. -/
def Machine.LeftAt (l : Location) (m m' : Machine) : Prop :=
  ∃ ended, m.outcomes = ended ++ m'.outcomes ∧
    ∃ outcome ∈ ended, ∃ file ∈ outcome.created, file.1.resolve m.workingDir = l

/-- From one machine to the other processes may have ended, and none but them has changed the file at
the location. -/
structure Machine.Spares (l : Location) (m m' : Machine) : Prop where
  workingDir : m'.workingDir = m.workingDir
  sound : m'.files.IsSound
  outcomes : m'.outcomes <:+ m.outcomes
  file : ¬m.LeftAt l m' → m'.files.file? l = m.files.file? l

namespace Machine

variable {l : Location} {m m' m'' : Machine}

theorem LeftAt.before (left : m.LeftAt l m') (outcomes : m''.outcomes <:+ m'.outcomes) :
    m.LeftAt l m'' := by
  obtain ⟨ended, first, outcome, inside, created⟩ := left
  obtain ⟨more, second⟩ := outcomes
  refine ⟨ended ++ more, ?_, outcome, List.mem_append_left _ inside, created⟩
  rw [first, ← second, List.append_assoc]

theorem LeftAt.after (left : m'.LeftAt l m'') (workingDir : m'.workingDir = m.workingDir)
    (outcomes : m'.outcomes <:+ m.outcomes) : m.LeftAt l m'' := by
  obtain ⟨ended, second, outcome, inside, created⟩ := left
  obtain ⟨earlier, first⟩ := outcomes
  refine ⟨earlier ++ ended, ?_, outcome, List.mem_append_right _ inside, ?_⟩
  · rw [← first, second, List.append_assoc]
  · rwa [← workingDir]

/-- Where no process has ended none has left a file. -/
theorem not_leftAt_of_outcomes_eq (outcomes : m'.outcomes = m.outcomes) : ¬m.LeftAt l m' := by
  rintro ⟨ended, split, outcome, inside, _⟩
  rw [outcomes] at split
  have none : ended = [] := List.append_left_eq_self.mp split.symm
  rw [none] at inside
  cases inside

theorem leftAt_of_created (outcomes : m'.outcomes = m.outcomes.drop 1) {file : Path × String}
    (isCreated : file ∈ (m.outcome 0).created) :
    m.LeftAt (file.1.resolve m.workingDir) m' := by
  rcases listed : m.outcomes with _ | ⟨outcome, rest⟩
  · simp [outcome, listed, ProcessOutcome.created] at isCreated
  · have next : m.outcome 0 = outcome := by simp [Machine.outcome, listed]
    rw [next] at isCreated
    refine ⟨[outcome], ?_, outcome, List.mem_singleton_self _, file, isCreated, rfl⟩
    rw [outcomes, listed]
    rfl

theorem not_leftAt_of_outcomes
    (apart : ∀ outcome ∈ m.outcomes, ∀ file ∈ outcome.created,
      file.1.resolve m.workingDir ≠ l) : ¬m.LeftAt l m' := by
  rintro ⟨ended, split, outcome, inside, file, isCreated, there⟩
  have started : outcome ∈ m.outcomes := by
    rw [split]
    exact List.mem_append_left _ inside
  exact apart outcome started file isCreated there

theorem Spares.trans (first : m.Spares l m') (second : m'.Spares l m'') : m.Spares l m'' where
  workingDir := second.workingDir.trans first.workingDir
  sound := second.sound
  outcomes := second.outcomes.trans first.outcomes
  file := by
    intro none
    have spared := second.file fun left => none (left.after first.workingDir first.outcomes)
    exact spared.trans (first.file fun left => none (left.before second.outcomes))

theorem Spares.of_changes {writes drafts : Location → Prop} (changes : m.Changes writes drafts m')
    (outcomes : m'.outcomes = m.outcomes) (apart : ¬writes l) : m.Spares l m' where
  workingDir := changes.workingDir
  sound := changes.sound
  outcomes := outcomes ▸ List.suffix_refl _
  file := fun _ => changes.files l apart

theorem Talks.spares (talks : m.Talks m') (sound : m.files.IsSound) : m.Spares l m' :=
  .of_changes (talks.changes sound (fun _ => False) fun _ => False) talks.outcomes id

/-- Sparing a file, from machines that work in a given directory and have sound trees. -/
def SparesIn (workingDir l : Location) (m m' : Machine) : Prop :=
  m.workingDir = workingDir → m.files.IsSound → m.Spares l m'

end Machine

instance (workingDir l : Location) : IsPreorder Machine (Machine.SparesIn workingDir l) where
  refl m := fun _ sound => Machine.Talks.spares (refl_of Machine.Talks m) sound
  trans _ _ _ first second := fun here sound =>
    have before := first here sound
    before.trans (second (before.workingDir.trans here) before.sound)

/-- None but the processes that the run starts changes the file at the location. -/
abbrev Sparing (workingDir l : Location) {α : Type} (x : Run α) : Prop :=
  Respects (Machine.SparesIn workingDir l) x

section Steps

variable {workingDir l : Location} {α : Type}

theorem sparing_of_talks {x : Run α} (talks : Respects Machine.Talks x) : Sparing workingDir l x :=
  fun m _ sound => (talks m).spares sound

namespace Run

theorem outcomes_of_idle {x : Run α} {m : Machine} (idle : Idle m.workingDir (fun _ => True) x) :
    (runFrom x m).2.outcomes = m.outcomes := (idle m rfl).outcomes

theorem admits_spares :
    Admits (Machine.SparesIn workingDir l) fun p => p.resolve workingDir ≠ l where
  print := fun line => sparing_of_talks (talks_print line)
  complain := fun _ => sparing_of_talks (talks_report _)
  makeDirectoryAt := by
    intro p m _ sound
    have changes : m.Changes (fun _ => False) (fun _ => False) (runFrom (makeDirectoryAt p) m).2 :=
      changes_makeDirectoryAt p m rfl sound
    exact .of_changes changes (outcomes_of_idle (idle_makeDirectoryAt p)) id
  writeContent := by
    intro p apart content m here sound
    have changes : m.Changes (· ≠ l) (fun _ => False) (runFrom (writeContent p content) m).2 :=
      admits_changes.writeContent p (by rwa [here]) content m rfl sound
    exact .of_changes changes (outcomes_of_idle (idle_writeContent trivial content))
      fun other => other rfl

/-- A process leaves the files alone that it does not make. -/
theorem sparing_start (command : Command) (directory : Path) :
    Sparing workingDir l (start command directory) := by
  intro m here sound
  rw [runFrom_start]
  rcases left : runFrom (leave (m.outcome 0).created) (m.started command directory) with ⟨_, m'⟩
  have changes : (m.started command directory).Changes (fun _ => True) (fun _ => False) m' :=
    (admits_changes.leave fun _ _ => trivial).of_run left rfl sound
  have idles : (m.started command directory).Idles (fun _ => True) m' :=
    (admits_idle.leave fun _ _ => trivial).of_run left rfl
  have outcomes : m'.outcomes = m.outcomes.drop 1 := idles.outcomes
  refine ⟨changes.workingDir, changes.sound, outcomes ▸ List.drop_suffix 1 _, fun none => ?_⟩
  -- Had the process made a file there, it would have been left there from `m` on.
  have apart : ∀ file ∈ (m.outcome 0).created, file.1.resolve workingDir ≠ l := by
    rintro file isCreated rfl
    rw [← here] at none
    exact none (Machine.leftAt_of_created outcomes isCreated)
  have spared : (m.started command directory).Spares l m' :=
    (admits_spares.leave apart).of_run left here sound
  exact spared.file (Machine.not_leftAt_of_outcomes_eq idles.outcomes)

end Run

theorem sparing_runStep (command : Command) (v : Variant) (step : BuildStep) (directory : Path) :
    Sparing workingDir l (runStep command v step directory) :=
  respects_runStep Run.admits_spares.note (Run.sparing_start _ _) v step

theorem sparing_compile (config : BuildConfig) (v : Variant) (sourceDir installDir : Path)
    (settings : BuildSettings) :
    Sparing workingDir l (v.compile config sourceDir installDir settings) := by
  refine (respects_forM fun _ _ => Run.admits_spares.warn _ _).bind fun _ => ?_
  refine (Run.admits_spares.print _).bind fun _ => (sparing_runStep _ _ _ _).bind fun _ => ?_
  exact (respects_chosenJobs _).bind fun _ => (sparing_runStep _ _ _ _).bind fun _ =>
    sparing_runStep _ _ _ _

/-- The build of a variant writes its package configuration, and its processes do the rest. -/
theorem sparing_buildVariant {v : Variant} {outDir : Path}
    (apart : l ∉ (v.configPlaces (v.installDir (outDir.absolute workingDir))).map
      (·.resolve workingDir))
    (config : BuildConfig) (sourceDir : Path) (settings : BuildSettings) :
    Sparing workingDir l (buildVariant config v sourceDir outDir settings) := by
  rw [buildVariant_eq]
  refine (Run.respects_resolve _).bind fun source => ?_
  intro m
  refine related_bind (Run.respects_resolve _ m) fun out m' resolved => ?_
  obtain ⟨_, rfl, rfl⟩ := Run.runFrom_resolve_eq_ok_iff.mp resolved
  rintro rfl
  refine Respects.bind (sparing_compile _ _ _ _ _) (fun _ => ?_) m' rfl
  have patched : Sparing m'.workingDir l (patchPackageConfig.go v.basename
      (v.configPlaces (v.installDir (outDir.absolute m'.workingDir)))) := by
    apply Run.admits_spares.patchPackageConfigAt
    intro p inside there
    exact apart (List.mem_map.mpr ⟨p, inside, there⟩)
  exact (patched.map _).bind fun _ => sparing_of_talks (talks_close _ _)

theorem sparing_publish (channel : Channel) (items : List (String × String)) :
    Sparing workingDir l (publish channel items) := respects_publish Run.admits_spares.note _ _

theorem sparing_buildAll {settled : Settled} {variants : List Variant}
    (apart : ∀ v ∈ variants, l ∉ settled.configs workingDir v) (tool : String)
    (channel : Channel) : Sparing workingDir l (buildAll settled tool channel variants) := by
  induction variants generalizing channel with
  | nil => exact respects_pure _
  | cons v rest ih =>
      have here : Sparing workingDir l (buildAndPublish settled tool channel v) := by
        refine (sparing_buildVariant (apart v List.mem_cons_self) _ _ _).bind fun artifacts => ?_
        exact (sparing_publish _ _).bind fun _ => (Run.admits_spares.note _ _).bind fun _ =>
          respects_pure _
      have later := ih fun w inRest => apart w (List.mem_cons_of_mem v inRest)
      exact here.bind fun published => (later published.1).bind fun _ => respects_pure _

theorem outcomes_of_writeWhole {p : Path} {text : String} {m m' : Machine}
    {r : Except Failure Unit} (ran : runFrom (Run.writeWhole p text) m = (r, m')) :
    m'.outcomes = m.outcomes := by
  have idle : Idle m.workingDir (fun _ => True) (Run.writeWhole p text) :=
    Run.idle_writeWhole trivial trivial text
  exact (idle.of_run ran rfl).outcomes

theorem spares_of_commit {channel : Channel} {p : Path} {m m' : Machine} {failure : Failure}
    (sound : m.files.IsSound) (failed : runFrom (commit channel p) m = (.error failure, m')) :
    m.Spares (p.resolve m.workingDir) m' := by
  unfold commit at failed
  rcases runFrom_bind_eq_error.mp failed with writing | ⟨_, m₁, _, noting⟩
  case inr =>
    obtain ⟨events, noted⟩ := Run.runFrom_note .channel
      s!"Committed {channel.values.size} metadata keys to {p.display}" m₁
    rw [noted] at noting
    cases noting
  have outcomes := outcomes_of_writeWhole writing
  have wrote : Run.WritesWhole p channel.render m m' (.error failure) := .of_run sound writing
  cases wrote with
  | nothing _ changes => exact .of_changes changes outcomes id
  | draft _ named changes _ =>
      exact .of_changes changes outcomes (Path.resolve_draftOf_ne named _).symm

end Steps

/-! ### Up to the record -/

def Settled.publishAll (settled : Settled) (options : Options) :
    Run (Channel × List Artifacts) := do
  let channel ← publishInclude (Channel.empty settled.paths.packageName) settled.paths.includeDir
  let variants ← Run.ofReported (Variant.forMode settled.config.multiVariant options.variants)
  let published ← buildAll settled options.tool channel variants
  commit published.1 settled.paths.metadata
  return published

def Options.publishAll (options : Options) (environ : Environ) :
    Run (Settled × Channel × List Artifacts) := do
  let settled ← options.generate environ
  return (settled, ← settled.publishAll options)

theorem buildVariants_eq_bind (options : Options) (settled : Settled) :
    buildVariants options settled = (do
      let (channel, sets) ← settled.publishAll options
      let staged ← stageAll sets options.stagingDir? settled.config.target
      return {
        sets
        multiVariant := settled.config.multiVariant
        links := buildLinks settled.config sets
        metadata := settled.paths.metadata
        values := channel.values
        staged }) := by
  unfold buildVariants Settled.publishAll
  simp only [bind_assoc, pure_bind]

section Failing

variable {options : Options} {settled : Settled} {m m' : Machine} {failure : Failure}

/-- A run that fails does so on the way to its record, or it fails to stage the libraries. -/
theorem runPipeline_fails_around_record
    (failed : runFrom (runPipeline options) m = (.error failure, m')) :
    runFrom (options.publishAll m.environ) m = (.error failure, m') ∨
      ∃ settled channel sets n,
        runFrom (options.publishAll m.environ) m = (.ok (settled, channel, sets), n) ∧
        runFrom (stageAll sets options.stagingDir? settled.config.target) n =
          (.error failure, m') := by
  unfold Options.publishAll
  rcases runPipeline_eq_error failed with generating | ⟨settled, m₁, _, generated, building⟩
  · exact .inl (runFrom_bind_of_error generating _)
  rw [runFrom_bind_of_ok generated]
  rw [buildVariants_eq_bind] at building
  rcases runFrom_bind_eq_error.mp building with
    publishing | ⟨⟨channel, sets⟩, n, published, staging⟩
  · exact .inl (runFrom_bind_of_error publishing _)
  · refine .inr ⟨settled, channel, sets, n, runFrom_bind_of_ok published _, ?_⟩
    rcases runFrom_bind_eq_error.mp staging with failed | ⟨_, _, _, returned⟩
    · exact failed
    · cases returned

theorem Settled.spares_of_publishAll (sound : m.files.IsSound)
    (apart : ∀ v ∈ settled.variants options.variants,
      settled.paths.metadata.resolve m.workingDir ∉ settled.configs m.workingDir v)
    (failed : runFrom (settled.publishAll options) m = (.error failure, m')) :
    m.Spares (settled.paths.metadata.resolve m.workingDir) m' := by
  unfold publishAll at failed
  rcases runFrom_bind_eq_error.mp failed with failed | ⟨channel, m₁, opened, choosing⟩
  · exact (sparing_publish _ _).of_run failed rfl sound
  have spared₁ : m.Spares (settled.paths.metadata.resolve m.workingDir) m₁ :=
    (sparing_publish _ _).of_run opened rfl sound
  rcases runFrom_bind_eq_error.mp choosing with failed | ⟨variants, m₂, chosen, building⟩
  · have unchanged : Sparing m₁.workingDir (settled.paths.metadata.resolve m.workingDir)
        (Run.ofReported (Variant.forMode settled.config.multiVariant options.variants)) :=
      respects_ofExcept _
    exact spared₁.trans (unchanged.of_run failed rfl spared₁.sound)
  obtain ⟨inMode, rfl⟩ := ofReported_eq_ok chosen
  have chosenHere : settled.variants options.variants = variants := by
    unfold Settled.variants
    rw [inMode]
    rfl
  rw [chosenHere] at apart
  have built : Sparing m.workingDir (settled.paths.metadata.resolve m.workingDir)
      (buildAll settled options.tool channel variants) := sparing_buildAll apart _ _
  rcases runFrom_bind_eq_error.mp building with failed | ⟨published, m₃, builtAll, committing⟩
  · exact spared₁.trans (built.of_run failed spared₁.workingDir spared₁.sound)
  have spared₂ := spared₁.trans (built.of_run builtAll spared₁.workingDir spared₁.sound)
  rcases runFrom_bind_eq_error.mp committing with failed | ⟨_, _, _, returned⟩
  · have spared₃ := spares_of_commit spared₂.sound failed
    rw [spared₂.workingDir] at spared₃
    exact spared₂.trans spared₃
  · cases returned

/-! ### The record of a failed run -/

def Settled.recordPlace (settled : Settled) (workingDir : Location) : Location :=
  settled.paths.metadata.resolve workingDir

/-- The place of the record is not that of the bindings or of a package configuration, and no process
leaves a file there. -/
structure Settled.HasOwnRecord (settled : Settled) (options : Options) (m m' : Machine) :
    Prop where
  bindings : settled.recordPlace m.workingDir ≠ settled.paths.bindings.resolve m.workingDir
  configs : ∀ v ∈ settled.variants options.variants,
    settled.recordPlace m.workingDir ∉ settled.configs m.workingDir v
  processes : ¬m.LeftAt (settled.recordPlace m.workingDir) m'

/-- How a run that fails leaves its record. -/
inductive Options.LeavesRecord (options : Options) (settled : Settled) (m m' : Machine)
    (failure : Failure) : Prop
  /-- The run has failed on the way to its record, which is the old one. Only where the bindings are
  drafted there may be none, or the bindings. -/
  | unpublished (ended : runFrom (options.publishAll m.environ) m = (.error failure, m'))
      (kept : settled.recordPlace m.workingDir ≠
          (Run.draftOf settled.paths.bindings).resolve m.workingDir →
        m'.files.file? (settled.recordPlace m.workingDir) =
          m.files.file? (settled.recordPlace m.workingDir))
      (drafted : settled.recordPlace m.workingDir =
          (Run.draftOf settled.paths.bindings).resolve m.workingDir →
        m'.files.file? (settled.recordPlace m.workingDir) =
            m.files.file? (settled.recordPlace m.workingDir) ∨
          m'.files.file? (settled.recordPlace m.workingDir) = none ∨
          ∃ surface, m'.files.file? (settled.recordPlace m.workingDir) =
            some (.text (Bindings.render surface settled.paths.wrapperHeader.name)))
  /-- The libraries could not be staged, and the record is that of the run that has failed. -/
  | published (channel : Channel) (sets : List Artifacts) (n : Machine)
      (ended : runFrom (options.publishAll m.environ) m = (.ok (settled, channel, sets), n))
      (failed : runFrom (stageAll sets options.stagingDir? settled.config.target) n =
        (.error failure, m'))
      (unreported : ∀ problem, failure ≠ .problem problem)
      (recorded : (∀ dest ∈ options.stagingDir?, ∀ artifacts ∈ sets,
          artifacts.Admit settled.config.target dest fun p =>
            p.resolve m.workingDir ≠ settled.recordPlace m.workingDir) →
        m'.files.file? (settled.recordPlace m.workingDir) = some (.text channel.render))

theorem Options.settle_of_generate {environ : Environ}
    (ran : runFrom (options.generate environ) m = (.ok settled, m')) :
    (runFrom (options.settle environ) m).1 = .ok settled := by
  obtain ⟨m₁, _, _, settling, _⟩ := generate_eq_ok ran
  rw [settling]

theorem Options.outcomes_of_generate {environ : Environ} (sound : m.files.IsSound)
    (ran : runFrom (options.generate environ) m = (.ok settled, m')) :
    m'.outcomes = m.outcomes ∧ m'.files.IsSound := by
  obtain ⟨m₁, m₂, surface, _, settled₁, _, noted, generated⟩ := generate_eq_ok ran
  obtain ⟨m₃, m₄, _, read, written, told⟩ := generateBindings_eq_ok generated
  have before : m.Talks m₃ :=
    trans_of Machine.Talks settled₁.talks (trans_of Machine.Talks noted.talks read)
  have soundHere : m₃.files.IsSound := by rwa [before.files]
  have outcomes := outcomes_of_writeWhole written
  have wrote : Run.WritesWhole settled.paths.bindings
      (Bindings.render surface settled.paths.wrapperHeader.name) m₃ m₄ (.ok ()) :=
    .of_run soundHere written
  cases wrote with
  | whole changes _ _ =>
      refine ⟨?_, ?_⟩
      · rw [told.outcomes, outcomes, before.outcomes]
      · rw [told.files]
        exact changes.sound

/-- Bindings that could not be generated leave the record alone, unless they are drafted there. -/
theorem Options.LeavesRecord.of_generate (sound : m.files.IsSound)
    (settling : (runFrom (options.settle m.environ) m).1 = .ok settled)
    (failed : runFrom (options.generate m.environ) m = (.error failure, m')) :
    options.LeavesRecord settled m m' failure := by
  have ended : runFrom (options.publishAll m.environ) m = (.error failure, m') :=
    runFrom_bind_of_error failed _
  rcases leavesBindings_of_error sound failed with unchanged | ⟨other, settlingToo, left⟩
  · exact .unpublished ended (fun _ => unchanged _) fun _ => .inl (unchanged _)
  · obtain rfl : settled = other := Except.ok.inj (settling.symm.trans settlingToo)
    cases left with
    | draft _ surface drafted others =>
        refine .unpublished ended (others _) fun same => .inr (.inr ⟨surface, ?_⟩)
        rw [same]
        exact drafted

theorem Options.LeavesRecord.of_publishAll {m₁ : Machine} (sound : m.files.IsSound)
    (own : settled.HasOwnRecord options m m')
    (generated : runFrom (options.generate m.environ) m = (.ok settled, m₁))
    (failed : runFrom (settled.publishAll options) m₁ = (.error failure, m')) :
    options.LeavesRecord settled m m' failure := by
  have ended : runFrom (options.publishAll m.environ) m = (.error failure, m') := by
    unfold publishAll
    rw [runFrom_bind_of_ok generated]
    exact runFrom_bind_of_error failed _
  have here := workingDir_of_generate generated
  obtain ⟨outcomes, soundHere⟩ := outcomes_of_generate sound generated
  have spared : m₁.Spares (settled.recordPlace m.workingDir) m' := by
    unfold Settled.recordPlace
    rw [← here]
    refine settled.spares_of_publishAll soundHere ?_ failed
    rw [here]
    exact own.configs
  have same : m'.files.file? (settled.recordPlace m.workingDir) =
      m₁.files.file? (settled.recordPlace m.workingDir) := by
    apply spared.file
    intro left
    exact own.processes (left.after here (outcomes ▸ List.suffix_refl _))
  have left := leavesBindings_of_ok sound generated
  cases left with
  | bindings surface written vanished others =>
      refine .unpublished ended (fun notDraft => ?_) fun isDraft => .inr (.inl ?_)
      · exact same.trans (others _ own.bindings notDraft)
      · rw [same, isDraft]
        exact vanished

theorem Settled.offers_of_publishAll {channel : Channel} {sets : List Artifacts}
    (ran : runFrom (settled.publishAll options) m = (.ok (channel, sets), m')) :
    m'.workingDir = m.workingDir ∧ m'.Offers settled.paths.metadata (.text channel.render) := by
  unfold publishAll at ran
  obtain ⟨opened, m₁, including, choosing⟩ := runFrom_bind_eq_ok.mp ran
  obtain ⟨variants, m₂, chosen, building⟩ := runFrom_bind_eq_ok.mp choosing
  obtain ⟨published, m₃, built, committing⟩ := runFrom_bind_eq_ok.mp building
  obtain ⟨_, m₄, committed, returned⟩ := runFrom_bind_eq_ok.mp committing
  cases returned
  obtain ⟨_, rfl⟩ := ofReported_eq_ok chosen
  have talks : m.Talks m₂ := (respects_publish Run.talks_note _ _).of_run including
  obtain ⟨_, _, stays⟩ := buildAll_eq_ok built
  refine ⟨?_, offers_of_commit committed⟩
  rw [workingDir_of_commit committed, stays, talks.workingDir]

theorem Options.LeavesRecord.of_stageAll {channel : Channel} {sets : List Artifacts} {n : Machine}
    (published : runFrom (options.publishAll m.environ) m = (.ok (settled, channel, sets), n))
    (failed : runFrom (stageAll sets options.stagingDir? settled.config.target) n =
      (.error failure, m')) :
    options.LeavesRecord settled m m' failure := by
  refine .published channel sets n published failed ?_ fun apart => ?_
  · rintro problem rfl
    have none : Reports (fun _ => False)
        (stageAll sets options.stagingDir? settled.config.target) := reports_stageAll _ _ _
    exact none.of_run failed
  · unfold publishAll at published
    obtain ⟨found, m₁, generated, publishing⟩ := runFrom_bind_eq_ok.mp published
    obtain ⟨facts, m₂, recorded, returned⟩ := runFrom_bind_eq_ok.mp publishing
    cases returned
    obtain ⟨stays, offers⟩ := Settled.offers_of_publishAll recorded
    have here := stays.trans (workingDir_of_generate generated)
    have kept : Keeping m.workingDir (settled.recordPlace m.workingDir)
        (stageAll sets options.stagingDir? settled.config.target) :=
      Run.admits_keeping.stageAll apart
    have held := offers.held
    rw [here] at held
    exact FileTree.file?_eq_some_iff.mpr ((kept.of_run failed here).files _ held)

end Failing

/-- A run that fails before anything is settled does nothing but leave notes. Any other keeps the
record that was there if it fails before the record has been written, and keeps its own record if it
fails after that. -/
theorem runPipeline_leavesRecord
    (options : Options) (m m' : Machine) (failure : Failure) (sound : m.files.IsSound)
    (failed : runFrom (runPipeline options) m = (.error failure, m')) :
    (∀ e, (runFrom (options.settle m.environ) m).1 = .error e → m.Untouched m') ∧
      ∀ settled, (runFrom (options.settle m.environ) m).1 = .ok settled →
        settled.HasOwnRecord options m m' → options.LeavesRecord settled m m' failure := by
  constructor
  · intro e unsettled
    rw [runFrom_runPipeline] at failed
    obtain ⟨m₁, settling⟩ := exists_of_result unsettled
    have generating : runFrom (options.generate m.environ) m = (.error e, m₁) :=
      runFrom_bind_of_error settling _
    rw [runFrom_bind_of_error generating] at failed
    cases failed
    exact (options.respects_settle Run.untouched_note _).of_run settling
  · intro settled settling own
    rcases runPipeline_fails_around_record failed with
      ended | ⟨other, channel, sets, n, published, staging⟩
    · rcases runFrom_bind_eq_error.mp ended with generating | ⟨other, m₁, generated, publishing⟩
      · exact .of_generate sound settling generating
      · obtain rfl : settled = other :=
          Except.ok.inj (settling.symm.trans (Options.settle_of_generate generated))
        rcases runFrom_bind_eq_error.mp publishing with publishing | ⟨_, _, _, returned⟩
        · exact .of_publishAll sound own generated publishing
        · cases returned
    · obtain ⟨found, m₁, generated, publishing⟩ := runFrom_bind_eq_ok.mp published
      obtain ⟨facts, m₂, _, returned⟩ := runFrom_bind_eq_ok.mp publishing
      cases returned
      obtain rfl : settled = other :=
        Except.ok.inj (settling.symm.trans (Options.settle_of_generate generated))
      exact .of_stageAll published staging

/-! ### Failed runs of a small project -/

def Options.showsFailed (options : Options) (m : Machine) (kept : Bool) : Bool :=
  match (runFrom (options.settle m.environ) m).1, runFrom (runPipeline options) m with
  | .ok settled, (.error _, m') =>
      let place := settled.recordPlace m.workingDir
      place ≠ settled.paths.bindings.resolve m.workingDir &&
        (settled.variants options.variants).all (place ∉ settled.configs m.workingDir ·) &&
        m.outcomes.all (·.created.all (·.1.resolve m.workingDir ≠ place)) &&
        decide (m'.files.file? place = m.files.file? place) = kept
  | _, _ => false

theorem Options.exists_of_showsFailed {options : Options} {m : Machine} {kept : Bool}
    (shows : options.showsFailed m kept = true) :
    ∃ failure m' settled, runFrom (runPipeline options) m = (.error failure, m') ∧
      (runFrom (options.settle m.environ) m).1 = .ok settled ∧
      settled.HasOwnRecord options m m' ∧
      decide (m'.files.file? (settled.recordPlace m.workingDir) =
        m.files.file? (settled.recordPlace m.workingDir)) = kept := by
  unfold showsFailed at shows
  split at shows
  case h_2 => cases shows
  rename_i settled failure m' settling ran
  simp only [ne_eq, decide_not, Bool.and_eq_true, Bool.not_eq_true', decide_eq_false_iff_not,
    decide_eq_true_eq, List.all_eq_true] at shows
  obtain ⟨⟨⟨bindings, configs⟩, processes⟩, expected⟩ := shows
  exact ⟨failure, m', settled, ran, settling,
    ⟨bindings, configs, Machine.not_leftAt_of_outcomes processes⟩, expected⟩

/-- A small project on which the first process fails, and leaves its log. -/
def brokenProject : Machine := smallProject [.finished 1 "" "" [(.ofText "build.log", "")]]

/-- A run that fails with its first process leaves the record alone. -/
theorem leavesRecord_brokenProject :
    ∃ failure m' settled, brokenProject.files.IsSound ∧
      runFrom (runPipeline .default) brokenProject = (.error failure, m') ∧
      (∀ e, (runFrom (Options.default.settle brokenProject.environ) brokenProject).1 = .error e →
        brokenProject.Untouched m') ∧
      (runFrom (Options.default.settle brokenProject.environ) brokenProject).1 = .ok settled ∧
      settled.HasOwnRecord .default brokenProject m' ∧
      Options.default.LeavesRecord settled brokenProject m' failure := by
  have sound : brokenProject.files.IsSound := by decide
  have shows : Options.default.showsFailed brokenProject true = true := by decide +kernel
  obtain ⟨failure, m', settled, failed, settling, own, _⟩ := Options.exists_of_showsFailed shows
  obtain ⟨unsettled, leaves⟩ :=
    runPipeline_leavesRecord .default brokenProject m' failure sound failed
  exact ⟨failure, m', settled, sound, failed, unsettled, settling, own, leaves settled settling own⟩

def Options.ofBlockedStaging : Options :=
  { Options.default with stagingDir? := some (.ofText "wrapper.h") }

/-- A run that fails to stage its libraries has written a record where there was none. -/
theorem record_ofBlockedStaging :
    ∃ failure m' settled, (smallProject []).files.IsSound ∧
      runFrom (runPipeline .ofBlockedStaging) (smallProject []) = (.error failure, m') ∧
      (runFrom (Options.ofBlockedStaging.settle (smallProject []).environ)
        (smallProject [])).1 = .ok settled ∧
      settled.HasOwnRecord .ofBlockedStaging (smallProject []) m' ∧
      m'.files.file? (settled.recordPlace (smallProject []).workingDir) ≠
        (smallProject []).files.file? (settled.recordPlace (smallProject []).workingDir) := by
  have sound : (smallProject []).files.IsSound := by decide
  have shows : Options.ofBlockedStaging.showsFailed (smallProject []) false = true := by
    decide +kernel
  obtain ⟨failure, m', settled, failed, settling, own, changed⟩ :=
    Options.exists_of_showsFailed shows
  exact ⟨failure, m', settled, sound, failed, settling, own, of_decide_eq_false changed⟩

end NativeVariants
