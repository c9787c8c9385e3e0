import NativeVariants.Proofs.Build.ConfigPatching
import NativeVariants.Proofs.Build.Record

set_option autoImplicit false

/-!
Variants that are built once more. The processes of a variant may leave any files, but not in the
place of what was read or written before (`LeavesAlone`). Then every variant is left with a patched
configuration, and the build of all of them is replayed without a change (`replays_buildAll`).
-/

namespace NativeVariants
open PackageConfig Metadata

/-- Where the package configuration of a variant may be; the default build has none. -/
def Variant.configPlaces (v : Variant) (installDir : Path) : List Path :=
  if v.isNamespaced then places installDir else []

theorem Variant.configPlaces_of_namespaced {v : Variant} (namespaced : v.isNamespaced = true)
    (installDir : Path) : v.configPlaces installDir = places installDir := if_pos namespaced

theorem isPlain_places {installDir : Path} (plain : installDir.IsPlain) :
    ∀ p ∈ places installDir, p.IsPlain := by
  intro p inside
  rcases List.mem_pair.mp inside with rfl | rfl
  · exact plain.child rfl (by decide)
  · exact plain.child rfl (by decide)

theorem nodup_places {installDir : Path} (plain : installDir.IsPlain) (workingDir : Location) :
    ((places installDir).map (·.resolve workingDir)).Nodup := by
  have areParts : (places installDir).map (·.resolve workingDir) =
      (places installDir).map (·.parts) :=
    List.map_congr_left fun p inside => (isPlain_places plain p inside).resolve_eq workingDir
  rw [areParts]
  change [installDir.parts ++ ["lib", "cmake", "ggml", "ggml-config.cmake"],
    installDir.parts ++ ["build", "ggml-config.cmake"]].Nodup
  simp

/-- The variants that are known without being given. -/
def Variant.known : List Variant := Variant.default :: Variant.registered

theorem Variant.mem_known_of_forMode {multiVariant : Bool} {variants : List Variant}
    (chosen : forMode multiVariant registered = .ok variants) : variants ⊆ known := by
  have choice := forMode_eq_ok_iff.mp chosen
  cases multiVariant with
  | true =>
      rw [if_pos rfl] at choice
      rw [choice.2]
      exact List.subset_cons_self _ _
  | false =>
      rw [if_neg Bool.false_ne_true] at choice
      rw [choice]
      exact List.cons_subset_cons _ (List.nil_subset _)

theorem Variant.mem_registered_of_known {v : Variant} (isKnown : v ∈ known)
    (namespaced : v.isNamespaced = true) : v ∈ registered := by
  rcases List.mem_cons.mp isKnown with rfl | registered
  · cases namespaced
  · exact registered

theorem isPlain_installDir {v : Variant} (isKnown : v ∈ Variant.known) {outDir : Path}
    (plain : outDir.IsPlain) : (v.installDir outDir).IsPlain := by
  have named : ∀ v ∈ Variant.known, (Path.ofText v.name).anchor = .here ∧
      Path.upward ∉ (Path.ofText v.name).parts := by
    decide
  exact plain.child (named v isKnown).1 (named v isKnown).2

/-! ### The parts of a build -/

def Variant.compile (v : Variant) (config : BuildConfig) (sourceDir installDir : Path)
    (settings : BuildSettings) : Run Unit := do
  let buildDir := installDir.child "build"
  let defines := Defines.ofVariant config v installDir.display
  let buildType := Defines.buildType defines
  (Defines.warnings config v installDir.display).forM (Run.warn .nativeBuild)
  Run.print s!"🔨 Building {v.name} variant ({v.basename})..."
  runStep (Command.configure settings.tool sourceDir buildDir defines) v .configure sourceDir
  let jobs ← chosenJobs settings
  runStep (Command.build settings.tool buildDir jobs buildType) v .build sourceDir
  runStep (Command.install settings.tool buildDir buildType) v .install sourceDir

def Variant.close (v : Variant) (artifacts : Artifacts) : Run Artifacts := do
  noteInstalled v artifacts.libDir
  Run.print s!"✅ {v.name} variant built: {artifacts.libDir.display}"
  return artifacts

theorem buildVariant_eq (config : BuildConfig) (v : Variant) (sourceDir outDir : Path)
    (settings : BuildSettings) :
    buildVariant config v sourceDir outDir settings = (do
      let source ← Run.resolve sourceDir
      let installDir := v.installDir (← Run.resolve outDir)
      v.compile config source installDir settings
      discard (patchPackageConfig.go v.basename (v.configPlaces installDir))
      v.close (v.artifacts config source installDir)) := by
  unfold buildVariant Variant.compile Variant.configPlaces Variant.close patchPackageConfig
  simp only [bind_assoc]
  refine bind_congr fun source => bind_congr fun out => bind_congr fun _ => bind_congr fun _ => ?_
  refine bind_congr fun _ => bind_congr fun jobs => bind_congr fun _ => bind_congr fun _ => ?_
  by_cases namespaced : v.isNamespaced = true
  · rw [if_pos namespaced, if_pos namespaced]
  · have nothing : discard (patchPackageConfig.go v.basename []) = (pure () : Run Unit) := rfl
    rw [if_neg namespaced, if_neg namespaced, nothing, pure_bind]

theorem isPlain_configPlaces {v : Variant} (isKnown : v ∈ Variant.known) {outDir : Path}
    (plain : outDir.IsPlain) : ∀ p ∈ v.configPlaces (v.installDir outDir), p.IsPlain := by
  intro p inside
  unfold Variant.configPlaces at inside
  split at inside
  · exact isPlain_places (isPlain_installDir isKnown plain) p inside
  · cases inside

theorem patches_of_run {v : Variant} {outDir : Path} {configs : List Location} {m m' : Machine}
    {found? : Option Path} (isKnown : v ∈ Variant.known)
    (plain : outDir.IsPlain) (sound : m.files.IsSound)
    (part : (v.configPlaces (v.installDir outDir)).map (·.resolve m.workingDir) ⊆ configs)
    (unmarked : IsUnmarked configs m.files)
    (ran : runFrom (patchPackageConfig.go v.basename (v.configPlaces (v.installDir outDir))) m =
      (.ok found?, m')) :
    IsPatched v.basename m' (v.configPlaces (v.installDir outDir)) ∧ IsUnmarked configs m'.files ∧
      m.Changes (· ∈ (v.configPlaces (v.installDir outDir)).map (·.resolve m.workingDir))
        (fun _ => False) m' := by
  by_cases namespaced : v.isNamespaced = true
  · rw [Variant.configPlaces_of_namespaced namespaced] at *
    have isRegistered := Variant.mem_registered_of_known isKnown namespaced
    have installed := isPlain_installDir isKnown plain
    exact isPatched_of_run ⟨v, isRegistered, rfl⟩ sound (isPlain_places installed)
      (nodup_places installed _) part unmarked ran
  · have none : v.configPlaces (v.installDir outDir) = [] := if_neg namespaced
    rw [none] at ran ⊢
    cases ran
    exact ⟨.none, unmarked, .refl sound⟩

/-- What processes may leave behind: nothing at the places that are kept, and no marks in a package
configuration. -/
structure ProcessOutcome.LeavesAlone (workingDir : Location) (kept configs : List Location)
    (outcome : ProcessOutcome) : Prop where
  apart : ∀ file ∈ outcome.created, file.1.resolve workingDir ∉ kept
  unmarked : ∀ file ∈ outcome.created, file.1.resolve workingDir ∈ configs →
    '\x00' ∉ file.2.toList

instance (workingDir : Location) (kept configs : List Location) (outcome : ProcessOutcome) :
    Decidable (outcome.LeavesAlone workingDir kept configs) :=
  decidable_of_iff (_ ∧ _) ⟨fun both => ⟨both.1, both.2⟩, fun alone => ⟨alone.apart, alone.unmarked⟩⟩

structure Machine.ChangesUnmarked (kept configs : List Location) (m m' : Machine) : Prop
    extends m.Changes (· ∉ kept) (fun _ => False) m' where
  unmarked : IsUnmarked configs m.files → IsUnmarked configs m'.files

section Processes

variable {kept configs : List Location} {m m' m'' : Machine}

theorem Machine.ChangesUnmarked.trans (first : m.ChangesUnmarked kept configs m')
    (second : m'.ChangesUnmarked kept configs m'') : m.ChangesUnmarked kept configs m'' where
  toChanges := first.toChanges.trans second.toChanges
  unmarked := fun before => second.unmarked (first.unmarked before)

theorem Machine.Changes.unmarked (changes : m.Changes (fun _ => False) (fun _ => False) m') :
    m.ChangesUnmarked kept configs m' where
  toChanges := changes.mono (fun _ => False.elim) fun _ => id
  unmarked := fun before => before.of_changes changes fun _ _ => not_false

theorem Machine.Talks.changesUnmarked (talks : m.Talks m') (sound : m.files.IsSound) :
    m.ChangesUnmarked kept configs m' := (talks.changes sound _ _).unmarked

theorem Run.changesUnmarked_writeText {p : Path} {text : String} (sound : m.files.IsSound)
    (apart : p.resolve m.workingDir ∉ kept)
    (unmarked : p.resolve m.workingDir ∈ configs → '\x00' ∉ text.toList) :
    m.ChangesUnmarked kept configs (runFrom (writeText p text) m).2 := by
  unfold writeText
  rcases runFrom_writeContent_cases p (.text text) m with ⟨failure, failed⟩ | ⟨m', writes⟩
  · rw [failed]
    exact (Machine.Changes.refl sound).unmarked
  · rw [runFrom_writeContent_of_writes writes]
    refine ⟨(writes.changes sound _).1.mono ?_ fun _ => id, fun before => ?_⟩
    · rintro l rfl
      exact apart
    · exact before.of_writes sound writes unmarked

/-- Changing files so, from machines that work in a given directory and have sound trees. -/
def Machine.ChangesUnmarkedIn (workingDir : Location) (kept configs : List Location)
    (m m' : Machine) : Prop :=
  m.workingDir = workingDir → m.files.IsSound → m.ChangesUnmarked kept configs m'

instance (workingDir : Location) : IsPreorder Machine
    (Machine.ChangesUnmarkedIn workingDir kept configs) where
  refl _ := fun _ sound => (Machine.Changes.refl sound).unmarked
  trans _ _ _ first second := fun here sound =>
    have before := first here sound
    before.trans (second (before.workingDir.trans here) before.sound)

theorem Run.changesUnmarked_leave {workingDir : Location} {created : List (Path × String)}
    (apart : ∀ file ∈ created, file.1.resolve workingDir ∉ kept)
    (unmarked : ∀ file ∈ created, file.1.resolve workingDir ∈ configs → '\x00' ∉ file.2.toList) :
    Respects (Machine.ChangesUnmarkedIn workingDir kept configs) (leave created) := by
  refine respects_forM fun file inCreated => ?_
  have made : Respects (Machine.ChangesUnmarkedIn workingDir kept configs)
      (makeDirectories file.1.parent) :=
    fun _ _ sound => (admits_changes.makeDirectories _ _ rfl sound).unmarked
  have wrote : Respects (Machine.ChangesUnmarkedIn workingDir kept configs)
      (writeText file.1 file.2) := by
    rintro _ rfl sound
    exact changesUnmarked_writeText sound (apart file inCreated) (unmarked file inCreated)
  exact (made.bind fun _ => wrote).tryCatch fun _ => respects_pure _

theorem runStep_eq_ok {command : Command} {v : Variant} {step : BuildStep} {workingDir : Path}
    {m m' : Machine}
    (ran : runFrom (runStep command v step workingDir) m = (.ok (), m')) :
    ∃ m₁, m.Talks m₁ ∧
      (runFrom (Run.leave (m.outcome 0).created) (m₁.started command workingDir)).2.Talks m' := by
  unfold runStep at ran
  obtain ⟨_, m₁, noted, starting⟩ := runFrom_bind_eq_ok.mp ran
  have noting := (Run.talks_note _ _).of_run noted
  rw [runFrom_bind_of_ok (Run.runFrom_start command workingDir m₁),
    Machine.outcome_eq noting.outcomes] at starting
  refine ⟨m₁, noting, ?_⟩
  cases outcome : m.outcome 0 with
  | missing => rw [outcome] at starting; cases starting
  | unstarted fault => rw [outcome] at starting; cases starting
  | undecodable created => rw [outcome] at starting; cases starting
  | finished status output errorOutput created =>
      simp only [outcome] at starting
      split at starting
      · cases starting
      · exact (Run.talks_note _ _).of_run starting

structure Machine.Passes (kept configs : List Location) (n : Nat) (m m' : Machine) : Prop
    extends m.ChangesUnmarked kept configs m' where
  outcomes : m'.outcomes = m.outcomes.drop n

theorem Machine.Passes.trans {i j : Nat} (first : m.Passes kept configs i m')
    (second : m'.Passes kept configs j m'') : m.Passes kept configs (i + j) m'' where
  toChangesUnmarked := first.toChangesUnmarked.trans second.toChangesUnmarked
  outcomes := by rw [second.outcomes, first.outcomes, List.drop_drop]

theorem Machine.Talks.passes (talks : m.Talks m') (sound : m.files.IsSound) :
    m.Passes kept configs 0 m' where
  toChangesUnmarked := talks.changesUnmarked sound
  outcomes := talks.outcomes

/-- The next process is the one that comes after those that were passed. -/
theorem Machine.Passes.leavesAlone {i : Nat} (passes : m.Passes kept configs i m')
    (alone : (m.outcome i).LeavesAlone m.workingDir kept configs) :
    (m'.outcome 0).LeavesAlone m'.workingDir kept configs := by
  rw [passes.workingDir, Machine.outcome_of_drop passes.outcomes]
  exact alone

theorem passes_runStep {command : Command} {v : Variant} {step : BuildStep}
    {workingDir : Path} (sound : m.files.IsSound)
    (alone : (m.outcome 0).LeavesAlone m.workingDir kept configs)
    (ran : runFrom (runStep command v step workingDir) m = (.ok (), m')) :
    m.Passes kept configs 1 m' := by
  obtain ⟨m₁, noting, reporting⟩ := runStep_eq_ok ran
  have before : m.ChangesUnmarked kept configs m₁ := noting.changesUnmarked sound
  have starting : m₁.ChangesUnmarked kept configs (m₁.started command workingDir) := by
    apply Machine.Changes.unmarked
    exact .of_files ⟨rfl, fun _ there => there⟩ rfl before.sound fun _ => rfl
  have apart := alone.apart
  have unmarked := alone.unmarked
  rw [← noting.workingDir] at apart unmarked
  have leaving : (m₁.started command workingDir).ChangesUnmarked kept configs
      (runFrom (Run.leave (m.outcome 0).created) (m₁.started command workingDir)).2 :=
    Run.changesUnmarked_leave apart unmarked _ rfl starting.sound
  refine ⟨?_, ?_⟩
  · exact before.trans (starting.trans (leaving.trans (reporting.changesUnmarked leaving.sound)))
  · let site : Site := ⟨m.workingDir, m.host, fun _ => True⟩
    obtain ⟨n, added, carried⟩ :=
      carries_runStep site command v step workingDir m ⟨rfl, rfl, fun _ _ _ _ => trivial⟩
    rw [ran] at carried
    rw [carried.outcomes, carried.finished rfl]
    rfl

theorem talks_close (v : Variant) (artifacts : Artifacts) :
    Respects Machine.Talks (v.close artifacts) :=
  (respects_noteInstalled Run.talks_note _ _).bind fun _ =>
    (Run.talks_print _).bind fun _ => respects_pure _

def BuildSettings.HasJobs (settings : BuildSettings) (host : Host) : Prop :=
  ∃ jobs, Command.parallelJobs? settings.jobs host.cpuCount? = some jobs ∧ jobs.isWritable = true

theorem passes_compile {config : BuildConfig} {v : Variant} {sourceDir installDir : Path}
    {settings : BuildSettings} (sound : m.files.IsSound)
    (alone : ∀ i < 3, (m.outcome i).LeavesAlone m.workingDir kept configs)
    (ran : runFrom (v.compile config sourceDir installDir settings) m = (.ok (), m')) :
    settings.HasJobs m.host ∧ m.Passes kept configs 3 m' := by
  unfold Variant.compile at ran
  obtain ⟨_, m₁, warned, announcing⟩ := runFrom_bind_eq_ok.mp ran
  obtain ⟨_, m₂, announced, configuring⟩ := runFrom_bind_eq_ok.mp announcing
  obtain ⟨_, m₃, configured, choosing⟩ := runFrom_bind_eq_ok.mp configuring
  obtain ⟨jobs, m₄, chosen, compiling⟩ := runFrom_bind_eq_ok.mp choosing
  obtain ⟨_, m₅, compiled, installing⟩ := runFrom_bind_eq_ok.mp compiling
  have talked : m.Talks m₂ :=
    trans_of Machine.Talks ((respects_forM fun _ _ => Run.talks_warn _ _).of_run warned)
      ((Run.talks_print _).of_run announced)
  have looked : m₃.Talks m₄ := (respects_chosenJobs settings).of_run chosen
  obtain ⟨found, writable⟩ := chosenJobs_eq_ok chosen
  have passed₂ : m.Passes kept configs 0 m₂ := talked.passes sound
  have passed₃ : m.Passes kept configs 1 m₃ := passed₂.trans
    (passes_runStep passed₂.sound (passed₂.leavesAlone (alone 0 (by omega))) configured)
  have passed₄ : m.Passes kept configs 1 m₄ := passed₃.trans (looked.passes passed₃.sound)
  have passed₅ : m.Passes kept configs 2 m₅ := passed₄.trans
    (passes_runStep passed₄.sound (passed₄.leavesAlone (alone 1 (by omega))) compiled)
  rw [passed₃.host] at found
  have passed₆ : m.Passes kept configs 3 m' := passed₅.trans
    (passes_runStep passed₅.sound (passed₅.leavesAlone (alone 2 (by omega))) installing)
  exact ⟨⟨jobs, found, writable⟩, passed₆⟩

structure Variant.IsBuilt (v : Variant) (sourceDir outDir : Path) (settings : BuildSettings)
    (m : Machine) : Prop where
  sources : sourceDir.isNameable = true
  results : outDir.isNameable = true
  jobs : settings.HasJobs m.host
  patched : IsPatched v.basename m (v.configPlaces (v.installDir (outDir.absolute m.workingDir)))

theorem isBuilt_of_run {config : BuildConfig} {v : Variant} {sourceDir outDir : Path}
    {settings : BuildSettings} {artifacts : Artifacts}
    (isKnown : v ∈ Variant.known)
    (plain : Path.upward ∉ m.workingDir) (sound : m.files.IsSound)
    (alone : ∀ i < 3, (m.outcome i).LeavesAlone m.workingDir kept configs)
    (part : (v.configPlaces (v.installDir (outDir.absolute m.workingDir))).map
      (·.resolve m.workingDir) ⊆ configs)
    (apart : ∀ l ∈ kept, l ∉ (v.configPlaces (v.installDir (outDir.absolute m.workingDir))).map
      (·.resolve m.workingDir))
    (unmarked : IsUnmarked configs m.files)
    (ran : runFrom (buildVariant config v sourceDir outDir settings) m = (.ok artifacts, m')) :
    v.IsBuilt sourceDir outDir settings m' ∧ m.Passes kept configs 3 m' := by
  rw [buildVariant_eq] at ran
  obtain ⟨source, m₁, resolved, locating⟩ := runFrom_bind_eq_ok.mp ran
  obtain ⟨sources, rfl, rfl⟩ := Run.runFrom_resolve_eq_ok_iff.mp resolved
  obtain ⟨out, m₂, located, compiling⟩ := runFrom_bind_eq_ok.mp locating
  obtain ⟨results, rfl, rfl⟩ := Run.runFrom_resolve_eq_ok_iff.mp located
  obtain ⟨_, m₃, compiled, patching⟩ := runFrom_bind_eq_ok.mp compiling
  obtain ⟨_, m₄, patched, closing⟩ := runFrom_bind_eq_ok.mp patching
  obtain ⟨found?, patched⟩ := discard_eq_ok patched
  obtain ⟨jobs, passed⟩ := passes_compile sound alone compiled
  have here := passed.workingDir
  have outPlain : (outDir.absolute m₂.workingDir).IsPlain := Path.isPlain_absolute plain outDir
  obtain ⟨isPatched, stillUnmarked, changes⟩ := patches_of_run isKnown outPlain passed.sound
    (by rwa [here]) (passed.unmarked unmarked) patched
  rw [here] at changes
  have closed : m₄.Changes (fun _ => False) (fun _ => False) m' :=
    ((talks_close _ _).of_run closing).changes changes.sound _ _
  have whole : m₂.ChangesUnmarked kept configs m' := by
    refine (passed.toChangesUnmarked.trans ⟨changes.mono ?_ fun _ => id, fun _ => stillUnmarked⟩).trans
      closed.unmarked
    exact fun l inside isKept => apart l isKept inside
  refine ⟨⟨sources, results, ?_, ?_⟩, whole, ?_⟩
  · rw [whole.host]
    exact jobs
  · rw [whole.workingDir]
    exact isPatched.of_changes (isPlain_configPlaces isKnown outPlain) changes.sound closed
      fun _ _ => not_false
  · let site : Site := ⟨m₂.workingDir, m₂.host, fun _ => True⟩
    have carries : Carries site _ (buildVariant config v sourceDir outDir settings) :=
      carries_buildVariant config v sourceDir outDir settings fun _ _ _ => trivial
    obtain ⟨n, added, carried⟩ := carries m₂ ⟨rfl, rfl, fun _ _ _ _ => trivial⟩
    rw [buildVariant_eq, ran] at carried
    rw [carried.outcomes, carried.finished rfl]
    rfl

/-- A variant that was built stays built as long as its configuration is left alone. -/
theorem Variant.IsBuilt.of_changes {v : Variant} {sourceDir outDir : Path}
    {settings : BuildSettings} {writes drafts : Location → Prop}
    (built : v.IsBuilt sourceDir outDir settings m)
    (isKnown : v ∈ Variant.known)
    (plain : Path.upward ∉ m.workingDir) (sound : m.files.IsSound)
    (changes : m.Changes writes drafts m')
    (apart : ∀ p ∈ v.configPlaces (v.installDir (outDir.absolute m.workingDir)),
      ¬writes (p.resolve m.workingDir)) :
    v.IsBuilt sourceDir outDir settings m' where
  sources := built.sources
  results := built.results
  jobs := by
    rw [changes.host]
    exact built.jobs
  patched := by
    rw [changes.workingDir]
    have outPlain := Path.isPlain_absolute plain outDir
    exact built.patched.of_changes (isPlain_configPlaces isKnown outPlain) sound changes apart

end Processes

/-! ### All variants -/

def Settled.configs (settled : Settled) (workingDir : Location) (v : Variant) : List Location :=
  (v.configPlaces (v.installDir (settled.paths.outDir.absolute workingDir))).map
    (·.resolve workingDir)

/-- The processes of some variants leave alone what is kept, and the configurations of the variants
that were built before theirs. -/
def Settled.LeavesAlone (settled : Settled) (workingDir : Location) (configs : List Location) :
    List Variant → List ProcessOutcome → List Location → Prop
  | [], _, _ => True
  | v :: rest, outcomes, kept =>
      (∀ outcome ∈ outcomes.take 3, outcome.LeavesAlone workingDir kept configs) ∧
        settled.LeavesAlone workingDir configs rest (outcomes.drop 3)
          (kept ++ settled.configs workingDir v)

instance Settled.decidableLeavesAlone (settled : Settled) (workingDir : Location)
    (configs : List Location) : ∀ (variants : List Variant) (outcomes : List ProcessOutcome)
      (kept : List Location),
      Decidable (settled.LeavesAlone workingDir configs variants outcomes kept)
  | [], _, _ => inferInstanceAs (Decidable True)
  | v :: rest, outcomes, kept =>
      have := settled.decidableLeavesAlone workingDir configs rest (outcomes.drop 3)
        (kept ++ settled.configs workingDir v)
      inferInstanceAs (Decidable (_ ∧ _))

theorem leavesAlone_outcome {m : Machine} {kept configs : List Location} {i n : Nat}
    (alone : ∀ outcome ∈ m.outcomes.take n, outcome.LeavesAlone m.workingDir kept configs)
    (early : i < n) : (m.outcome i).LeavesAlone m.workingDir kept configs := by
  unfold Machine.outcome
  cases next : m.outcomes[i]? with
  | none => exact ⟨nofun, nofun⟩
  | some outcome =>
      apply alone
      have inside : (m.outcomes.take n)[i]? = some outcome := by
        rw [List.getElem?_take_of_lt early, next]
      exact List.mem_of_getElem? inside

section All

variable {kept configs : List Location} {m m' : Machine} {settled : Settled} {tool : String}

/-- All variants of a build that returns are left as they are built. -/
theorem isBuilt_of_buildAll {channel : Channel} {variants : List Variant}
    {published : Channel × List Artifacts}
    (areKnown : variants ⊆ Variant.known)
    (plain : Path.upward ∉ m.workingDir) (sound : m.files.IsSound)
    (alone : settled.LeavesAlone m.workingDir configs variants m.outcomes kept)
    (part : variants.flatMap (settled.configs m.workingDir) ⊆ configs)
    (apart : (kept ++ variants.flatMap (settled.configs m.workingDir)).Nodup)
    (unmarked : IsUnmarked configs m.files)
    (ran : runFrom (buildAll settled tool channel variants) m = (.ok published, m')) :
    (∀ v ∈ variants, v.IsBuilt settled.paths.sourceDir settled.paths.outDir
      ⟨settled.jobs, tool⟩ m') ∧ m.ChangesUnmarked kept configs m' := by
  induction variants generalizing m channel kept published with
  | nil =>
      cases ran
      exact ⟨by simp, (Machine.Changes.refl sound).unmarked⟩
  | cons v rest ih =>
      unfold buildAll at ran
      obtain ⟨first, m₁, built, following⟩ := runFrom_bind_eq_ok.mp ran
      obtain ⟨others, m₂, builtRest, returned⟩ := runFrom_bind_eq_ok.mp following
      cases returned
      obtain ⟨artifacts, m₃, building, publishing⟩ := runFrom_bind_eq_ok.mp built
      rw [List.cons_subset] at areKnown
      rw [List.flatMap_cons, ← List.append_assoc] at apart
      rw [List.flatMap_cons, List.append_subset] at part
      have apartHere := (List.nodup_append'.mp (List.nodup_append'.mp apart).1).2.2
      obtain ⟨builtHere, passed⟩ := isBuilt_of_run areKnown.1 plain sound
        (fun i early => leavesAlone_outcome alone.1 early) part.1 apartHere unmarked building
      have talked : m₃.Talks m₁ := by
        have published : Respects Machine.Talks (do
            let channel ← publishVariant channel artifacts
            Run.note .pipeline s!"Staged metadata for {v.name}"
            return (channel, artifacts)) :=
          (respects_publish Run.talks_note _ _).bind fun _ =>
            (Run.talks_note _ _).bind fun _ => respects_pure _
        exact published.of_run publishing
      have passedHere : m.Passes kept configs 3 m₁ := passed.trans (talked.passes passed.sound)
      have here := passedHere.workingDir
      have aloneLater : settled.LeavesAlone m₁.workingDir configs rest m₁.outcomes
          (kept ++ settled.configs m.workingDir v) := by
        rw [here, passedHere.outcomes]
        exact alone.2
      obtain ⟨builtOthers, changes⟩ := ih areKnown.2 (by rwa [here]) passedHere.sound aloneLater
        (by rw [here]; exact part.2) (by rwa [here]) (passedHere.unmarked unmarked) builtRest
      refine ⟨?_, passedHere.toChangesUnmarked.trans ⟨changes.mono ?_ fun _ => id, changes.unmarked⟩⟩
      · intro w inside
        rcases List.mem_cons.mp inside with rfl | inRest
        · have later := (talked.changes passed.sound _ _).trans changes.toChanges
          refine builtHere.of_changes areKnown.1 ?_ passed.sound later ?_
          · rwa [passed.workingDir]
          · intro p isConfig outside
            rw [passed.workingDir] at isConfig outside
            exact outside (List.mem_append_right _ (List.mem_map_of_mem isConfig))
        · exact builtOthers w inRest
      · intro l outside isKept
        exact outside (List.mem_append_left _ isKept)

end All

/-! ### The build once more -/

section Again

variable {last : Machine}

theorem replays_noteInstalled (v : Variant) (libDir : Path) :
    Replays last (noteInstalled v libDir) ⟨⟩ := by
  refine (Run.replays_isDirectory libDir).bind ?_
  by_cases there : last.files.find? last.workingDir libDir = some .directory
  · have reaches := (Machine.find?_eq_some_iff.mp there).1
    rw [there]
    refine replays_get_bind fun n _ => (Run.replays_locate reaches).bind ?_
    exact replays_forM fun name _ => Run.replays_note _ _
  · simp only [there, decide_false]
    exact replays_pure _

theorem Machine.Repeats.isQuiet_outcome {n : Machine} (repeats : last.Repeats n) :
    (n.outcome 0).IsQuiet := by
  unfold outcome
  cases next : n.outcomes[0]? with
  | none => exact ⟨"", "", rfl⟩
  | some outcome => exact repeats.quiet outcome (List.mem_of_getElem? next)

theorem Machine.Repeats.started {n : Machine} (repeats : last.Repeats n) (command : Command)
    (workingDir : Path) : last.Repeats (n.started command workingDir) where
  host := repeats.host
  workingDir := repeats.workingDir
  files := repeats.files
  quiet := fun outcome later => repeats.quiet outcome (List.mem_of_mem_drop later)

/-- A step whose process is quiet leaves everything as it is. -/
theorem replays_runStep (command : Command) (v : Variant) (step : BuildStep) (workingDir : Path) :
    Replays last (runStep command v step workingDir) ⟨⟩ := by
  refine (Run.replays_note _ _).bind ?_
  intro n repeats
  obtain ⟨output, errorOutput, quiet⟩ := repeats.isQuiet_outcome
  have started : runFrom (Run.start command workingDir) n =
      (.ok (.finished 0 output errorOutput []), n.started command workingDir) := by
    rw [Run.runFrom_start, quiet]
    rfl
  rw [runFrom_bind_of_ok started]
  exact Run.replays_note _ _ _ (repeats.started command workingDir)

theorem replays_chosenJobs {settings : BuildSettings} (jobs : settings.HasJobs last.host) :
    ∃ jobs, Replays last (chosenJobs settings) jobs := by
  obtain ⟨jobs, found, writable⟩ := jobs
  refine ⟨jobs, replays_get_bind fun n repeats => ?_⟩
  rw [repeats.host, found]
  simp only [writable, if_true]
  exact replays_pure _

theorem replays_compile {settings : BuildSettings} (jobs : settings.HasJobs last.host)
    (config : BuildConfig) (v : Variant) (sourceDir installDir : Path) :
    Replays last (v.compile config sourceDir installDir settings) ⟨⟩ := by
  obtain ⟨found, chosen⟩ := replays_chosenJobs jobs
  refine (replays_forM fun _ _ => Run.replays_warn _ _).bind ((Run.replays_print _).bind ?_)
  refine (replays_runStep _ _ _ _).bind (chosen.bind ((replays_runStep _ _ _ _).bind ?_))
  exact replays_runStep _ _ _ _

theorem Variant.IsBuilt.replays {v : Variant} {sourceDir outDir : Path}
    {settings : BuildSettings} (built : v.IsBuilt sourceDir outDir settings last)
    (config : BuildConfig) :
    Replays last (buildVariant config v sourceDir outDir settings)
      (v.artifacts config (sourceDir.absolute last.workingDir)
        (v.installDir (outDir.absolute last.workingDir))) := by
  obtain ⟨found?, patched⟩ := built.patched.replays
  rw [buildVariant_eq]
  refine (Run.replays_resolve built.sources).bind ((Run.replays_resolve built.results).bind ?_)
  refine (replays_compile built.jobs _ _ _ _).bind ((patched.map _).bind ?_)
  exact (replays_noteInstalled _ _).bind ((Run.replays_print _).bind (replays_pure _))

theorem replays_publish {channel channel' : Channel} {items : List (String × String)}
    (staged : channel.stage items = .ok channel') :
    Replays last (publish channel items) channel' :=
  (replays_ofReported staged).bind
    ((replays_forM fun _ _ => Run.replays_note _ _).bind (replays_pure _))

/-- Variants that were built are built again without a change, and publish the same facts. -/
theorem replays_buildAll {settled : Settled} {tool : String} {channel channel' : Channel}
    {variants : List Variant}
    (built : ∀ v ∈ variants, v.IsBuilt settled.paths.sourceDir settled.paths.outDir
      ⟨settled.jobs, tool⟩ last)
    (taken : (variants.map (settled.artifacts last.workingDir)).foldlM Channel.publishVariant
      channel = .ok channel') :
    Replays last (buildAll settled tool channel variants)
      (channel', variants.map (settled.artifacts last.workingDir)) := by
  induction variants generalizing channel with
  | nil =>
      cases taken
      exact replays_pure _
  | cons v rest ih =>
      rw [List.map_cons, List.foldlM_cons] at taken
      cases first : channel.publishVariant (settled.artifacts last.workingDir v) with
      | error problem =>
          rw [first] at taken
          cases taken
      | ok next =>
          rw [first] at taken
          have here : Replays last (buildAndPublish settled tool channel v)
              (next, settled.artifacts last.workingDir v) :=
            ((built v List.mem_cons_self).replays _).bind
              ((replays_publish first).bind ((Run.replays_note _ _).bind (replays_pure _)))
          have others := ih (fun w inRest => built w (List.mem_cons_of_mem v inRest)) taken
          exact here.bind (others.bind (replays_pure _))

end Again

end NativeVariants
