import NativeVariants.Proofs.Build.Settling
import NativeVariants.Proofs.Build.Steps
import NativeVariants.Proofs.BuildConfig.Leniency
import NativeVariants.Proofs.Machine.Environment
import NativeVariants.Proofs.Machine.SoundTrees

set_option autoImplicit false

/-!
Runs that stop after the bindings. A signal in the environment switches off what is required of the
features, and nothing else that the bindings depend on: whatever a build has generated when it goes
on to the variants, the same run with a signal generates, too, and returns
(`runPipeline_bindingsOnly`).
-/

namespace NativeVariants
open Header

/-! ### Settling under a signal -/

/-- Both environments have the same values under some keys. -/
def Environ.AgreesOn (keys : List String) (environ other : Environ) : Prop :=
  ∀ key ∈ keys, other.get? key = environ.get? key

def Settled.inEnviron (settled : Settled) (environ : Environ) : Settled :=
  { settled with config := settled.config.inEnviron environ }

namespace Options

/-- The variables that stand in for options that are not given. -/
def asked : List String := [targetVariable, featuresVariable, multiVariantVariable]

section Agreement

variable {environ other : Environ} (agrees : environ.AgreesOn asked other)
include agrees

theorem features_of_agrees (options : Options) (file : ProjectFile) :
    options.features other file = options.features environ file := by
  unfold features
  rw [agrees featuresVariable (by decide)]

theorem target_of_agrees (options : Options) (host : Host) :
    options.target other host = options.target environ host := by
  unfold target Environ.nonEmpty?
  rw [agrees targetVariable (by decide)]

theorem multiVariant_of_agrees (options : Options) (file : ProjectFile) :
    options.multiVariant other file = options.multiVariant environ file := by
  unfold multiVariant Environ.flag Table.contains
  rw [agrees multiVariantVariable (by decide)]

theorem buildRequest_of_agrees (signal : other.docsSignal?.isSome = true) (options : Options)
    (host : Host) (file : ProjectFile) (features : List String) :
    options.buildRequest other host file features =
      { options.buildRequest environ host file features with
        environ := other, validate := false } := by
  have validate : other.docsSignal?.isNone = false := by
    rw [← Option.not_isSome, signal]
    rfl
  unfold buildRequest
  rw [target_of_agrees agrees, multiVariant_of_agrees agrees, validate]

theorem Settles.lenient {options : Options} {host : Host} {workingDir : Location}
    {file : ProjectFile} {settled : Settled}
    (settles : options.Settles environ host workingDir file settled)
    (signal : other.docsSignal?.isSome = true) :
    options.Settles other host workingDir file (settled.inEnviron other) := by
  obtain ⟨features, found, resolved⟩ := settles.config
  refine ⟨settles.nameable, settles.paths, ⟨features, ?_, ?_⟩, settles.jobs, settles.allow⟩
  · rw [features_of_agrees agrees, found]
  · rw [buildRequest_of_agrees agrees signal]
    exact BuildConfig.resolve_lenient resolved other

end Agreement

theorem ofReported_map {α β : Type} (f : α → β) (result : Except Problem α) :
    Run.ofReported (result.map f) = f <$> Run.ofReported result := by
  cases result with
  | error problem => rfl
  | ok a => rfl

theorem settle_inEnviron {environ other : Environ} (agrees : environ.AgreesOn asked other)
    (signal : environ.docsSignal?.isSome = true) (otherSignal : other.docsSignal?.isSome = true)
    (options : Options) :
    options.settle other = (·.inEnviron other) <$> options.settle environ := by
  have lenient : environ.docsSignal?.isNone = false := by
    rw [← Option.not_isSome, signal]
    rfl
  unfold settle
  simp only [map_bind]
  refine bind_congr fun file => bind_congr fun paths => ?_
  rw [features_of_agrees agrees]
  refine bind_congr fun features => bind_congr fun m => ?_
  have request := buildRequest_of_agrees agrees otherSignal options m.host file features
  have resolved : BuildConfig.resolve (options.buildRequest other m.host file features) =
      (BuildConfig.resolve (options.buildRequest environ m.host file features)).map
        (·.inEnviron other) := by
    rw [request, ← BuildConfig.resolve_inEnviron (by exact lenient)]
    congr 1
    unfold buildRequest
    rw [lenient]
  unfold buildRequest at resolved
  rw [resolved, ofReported_map, bind_map_left]
  refine bind_congr fun config => bind_congr fun _ => ?_
  exact bind_congr fun jobs => bind_congr fun allow => rfl

theorem generate_of_settle {environ other : Environ} {options : Options}
    (same : options.settle other = (·.inEnviron other) <$> options.settle environ) :
    options.generate other = (·.inEnviron other) <$> options.generate environ := by
  unfold generate
  rw [same, bind_map_left, map_bind]
  refine bind_congr fun settled => ?_
  rw [map_bind]
  exact bind_congr fun _ => rfl

end Options

/-! ### The environment of the machine -/

theorem ProjectFile.heedless_load (root : Path) : Heedless (load root) := by
  refine (Run.heedless_isFile _).bind fun _ => .ite ?_ (heedless_ofExcept _)
  exact (Run.heedless_readText _).bind fun _ => heedless_ofExcept _

theorem ProjectPaths.heedless_resolve (root : Path) (layout : Layout) (outDir? : Option Path) :
    Heedless (resolve root layout outDir?) := by
  refine (Run.heedless_resolve _).bind fun _ => (Run.heedless_resolve _).bind fun _ => ?_
  exact (Run.heedless_resolve _).bind fun _ => (Run.heedless_resolve _).bind fun _ =>
    heedless_pure _

theorem ProjectPaths.heedless_check (paths : ProjectPaths) : Heedless paths.check :=
  heedless_forM fun p => (Run.heedless_present p).bind fun _ =>
    .ite (heedless_throw _) (heedless_pure _)

theorem Options.heedless_settle (options : Options) (environ : Environ) :
    Heedless (options.settle environ) := by
  refine (ProjectFile.heedless_load _).bind fun _ => ?_
  refine (ProjectPaths.heedless_resolve _ _ _).bind fun _ => (heedless_ofExcept _).bind fun _ => ?_
  refine heedless_get_bind (fun _ => ?_) fun _ _ => rfl
  refine (heedless_ofExcept _).bind fun _ => (Run.heedless_note _ _).bind fun _ => ?_
  exact (heedless_ofExcept _).bind fun _ => (heedless_ofExcept _).bind fun _ => heedless_pure _

theorem heedless_readHeader (request : BindingRequest) : Heedless (readHeader request) := by
  refine (Run.heedless_note _ _).bind fun _ => (Run.heedless_nextUnit _ _).bind fun _ => ?_
  refine (heedless_forM fun _ => Run.heedless_warn _ _).bind fun _ => ?_
  exact (heedless_ofExcept _).bind fun _ => (Run.heedless_note _ _).bind fun _ => heedless_pure _

theorem heedless_generateBindings (request : BindingRequest) :
    Heedless (generateBindings request) := by
  rw [request.generateBindings_eq]
  refine Heedless.bind ?_ fun surface => ?_
  · refine (Run.heedless_isFile _).bind fun _ => .ite ?_ (heedless_throw _)
    refine (Run.heedless_print _).bind fun _ => (heedless_readHeader _).bind fun _ => ?_
    exact .ite (heedless_throw _) (.ite (heedless_pure _) (heedless_throw _))
  · exact (Run.heedless_writeWhole _ _).bind fun _ => (Run.heedless_print _).bind fun _ =>
      heedless_pure _

theorem Options.heedless_generate (options : Options) (environ : Environ) :
    Heedless (options.generate environ) := by
  refine (options.heedless_settle environ).bind fun settled => ?_
  refine Heedless.bind ?_ fun _ => heedless_pure _
  refine settled.paths.heedless_check.bind fun _ => (Run.heedless_note _ _).bind fun _ => ?_
  exact (heedless_generateBindings _).bind fun _ => heedless_pure _

/-! ### The files of the bindings -/

/-- How a run that stops after the bindings leaves the files. -/
inductive Settled.LeavesBindings (settled : Settled) (workingDir : Location)
    (before after : FileTree) : Except Failure PipelineResult → Prop
  /-- The draft could not take the place of the bindings. -/
  | draft (failure : Failure) (surface : Surface)
      (drafted : after.file? ((Run.draftOf settled.paths.bindings).resolve workingDir) =
        some (.text (Bindings.render surface settled.paths.wrapperHeader.name)))
      (others : ∀ l, l ≠ (Run.draftOf settled.paths.bindings).resolve workingDir →
        after.file? l = before.file? l) :
      LeavesBindings settled workingDir before after (.error failure)
  /-- The bindings are in place. -/
  | bindings (surface : Surface)
      (written : after.file? (settled.paths.bindings.resolve workingDir) =
        some (.text (Bindings.render surface settled.paths.wrapperHeader.name)))
      (vanished : after.file? ((Run.draftOf settled.paths.bindings).resolve workingDir) = none)
      (others : ∀ l, l ≠ settled.paths.bindings.resolve workingDir →
        l ≠ (Run.draftOf settled.paths.bindings).resolve workingDir →
        after.file? l = before.file? l) :
      LeavesBindings settled workingDir before after (.ok ⟨settled.paths.bindings, none⟩)

section Generation

variable {options : Options} {settled : Settled} {environ : Environ} {m m' : Machine}

theorem Options.leavesBindings_of_ok (sound : m.files.IsSound)
    (ran : runFrom (options.generate environ) m = (.ok settled, m')) :
    settled.LeavesBindings m.workingDir m.files m'.files (.ok ⟨settled.paths.bindings, none⟩) := by
  obtain ⟨m₁, m₂, surface, _, settled₁, _, noted, generated⟩ := generate_eq_ok ran
  obtain ⟨m₃, m₄, _, read, written, told⟩ := generateBindings_eq_ok generated
  have before : m.Talks m₃ :=
    trans_of Machine.Talks settled₁.talks (trans_of Machine.Talks noted.talks read)
  have soundHere : m₃.files.IsSound := by rwa [before.files]
  have wrote : Run.WritesWhole settled.paths.bindings
      (Bindings.render surface settled.paths.wrapperHeader.name) m₃ m₄ (.ok ()) :=
    .of_run soundHere written
  rw [← before.workingDir]
  cases wrote with
  | whole changes written vanished =>
      rw [told.files]
      refine .bindings surface written ?_ fun l notThere notDraft => ?_
      · unfold FileTree.file?
        rw [vanished]
      · rw [changes.files l (not_or.mpr ⟨notDraft, notThere⟩), before.files]

/-- Bindings that could not be generated have changed no file, but that their draft may be left. -/
theorem Options.leavesBindings_of_error {failure : Failure} (sound : m.files.IsSound)
    (ran : runFrom (options.generate environ) m = (.error failure, m')) :
    (∀ l, m'.files.file? l = m.files.file? l) ∨
      ∃ settled, (runFrom (options.settle environ) m).1 = .ok settled ∧
        settled.LeavesBindings m.workingDir m.files m'.files (.error failure) := by
  have unchanged {n : Machine} (talks : m.Talks n) (l : Location) :
      n.files.file? l = m.files.file? l := by rw [talks.files]
  unfold generate at ran
  rcases runFrom_bind_eq_error.mp ran with failed | ⟨settled, m₁, settling, next⟩
  · exact .inl (unchanged ((options.respects_settle Run.talks_note _).of_run failed))
  have settledHere : m.Talks m₁ := (options.respects_settle Run.talks_note _).of_run settling
  rcases runFrom_bind_eq_error.mp next with generating | ⟨_, _, _, returned⟩
  case inr => cases returned
  unfold Settled.generate at generating
  rcases runFrom_bind_eq_error.mp generating with failed | ⟨_, m₂, checked, noting⟩
  · obtain rfl : m₁ = m' := settled.paths.respects_check.of_run failed
    exact .inl (unchanged settledHere)
  obtain rfl : m₁ = m₂ := settled.paths.respects_check.of_run checked
  rcases runFrom_bind_eq_error.mp noting with failed | ⟨_, m₃, noted, discarding⟩
  · exact .inl (unchanged (trans_of Machine.Talks settledHere
      ((Run.talks_note _ _).of_run failed)))
  have notedHere : m.Talks m₃ :=
    trans_of Machine.Talks settledHere ((Run.talks_note _ _).of_run noted)
  have failed := discard_eq_error discarding
  rw [settled.bindingRequest.generateBindings_eq] at failed
  rcases runFrom_bind_eq_error.mp failed with failed | ⟨surface, m₄, read, writing⟩
  · exact .inl (unchanged (trans_of Machine.Talks notedHere
      (settled.bindingRequest.talks_read.of_run failed)))
  have before : m.Talks m₄ :=
    trans_of Machine.Talks notedHere (settled.bindingRequest.talks_read.of_run read)
  have soundHere : m₄.files.IsSound := by rwa [before.files]
  rcases runFrom_bind_eq_error.mp writing with failed | ⟨_, m₅, _, telling⟩
  case inr => cases telling
  have wrote : Run.WritesWhole settled.paths.bindings
      (Bindings.render surface settled.paths.wrapperHeader.name) m₄ m' (.error failure) :=
    .of_run soundHere failed
  rw [← before.workingDir]
  cases wrote with
  | nothing _ changes =>
      left
      intro l
      rw [changes.files l not_false, before.files]
  | draft _ named changes drafted =>
      right
      refine ⟨settled, by rw [settling], .draft failure surface drafted fun l apart => ?_⟩
      rw [changes.files l apart, before.files]

theorem Options.processes_generate (options : Options) (environ : Environ) (m : Machine) :
    ∃ events, (runFrom (options.generate environ) m).2.events = m.events ++ events ∧
      processes events = [] := by
  have idles : m.Idles (fun _ => True) (runFrom (options.settle environ) m).2 :=
    options.idle_settle environ m rfl
  unfold generate
  rw [runFrom_bind]
  rcases settling : runFrom (options.settle environ) m with ⟨failure | settled, m₁⟩
  · rw [settling] at idles
    obtain ⟨added, addedEq, none, _⟩ := idles.reads.events
    exact ⟨added, addedEq, none⟩
  · rw [settling] at idles
    have generated : ReadsOnce m.workingDir (fun _ => True)
        settled.paths.wrapperHeader.display (generateBindings settled.bindingRequest) :=
      readsOnce_generateBindings settled.bindingRequest trivial trivial
    have once : ReadsOnce m.workingDir (fun _ => True) settled.paths.wrapperHeader.display
        (settled.generate >>= fun _ => pure settled) := by
      refine ReadsOnce.bind_idle ?_ fun _ => respects_pure _
      refine .idle_bind settled.paths.idle_check fun _ => .idle_bind (Run.idle_note _ _) fun _ => ?_
      exact generated.bind_idle fun _ => respects_pure _
    rcases once m₁ idles.workingDir with reads | ⟨later, _⟩
    · obtain ⟨added, addedEq, none, _⟩ := (idles.reads.trans reads).events
      exact ⟨added, addedEq, none⟩
    · obtain ⟨added, addedEq, none, _⟩ := (idles.trans later).reads.events
      exact ⟨added, addedEq, none⟩

end Generation

theorem runFrom_runPipeline_of_signal (options : Options) {m : Machine} {signal : String}
    (set : m.environ.docsSignal? = some signal) :
    (∃ failure m', runFrom (options.generate m.environ) m = (.error failure, m') ∧
      runFrom (runPipeline options) m = (.error failure, m')) ∨
    ∃ settled m₁ text, runFrom (options.generate m.environ) m = (.ok settled, m₁) ∧
      runFrom (runPipeline options) m =
        (.ok ⟨settled.paths.bindings, none⟩,
          { m₁ with events := m₁.events ++ [.printed text] }) := by
  rw [runFrom_runPipeline, set]
  rcases generated : runFrom (options.generate m.environ) m with ⟨failure | settled, m₁⟩
  · left
    exact ⟨failure, m₁, rfl, runFrom_bind_of_error generated _⟩
  · right
    rw [runFrom_bind_of_ok generated]
    exact ⟨settled, m₁, _, rfl, rfl⟩

theorem Environ.docsSignal?_set (environ : Environ) {signal : String}
    (isSignal : signal ∈ docsSignals) (value : String) :
    (docsSignal? (environ.set signal value)).isSome = true := by
  unfold docsSignal? firstPresent?
  rw [List.find?_isSome]
  refine ⟨signal, isSignal, ?_⟩
  unfold Table.contains
  rw [Table.get?_set, if_pos rfl]
  rfl

theorem Environ.agreesOn_set (environ : Environ) {keys : List String} {key : String}
    (other : key ∉ keys) (value : String) : environ.AgreesOn keys (environ.set key value) := by
  intro k inside
  have apart : k ≠ key := by
    rintro rfl
    exact other inside
  rw [Table.get?_set, if_neg apart]

/-- What is generated without a signal is generated with a signal, too. -/
theorem Options.generate_of_signal {options : Options} {environ other : Environ}
    {settled : Settled} {m m₁ : Machine} (agrees : environ.AgreesOn asked other)
    (signal : other.docsSignal?.isSome = true)
    (ran : runFrom (options.generate environ) m = (.ok settled, m₁)) :
    runFrom (options.generate other) m = (.ok (settled.inEnviron other), m₁) := by
  unfold generate at ran ⊢
  obtain ⟨found, m₂, settling, next⟩ := runFrom_bind_eq_ok.mp ran
  obtain ⟨_, m₃, generated, returned⟩ := runFrom_bind_eq_ok.mp next
  cases returned
  obtain ⟨file, loaded, settles, recorded⟩ := settle_eq_ok_iff.mp settling
  have settlingHere : runFrom (options.settle other) m = (.ok (settled.inEnviron other), m₂) :=
    settle_eq_ok_iff.mpr ⟨file, loaded, settles.lenient agrees signal, recorded⟩
  rw [runFrom_bind_of_ok settlingHere]
  change runFrom (settled.generate >>= _) m₂ = _
  rw [runFrom_bind_of_ok generated]
  rfl

/-- With a signal, the run is the same in all environments that agree on the variables that options
ask for and on the signals. -/
theorem runPipeline_of_agreesOn {options : Options} {m : Machine} {other : Environ}
    (set : m.environ.docsSignal?.isSome = true)
    (agrees : m.environ.AgreesOn (Options.asked ++ Environ.docsSignals) other) :
    runFrom (runPipeline options) { m with environ := other } =
      ((runFrom (runPipeline options) m).1,
        { (runFrom (runPipeline options) m).2 with environ := other }) := by
  have onAsked : m.environ.AgreesOn Options.asked other :=
    fun key inside => agrees key (List.mem_append_left _ inside)
  have sameSignal : other.docsSignal? = m.environ.docsSignal? :=
    Environ.docsSignal?_congr fun key isSignal => agrees key (List.mem_append_right _ isSignal)
  have otherSet : other.docsSignal?.isSome = true := by rwa [sameSignal]
  obtain ⟨signal, isSet⟩ := Option.isSome_iff_exists.mp set
  have same := Options.generate_of_settle (Options.settle_inEnviron onAsked set otherSet options)
  have heedless : Heedless (options.generate m.environ >>= options.finish (some signal)) :=
    (options.heedless_generate _).bind fun _ =>
      (Run.heedless_print _).bind fun _ => heedless_pure _
  have finish : ∀ settled : Settled,
      options.finish (some signal) (settled.inEnviron other) =
        options.finish (some signal) settled := fun _ => rfl
  rw [runFrom_runPipeline, runFrom_runPipeline, sameSignal, isSet, same, bind_map_left]
  simp only [finish]
  exact heedless m other

/-- A signal in the environment makes a build stop after its bindings. Whatever is generated without
a signal is generated with one, too, and then the run returns. A run with a signal starts no process
and builds nothing; it leaves all files alone but the bindings and their draft; and it is the same in
all environments that agree on what options ask for and on the signals. -/
theorem runPipeline_bindingsOnly (options : Options) (m : Machine) (sound : m.files.IsSound) :
    (m.environ.docsSignal? = none → ∀ settled m₁,
      runFrom (options.generate m.environ) m = (.ok settled, m₁) →
      runFrom (runPipeline options) m = runFrom (options.finish none settled) m₁ ∧
      settled.LeavesBindings m.workingDir m.files m₁.files (.ok ⟨settled.paths.bindings, none⟩) ∧
      ∀ signal ∈ Environ.docsSignals, ∀ value, ∃ m₂,
        runFrom (runPipeline options) { m with environ := m.environ.set signal value } =
          (.ok ⟨settled.paths.bindings, none⟩, m₂) ∧
        m₂.files = m₁.files) ∧
    (m.environ.docsSignal?.isSome = true → ∀ r m',
      runFrom (runPipeline options) m = (r, m') →
      (∃ events, m'.events = m.events ++ events ∧ processes events = []) ∧
      (∀ result, r = .ok result → result.built? = none) ∧
      ((∃ failure, r = .error failure ∧ ∀ l, m'.files.file? l = m.files.file? l) ∨
        ∃ settled, (runFrom (options.settle m.environ) m).1 = .ok settled ∧
          settled.LeavesBindings m.workingDir m.files m'.files r) ∧
      ∀ environ, m.environ.AgreesOn (Options.asked ++ Environ.docsSignals) environ →
        runFrom (runPipeline options) { m with environ } = (r, { m' with environ })) := by
  constructor
  · intro quiet settled m₁ generated
    refine ⟨?_, Options.leavesBindings_of_ok sound generated, fun signal isSignal value => ?_⟩
    · rw [runFrom_runPipeline, quiet, runFrom_bind_of_ok generated]
    · have unasked : ∀ signal ∈ Environ.docsSignals, signal ∉ Options.asked := by decide
      have agrees := m.environ.agreesOn_set (unasked signal isSignal) value
      have isSome := m.environ.docsSignal?_set isSignal value
      obtain ⟨found, isSet⟩ := Option.isSome_iff_exists.mp isSome
      have again := options.heedless_generate (m.environ.set signal value) m
        (m.environ.set signal value)
      rw [Options.generate_of_signal agrees isSome generated] at again
      have runs := runFrom_runPipeline_of_signal options
        (m := { m with environ := m.environ.set signal value }) isSet
      rcases runs with
        ⟨failure, m₂, failed, _⟩ | ⟨other, m₂, text, ran, returned⟩
      · rw [again] at failed
        cases failed
      · rw [again] at ran
        cases ran
        exact ⟨_, returned, rfl⟩
  · intro set r m' ran
    obtain ⟨signal, isSet⟩ := Option.isSome_iff_exists.mp set
    obtain ⟨events, added, unstarted⟩ := options.processes_generate m.environ m
    have same (environ : Environ) (agrees :
        m.environ.AgreesOn (Options.asked ++ Environ.docsSignals) environ) :
        runFrom (runPipeline options) { m with environ } = (r, { m' with environ }) := by
      rw [runPipeline_of_agreesOn set agrees, ran]
    rcases runFrom_runPipeline_of_signal options isSet with
      ⟨failure, m₁, generated, failed⟩ | ⟨settled, m₁, text, generated, returned⟩
    · rw [failed] at ran
      cases ran
      rw [generated] at added
      refine ⟨⟨events, added, unstarted⟩, ?_, ?_, same⟩
      · rintro result ⟨⟩
      rcases Options.leavesBindings_of_error sound generated with unchanged | left
      · exact .inl ⟨failure, rfl, unchanged⟩
      · exact .inr left
    · rw [returned] at ran
      cases ran
      rw [generated] at added
      refine ⟨⟨events ++ [.printed text], ?_, ?_⟩, ?_, .inr ⟨settled, ?_, ?_⟩, same⟩
      · rw [added, List.append_assoc]
      · rw [processes_append, unstarted]
        rfl
      · rintro result ⟨⟩
        rfl
      · obtain ⟨m₂, _, _, settling, _⟩ := Options.generate_eq_ok generated
        rw [settling]
      · have left := Options.leavesBindings_of_ok sound generated
        exact left

/-- A small project on a documentation host, where a draft of the bindings has been left. -/
def staleProject : Machine :=
  { smallProject [] with
    environ := .ofList [("READTHEDOCS", "True")]
    files := (((smallProject []).files.set ["work", "build"] .directory).set
      ["work", "build", "ggml-tooling"] .directory).set
        ["work", "build", "ggml-tooling", ".bindings.py.tmp"] (.file (.text "stale")) }

/-- A draft that was left is replaced and gone after a run that returns, although it is not the file
of the bindings. -/
theorem draft_staleProject :
    ∃ result m', staleProject.files.IsSound ∧ staleProject.environ.docsSignal?.isSome = true ∧
      runFrom (runPipeline .default) staleProject = (.ok result, m') ∧
      ∃ l, l ≠ result.bindings.resolve staleProject.workingDir ∧
        (staleProject.files.file? l).isSome ∧ m'.files.file? l = none := by
  obtain ⟨result, m', ran⟩ := exists_of_isOk (x := runPipeline .default) (s := staleProject)
    (by decide +kernel)
  have place : (runFrom (runPipeline .default) staleProject).1.map
      (·.bindings.resolve staleProject.workingDir) =
        .ok ["work", "build", "ggml-tooling", "bindings.py"] := by
    decide +kernel
  have gone : (runFrom (runPipeline .default) staleProject).2.files.file?
      ["work", "build", "ggml-tooling", ".bindings.py.tmp"] = none := by
    decide +kernel
  rw [ran] at place gone
  refine ⟨result, m', by decide, by decide, ran,
    ["work", "build", "ggml-tooling", ".bindings.py.tmp"], ?_, by decide, gone⟩
  intro same
  have place : result.bindings.resolve staleProject.workingDir =
      ["work", "build", "ggml-tooling", "bindings.py"] := Except.ok.inj place
  rw [place] at same
  exact absurd same (by decide)

/-- A small project is built as far as its bindings go, with a signal and without one, and a
variable that nothing asks for makes no difference. -/
theorem bindingsOnly_smallProject :
    let m := smallProject []
    let docs := { m with environ := m.environ.set "READTHEDOCS" "True" }
    m.files.IsSound ∧ m.environ.docsSignal? = none ∧ docs.environ.docsSignal?.isSome = true ∧
      (∃ settled m₁ m₂,
        runFrom (Options.default.generate m.environ) m = (.ok settled, m₁) ∧
        runFrom (runPipeline .default) m = runFrom (Options.default.finish none settled) m₁ ∧
        settled.LeavesBindings m.workingDir m.files m₁.files (.ok ⟨settled.paths.bindings, none⟩) ∧
        runFrom (runPipeline .default) docs = (.ok ⟨settled.paths.bindings, none⟩, m₂) ∧
        m₂.files = m₁.files) ∧
      ∃ result m', runFrom (runPipeline .default) docs = (.ok result, m') ∧
        result.built? = none ∧
        (∃ events, m'.events = docs.events ++ events ∧ processes events = []) ∧
        (∃ settled, (runFrom (Options.default.settle docs.environ) docs).1 = .ok settled ∧
          settled.LeavesBindings docs.workingDir docs.files m'.files (.ok result)) ∧
        runFrom (runPipeline .default) { docs with environ := docs.environ.set "PATH" "/bin" } =
          (.ok result, { m' with environ := docs.environ.set "PATH" "/bin" }) := by
  intro m docs
  have sound : m.files.IsSound := by decide
  have quiet : m.environ.docsSignal? = none := by decide
  have set : docs.environ.docsSignal?.isSome = true := by decide
  obtain ⟨settled, m₁, generated⟩ := exists_of_isOk
    (x := Options.default.generate m.environ) (s := m) (by decide +kernel)
  obtain ⟨continues, left, again⟩ := (runPipeline_bindingsOnly .default m sound).1 quiet _ _
    generated
  obtain ⟨m₂, returned, same⟩ := again "READTHEDOCS" (by decide) "True"
  obtain ⟨unstarted, nothing, changed, alike⟩ :=
    (runPipeline_bindingsOnly .default docs sound).2 set _ _ returned
  refine ⟨sound, quiet, set, ⟨settled, m₁, m₂, generated, continues, left, returned, same⟩,
    _, m₂, returned, nothing _ rfl, unstarted, ?_, alike _ (Environ.agreesOn_set _ (by decide) _)⟩
  rcases changed with ⟨failure, failed, _⟩ | changed
  · cases failed
  · exact changed

end NativeVariants
