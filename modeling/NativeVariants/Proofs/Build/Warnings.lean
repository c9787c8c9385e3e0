import NativeVariants.Proofs.Build.RepeatedVariants
import NativeVariants.Proofs.BuildConfig.Precedence

set_option autoImplicit false

/-!
The build of a variant says first which values of the environment it does not use. What was said is
never taken back (`Machine.Grows`), whatever the processes of the build do and however it ends.
-/

namespace NativeVariants

/-- The events of one machine are the first ones of the other. -/
def Machine.Grows (m m' : Machine) : Prop := m.events <+: m'.events

instance : IsPreorder Machine Machine.Grows where
  refl _ := List.prefix_rfl
  trans _ _ _ first second := List.IsPrefix.trans first second

def Machine.warning (m : Machine) (recorder : Recorder) (message : String) : Event :=
  .complained ((if m.isVerbose then s!"WARNING {recorder.name}: {message}" else message) ++ "\n")

namespace Run

theorem grows_report (event : Event) : Respects Machine.Grows (report event) :=
  fun _ => List.prefix_append _ _

theorem grows_of_idle {α : Type} {x : Run α} (idle : ∀ place, Idle place (fun _ => True) x) :
    Respects Machine.Grows x := by
  intro m
  obtain ⟨added, addedEq, _⟩ := (idle m.workingDir m rfl).events
  exact ⟨added, addedEq.symm⟩

theorem admits_grows : Admits Machine.Grows fun _ => True where
  print := fun _ => grows_report _
  complain := fun _ => grows_report _
  makeDirectoryAt := fun p => grows_of_idle fun _ => idle_makeDirectoryAt p
  writeContent := fun _ _ content => grows_of_idle fun _ => idle_writeContent trivial content

theorem grows_start (command : Command) (workingDir : Path) :
    Respects Machine.Grows (start command workingDir) := by
  have next : Respects Machine.Grows nextOutcome := by
    refine respects_get.bind fun m => ?_
    split
    · exact respects_pure _
    · have popped (rest : List ProcessOutcome) : Respects Machine.Grows
          (modify fun m => { m with outcomes := rest } : Run PUnit) := fun _ => List.prefix_rfl
      exact (popped _).bind fun _ => respects_pure _
  exact (grows_report _).bind fun _ => next.bind fun outcome =>
    (admits_grows.leave fun _ _ => trivial).bind fun _ => respects_pure _

theorem runFrom_warn (recorder : Recorder) (message : String) (m : Machine) :
    runFrom (warn recorder message) m =
      (.ok (), { m with events := m.events ++ [m.warning recorder message] }) := by
  unfold warn Machine.warning
  rw [runFrom_bind_of_ok (runFrom_get m)]
  split
  · rfl
  · rfl

theorem runFrom_forM_warn (recorder : Recorder) (messages : List String) (m : Machine) :
    runFrom (messages.forM (warn recorder)) m =
      (.ok (), { m with events := m.events ++ messages.map (m.warning recorder) }) := by
  induction messages generalizing m with
  | nil => simp
  | cons message rest ih =>
      have step : (message :: rest).forM (warn recorder) =
          (warn recorder message >>= fun _ => rest.forM (warn recorder)) := rfl
      have shownAlike (events : List Event) :
          ({ m with events } : Machine).warning recorder = m.warning recorder := rfl
      rw [step, runFrom_bind_of_ok (runFrom_warn recorder message m), ih]
      simp only [shownAlike, List.append_assoc, List.singleton_append, List.map_cons]

end Run

/-- The warnings come before everything else in the build of a variant. -/
theorem events_buildVariant (config : BuildConfig) (v : Variant) {sourceDir outDir : Path}
    (settings : BuildSettings) (m : Machine) (sourceNameable : sourceDir.isNameable = true)
    (outNameable : outDir.isNameable = true) :
    m.events ++ (Defines.warnings config v (v.installDir (outDir.absolute m.workingDir)).display).map
        (m.warning .nativeBuild) <+:
      (runFrom (buildVariant config v sourceDir outDir settings) m).2.events := by
  have source : runFrom (Run.resolve sourceDir) m = (.ok (sourceDir.absolute m.workingDir), m) := by
    rw [Run.runFrom_resolve, if_pos sourceNameable]
  have out : runFrom (Run.resolve outDir) m = (.ok (outDir.absolute m.workingDir), m) := by
    rw [Run.runFrom_resolve, if_pos outNameable]
  unfold buildVariant
  rw [runFrom_bind_of_ok source, runFrom_bind_of_ok out]
  dsimp only
  rw [runFrom_bind_of_ok (Run.runFrom_forM_warn .nativeBuild _ m)]
  -- From here on it is enough that whatever follows adds to the events.
  change Machine.Grows { m with events := m.events ++ _ } _
  refine (?_ : Respects Machine.Grows _) _
  have step (command : Command) (step : BuildStep) (workingDir : Path) :
      Respects Machine.Grows (runStep command v step workingDir) :=
    respects_runStep Run.admits_grows.note (Run.grows_start command workingDir) v step
  have closing (artifacts : Artifacts) : Respects Machine.Grows (v.close artifacts) :=
    (respects_noteInstalled Run.admits_grows.note _ _).bind fun _ =>
      (Run.admits_grows.print _).bind fun _ => respects_pure _
  refine (Run.admits_grows.print _).bind fun _ => (step _ _ _).bind fun _ => ?_
  refine (respects_chosenJobs _).bind fun jobs => (step _ _ _).bind fun _ => ?_
  refine (step _ _ _).bind fun _ => ?_
  refine .ite (fun _ => ?_) fun _ => closing _
  exact ((Run.admits_grows.patchPackageConfig _ fun _ _ => trivial).map _).bind fun _ => closing _

/-- Every define of a build is what the pins, the environment, the backends with the platform and
the base values say, in this order. So two builds of one configuration differ in their place and
their name alone; the configuration defines each key once; and each value of the environment that is
not used is warned about before the first process is started. -/
theorem defines_by_precedence (request : BuildRequest) (config : BuildConfig)
    (resolved : BuildConfig.resolve request = .ok config) :
    (∀ (v : Variant) (installDir : Path),
      Defines.HavePrecedence request config v installDir.display) ∧
    (∀ (v w : Variant) (installDir otherDir : Path) (key : String),
      key ≠ "CMAKE_INSTALL_PREFIX" → key ≠ "GGML_NAME" →
        (Defines.ofVariant config v installDir.display).get? key =
          (Defines.ofVariant config w otherDir.display).get? key) ∧
    (∀ (v : Variant) (installDir sourceDir buildDir : Path) (tool : String),
      let defines := Defines.ofVariant config v installDir.display
      let command := Command.configure tool sourceDir buildDir defines
      (∃ given : List (String × String), (given.map (·.1)).Nodup ∧
        (∀ key value, (key, value) ∈ given ↔ defines.get? key = some value) ∧
        command = [tool, "-S", sourceDir.display, "-B", buildDir.display] ++
          given.map fun (key, value) => s!"-D{key}={value}") ∧
      ((∀ name ∈ request.environ.keys, '=' ∉ name.toList) → ∀ key,
        (command.drop 5).filter
            (fun argument => (Command.definition? argument).map (·.1) = some key) =
          ((defines.get? key).map fun value => s!"-D{key}={value}").toList)) ∧
    (∀ (v : Variant) (installDir : Path) (text : String),
      text ∈ Defines.warnings config v installDir.display ↔
        ∃ key value, key ∈ Defines.pinnedKeys ∧ request.forwarded? key = some value ∧
          (Defines.ofVariant config v installDir.display).get? key ≠ some value ∧
          text = Defines.warning v key value) ∧
    (∀ (v : Variant) (sourceDir outDir : Path) (settings : BuildSettings) (m : Machine),
      sourceDir.isNameable = true → outDir.isNameable = true →
        m.events ++
            (Defines.warnings config v (v.installDir (outDir.absolute m.workingDir)).display).map
              (m.warning .nativeBuild) <+:
          (runFrom (buildVariant config v sourceDir outDir settings) m).2.events) := by
  refine ⟨fun v installDir => ?_, fun v w installDir otherDir key => ?_,
    fun v installDir sourceDir buildDir tool => ⟨?_, fun named key => ?_⟩, fun v installDir text => ?_,
    fun v sourceDir outDir settings m => ?_⟩
  · exact BuildConfig.havePrecedence_of_resolve resolved v installDir.display
  · exact BuildConfig.get?_ofVariant_eq resolved v w _ _
  · exact ⟨_, Table.nodup _, fun _ _ => Table.get?_eq_some_iff.symm, rfl⟩
  · exact Command.filter_configure (BuildConfig.named_of_resolve resolved named v _) _ _ _ _
  · exact Defines.mem_warnings_iff resolved
  · exact events_buildVariant config v settings m

/-- A request with a base value, a pinned one and the name in the environment. -/
def BuildRequest.ofOverrides : BuildRequest where
  features := ["cuda"]
  target := ⟨"x86_64-unknown-linux-gnu"⟩
  multiVariant := false
  environ := .ofList
    [("CMAKE_BUILD_TYPE", "Debug"), ("CMAKE_INSTALL_LIBDIR", "lib64"), ("GGML_NAME", "mine")]
  validate := true

theorem defines_ofOverrides :
    ∃ config, BuildConfig.resolve .ofOverrides = .ok config ∧
      (let defines := Defines.ofVariant config .default (Path.ofText "/out").display
      let warnings := Defines.warnings config .default (Path.ofText "/out").display
      defines.get? "CMAKE_BUILD_TYPE" = some "Debug" ∧
        defines.get? "CMAKE_INSTALL_LIBDIR" = some "lib" ∧ defines.get? "GGML_NAME" = none ∧
        "Ignoring CMAKE_INSTALL_LIBDIR=lib64 from the environment for variant default" ∈ warnings ∧
        "Ignoring GGML_NAME from the environment for the default variant" ∈ warnings) := by
  have resolves : (BuildConfig.resolve .ofOverrides).isOk = true := by decide +kernel
  cases resolved : BuildConfig.resolve .ofOverrides with
  | error problem =>
      rw [resolved] at resolves
      cases resolves
  | ok config =>
      obtain ⟨precedence, _, _, warned, _⟩ := defines_by_precedence _ config resolved
      have ofDefault := precedence .default (.ofText "/out")
      have libDir := ofDefault.layout "CMAKE_INSTALL_LIBDIR" (by decide)
      have noName : (Defines.ofVariant config .default (Path.ofText "/out").display).get?
          "GGML_NAME" = none := ofDefault.name
      have libDirIsBase : (Table.ofList Defines.base).get? "CMAKE_INSTALL_LIBDIR" = some "lib" := by
        decide
      refine ⟨config, rfl, ?_, libDir.trans libDirIsBase, noName, ?_, ?_⟩
      · have forwarded : BuildRequest.ofOverrides.forwarded? "CMAKE_BUILD_TYPE" = some "Debug" := by
          decide +kernel
        rw [ofDefault.other "CMAKE_BUILD_TYPE" (by decide), forwarded, Option.some_or]
      · apply (warned .default (.ofText "/out") _).mpr
        refine ⟨"CMAKE_INSTALL_LIBDIR", "lib64", by decide, by decide +kernel, ?_, by decide⟩
        rw [libDir, libDirIsBase]
        decide
      · apply (warned .default (.ofText "/out") _).mpr
        refine ⟨"GGML_NAME", "mine", by decide, by decide +kernel, ?_, by decide⟩
        rw [noName]
        decide

end NativeVariants
