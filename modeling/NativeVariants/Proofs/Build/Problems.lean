import NativeVariants.Build.Pipeline
import NativeVariants.Proofs.Problems

set_option autoImplicit false

/-!
The problems that each part of a build reports. Settling the options reports problems of the
configuration, but none of the registry (`Options.reports_settle`); the later parts report problems
of classes of their own.
-/

namespace NativeVariants
open Header Metadata

namespace Problem

/-- A problem of what is asked for or of the sources, and none of the build itself. -/
def IsEarly (problem : Problem) : Prop :=
  problem.report.failureClass = .configuration ∨ problem.report.failureClass = .source

def IsRegistryFault : Problem → Prop
  | .duplicateVariantName _ => True
  | .duplicateVariantBasename _ _ => True
  | .reservedBasename _ _ => True
  | _ => False

end Problem

section Settling

abbrev Problem.IsSettling (problem : Problem) : Prop :=
  problem.IsEarly ∧ ¬problem.IsRegistryFault

abbrev Problem.IsOfOptions (problem : Problem) : Prop :=
  problem.report.failureClass = .configuration ∧ ¬problem.IsRegistryFault

theorem Problem.IsOfOptions.isSettling {problem : Problem} (ofOptions : problem.IsOfOptions) :
    problem.IsSettling := ⟨.inl ofOptions.1, ofOptions.2⟩

theorem Layout.failsOnly_part (entries : List (Datum × Datum)) (key default : String)
    (P : Problem → Prop) : FailsOnly (Failure.IfProblem P) (part entries key default) := by
  unfold part
  split
  · exact .ok _
  · exact .ok _
  · exact .ite (fun _ => .ok _) fun _ => .error nofun

theorem Layout.failsOnly_ofEntries (entries : List (Datum × Datum)) (P : Problem → Prop) :
    FailsOnly (Failure.IfProblem P) (Layout.ofEntries entries) := by
  have each (key default : String) :
      FailsOnly (Failure.IfProblem P) (Layout.part entries key default) :=
    failsOnly_part entries key default P
  unfold Layout.ofEntries
  refine (each _ _).bind fun _ => (each _ _).bind fun _ => (each _ _).bind fun _ => ?_
  refine (each _ _).bind fun _ => (each _ _).bind fun _ => (each _ _).bind fun _ => .ok _

theorem ProjectFile.failsOnly_ofText (path text : String) :
    FailsOnly (Failure.IfProblem Problem.IsOfOptions) (ProjectFile.ofText path text) := by
  have ofEntries (entries : List (Datum × Datum)) :
      FailsOnly (Failure.IfProblem Problem.IsOfOptions) (ProjectFile.ofEntries entries) :=
    (Layout.failsOnly_ofEntries entries _).bind fun _ => .ok _
  unfold ProjectFile.ofText
  refine FailsOnly.bind (.mapError fun fault _ problem same => ?_) fun document => ?_
  · cases fault with
    | malformed =>
        cases same
        exact ⟨rfl, id⟩
    | _ => cases same
  · split
    · exact ofEntries _
    · exact ofEntries _
    · apply FailsOnly.error
      intro problem same
      cases same
      exact ⟨rfl, id⟩

theorem ProjectFile.reports_load (root : Path) : Reports Problem.IsOfOptions (load root) := by
  refine (Run.reports_isFile _).bind fun there => .ite ?_ ?_
  · exact (Run.reports_readText _).bind fun text => reports_ofExcept (failsOnly_ofText _ _)
  · exact reports_ofExcept ((Layout.failsOnly_ofEntries _ _).bind fun _ => .ok _)

theorem ProjectPaths.reports_resolve {P : Problem → Prop} (root : Path) (layout : Layout)
    (outDir? : Option Path) : Reports P (resolve root layout outDir?) := by
  refine (Run.reports_resolve _).bind fun root => (Run.reports_resolve _).bind fun sourceDir => ?_
  exact (Run.reports_resolve _).bind fun outDir =>
    (Run.reports_resolve _).bind fun wrapper => reports_pure _

theorem ProjectPaths.reports_check (paths : ProjectPaths) :
    Reports Problem.IsSettling paths.check := by
  refine reports_forM fun p _ => (Run.reports_present p).bind fun there => ?_
  refine .ite (reports_throw ?_) (reports_pure _)
  intro problem same
  cases same
  exact ⟨.inr rfl, id⟩

theorem Features.failsOnly_parse (request : List String) :
    FailsOnly Problem.IsOfOptions (parse request) := by
  refine .foldlM _ fun features spelling _ => ?_
  unfold add
  refine .ite (fun _ => .ok _) fun _ => ?_
  split
  · exact .ok _
  · exact .error ⟨rfl, id⟩

theorem BuildConfig.failsOnly_requiredInput (environ : Environ) (target : Target) (b : Backend) :
    FailsOnly Problem.IsOfOptions (requiredInput environ target b) := by
  unfold requiredInput
  refine .ite (fun _ => .error ⟨rfl, id⟩) fun _ => ?_
  split
  · exact .ok _
  · refine .ite (fun _ => ?_) fun _ => .ok _
    split
    · exact .ok _
    · exact .error ⟨rfl, id⟩

theorem BuildConfig.failsOnly_resolve (request : BuildRequest) :
    FailsOnly Problem.IsOfOptions (resolve request) := by
  have compilers (features : Features) :
      FailsOnly Problem.IsOfOptions (checkCompilers features) := by
    unfold checkCompilers
    exact .ite (fun _ => .error ⟨rfl, id⟩) fun _ => .ok _
  have inputs (features : Features) :
      FailsOnly Problem.IsOfOptions (backendInputs request features) := by
    unfold backendInputs
    refine .ite (fun _ => ?_) fun _ => .ok _
    exact (FailsOnly.mapM fun b _ => failsOnly_requiredInput _ _ b).bind fun _ => .ok _
  unfold resolve
  refine .check ⟨rfl, id⟩ ((Features.failsOnly_parse _).bind fun features => ?_)
  refine .ite (fun _ => (compilers features).bind fun _ => ?_) fun _ => ?_
  · exact (inputs features).bind fun _ => .ok _
  · exact (inputs features).bind fun _ => .ok _

namespace Options

variable {P : Problem → Prop}

theorem failsOnly_members (value? : Option Datum) :
    FailsOnly (Failure.IfProblem P) (members value?) := by
  unfold members
  split
  · exact .ok _
  · refine .ite (fun _ => .ok _) fun _ => ?_
    split
    · exact .ok _
    · exact .ok _
    · exact .ok _
    · unfold Record.elements
      split
      · exact .ok _
      · exact .ok _
      · exact .ok _
      · exact .error nofun

theorem failsOnly_features (options : Options) (environ : Environ) (file : ProjectFile) :
    FailsOnly (Failure.IfProblem P) (options.features environ file) := by
  unfold features
  split
  · exact .ok _
  · split
    · exact .ok _
    · unfold fileFeatures
      split
      · exact .ok _
      · refine (failsOnly_members _).bind fun items => ?_
        exact .ite (fun _ => .ok _) fun _ => .error nofun

theorem failsOnly_chosenJobs (options : Options) (file : ProjectFile) :
    FailsOnly (Failure.IfProblem Problem.IsOfOptions) (options.chosenJobs file) := by
  have read (value : Datum) :
      FailsOnly (Failure.IfProblem Problem.IsOfOptions) (readJobs? value) := by
    unfold readJobs?
    split
    case h_3 => exact .error nofun
    all_goals exact .ok _
  unfold chosenJobs
  split
  · exact .ok _
  · refine (read _).bind fun n? => ?_
    split
    · exact .ok _
    · refine .ite (fun _ => .error ?_) fun _ => .error nofun
      intro problem same
      cases same
      exact ⟨rfl, id⟩
  · exact .ok _

theorem failsOnly_allowlist (file : ProjectFile) :
    FailsOnly (Failure.IfProblem Problem.IsOfOptions) (allowlist file) := by
  unfold allowlist
  refine .ite (fun _ => .ok _) fun _ => ?_
  split
  · refine (failsOnly_members _).bind fun _ => (failsOnly_members _).bind fun _ => ?_
    exact (failsOnly_members _).bind fun _ => .ok _
  · apply FailsOnly.error
    intro problem same
    cases same
    exact ⟨rfl, id⟩

/-- Whatever ends the settling of options was asked for wrongly, and not in the registry. -/
theorem reports_settle (options : Options) (environ : Environ) :
    Reports Problem.IsOfOptions (options.settle environ) := by
  refine (ProjectFile.reports_load _).bind fun file => ?_
  refine (ProjectPaths.reports_resolve _ _ _).bind fun paths => ?_
  refine (reports_ofExcept (failsOnly_features _ _ _)).bind fun features => ?_
  refine reports_get.bind fun m => ?_
  refine (Run.reports_ofReported (BuildConfig.failsOnly_resolve _)).bind fun config => ?_
  refine (Run.reports_note _ _).bind fun _ => ?_
  refine (reports_ofExcept (failsOnly_chosenJobs _ _)).bind fun jobs => ?_
  exact (reports_ofExcept (failsOnly_allowlist _)).bind fun allow => reports_pure _

end Options

end Settling

section Collection

variable {P : Problem → Prop}

theorem Header.Allowlist.failsOnly_accepts (patterns : List Datum) (name : String) :
    FailsOnly (Failure.IfProblem P) (accepts patterns name) := by
  have compiled : FailsOnly (Failure.IfProblem P) (compile patterns) := by
    unfold compile
    refine .check nofun (.ite (fun _ => .ok _) fun _ => .check nofun ?_)
    refine FailsOnly.bind (.mapError fun fault _ => ?_) fun _ => .ok _
    cases fault
    · exact nofun
    · exact nofun
  unfold accepts
  refine compiled.bind fun pattern? => ?_
  split
  · exact .ok _
  · exact .ok _

theorem Header.reports_express (t : CType) : Reports P (Collect.express t) :=
  reports_get.bind fun _ => (reports_modify _).bind fun _ => reports_pure _

theorem Header.reports_register (allow : Allowlist) (d : Declaration) :
    Reports P (register allow d) := by
  cases d with
  | record isUnion name id isDefinition members =>
      exact (reports_ofExcept (Allowlist.failsOnly_accepts _ _)).bind fun _ =>
        .ite (reports_modify _) (reports_pure _)
  | «alias» name t =>
      exact (reports_ofExcept (Allowlist.failsOnly_accepts _ _)).bind fun _ =>
        .ite (reports_modify _) (reports_pure _)
  | _ => exact reports_pure _

theorem Header.reports_collectConstant (allow : Allowlist) (name : String)
    (tokens : List String) : Reports P (collectConstant allow name tokens) := by
  refine (reports_ofExcept (Allowlist.failsOnly_accepts _ _)).bind fun accepted => ?_
  refine .ite (reports_get.bind fun progress => .ite ?_ (reports_pure _)) (reports_pure _)
  split
  · exact reports_throw nofun
  · exact reports_pure _
  · exact reports_modify _

theorem Header.reports_collectFunction (allow : Allowlist) (name : String) (result : CType)
    (parameters : List CType) (isVariadic : Bool) :
    Reports P (collectFunction allow name result parameters isVariadic) := by
  refine (reports_ofExcept (Allowlist.failsOnly_accepts _ _)).bind fun accepted => ?_
  refine .ite (reports_get.bind fun progress => .ite ?_ (reports_pure _)) (reports_pure _)
  refine (reports_mapM fun t _ => reports_express t).bind fun _ => ?_
  exact (reports_express _).bind fun _ => reports_modify _

theorem Header.reports_collectRecord (isUnion : Bool) (tag : String) (id : Int)
    (isDefinition : Bool) (members : List Member) :
    Reports P (collectRecord isUnion tag id isDefinition members) := by
  have fields : Reports P (collectFields members) :=
    reports_mapM fun _ _ => (reports_express _).bind fun _ => reports_pure _
  have defined (name : String) : Reports P (collectDefinition name members) :=
    reports_get.bind fun _ => .ite (fields.bind fun _ => reports_modify _) (reports_pure _)
  have declared (name : String) : Reports P (collectClass name isUnion) :=
    reports_get.bind fun _ => .ite (reports_modify _) (reports_pure _)
  refine reports_get.bind fun progress => .ite ?_ (reports_pure _)
  exact (declared _).bind fun _ => .ite (defined _) (reports_pure _)

theorem Header.reports_collectEnumeration (allow : Allowlist) (name : String)
    (values : Table String Datum) : Reports P (collectEnumeration allow name values) := by
  have tagged : FailsOnly (Failure.IfProblem P) (acceptsTag allow name) :=
    .ite (fun _ => .ok _) fun _ => Allowlist.failsOnly_accepts _ _
  refine (reports_ofExcept tagged).bind fun accepted => .ite ?_ ?_
  · exact reports_get.bind fun _ => .ite (reports_modify _) (reports_pure _)
  · refine reports_forM fun value _ => ?_
    exact (reports_ofExcept (Allowlist.failsOnly_accepts _ _)).bind fun _ =>
      .ite (reports_modify _) (reports_pure _)

theorem Header.reports_collectAlias (allow : Allowlist) (name : String) (t : CType) :
    Reports P (collectAlias allow name t) := by
  refine (reports_ofExcept (Allowlist.failsOnly_accepts _ _)).bind fun accepted => ?_
  refine .ite (reports_get.bind fun progress => .ite ?_ (reports_pure _)) (reports_pure _)
  exact (reports_express _).bind fun _ => reports_modify _

theorem Header.reports_collect (allow : Allowlist) (d : Declaration) :
    Reports P (collect allow d) := by
  cases d with
  | define name tokens => exact reports_collectConstant _ _ _
  | function name result parameters hasPrototype variadic =>
      exact reports_collectFunction _ _ _ _ _
  | record isUnion name id isDefinition members => exact reports_collectRecord _ _ _ _ _
  | enumeration name values => exact reports_collectEnumeration _ _ _
  | «alias» name t => exact reports_collectAlias _ _ _
  | other => exact reports_pure _

abbrev Problem.IsOfBindings (problem : Problem) : Prop :=
  problem.report.failureClass = .bindings

theorem Header.failsOnly_collectUnit (allow : Allowlist) (known : Known) (header : String)
    (u : HeaderUnit) :
    FailsOnly (Failure.IfProblem Problem.IsOfBindings)
      (collectUnit allow known header u).surface := by
  have checked : FailsOnly (Failure.IfProblem Problem.IsOfBindings)
      (reported (checkDiagnostics header u.diagnostics)) := by
    refine .mapError fun problem failed other same => ?_
    cases same
    unfold checkDiagnostics at failed
    split at failed
    · cases failed
    · cases failed
      rfl
  let steps : Collect Unit := do
    ofExcept (reported (checkDiagnostics header u.diagnostics))
    u.declarations.forM (register allow)
    u.declarations.forM (collect allow)
  have reports : Reports Problem.IsOfBindings steps := by
    refine (reports_ofExcept checked).bind fun _ => ?_
    refine (reports_forM fun d _ => reports_register _ d).bind fun _ => ?_
    exact reports_forM fun d _ => reports_collect _ d
  have unfolded : (collectUnit allow known header u).surface =
      (runFrom steps ⟨known, .empty, []⟩).1.map
        fun _ => (runFrom steps ⟨known, .empty, []⟩).2.surface := rfl
  intro failure failed problem same
  rw [unfolded] at failed
  rcases ran : runFrom steps ⟨known, .empty, []⟩ with ⟨first | _, progress⟩
  · rw [ran] at failed
    cases failed
    rw [same] at ran
    exact reports.of_run ran
  · rw [ran] at failed
    cases failed

end Collection

section Building

theorem reports_generateBindings (request : BindingRequest) :
    Reports Problem.IsOfBindings (generateBindings request) := by
  have ofBindings {problem : Problem} (isOf : problem.IsOfBindings) :
      (Failure.problem problem).IfProblem Problem.IsOfBindings := by
    intro other same
    cases same
    exact isOf
  have read : Reports Problem.IsOfBindings (readHeader request) := by
    refine (Run.reports_note _ _).bind fun _ => (Run.reports_nextUnit _ _).bind fun u => ?_
    refine (reports_forM fun _ _ => Run.reports_warn _ _).bind fun _ => ?_
    refine (reports_ofExcept (failsOnly_collectUnit _ _ _ _)).bind fun surface => ?_
    exact (Run.reports_note _ _).bind fun _ => reports_pure _
  refine (Run.reports_isFile _).bind fun there => .check (ofBindings rfl) ?_
  refine (Run.reports_print _).bind fun _ => read.bind fun surface => ?_
  refine .check (ofBindings rfl) (.check nofun ?_)
  exact (Run.reports_writeWhole _ _).bind fun _ =>
    (Run.reports_print _).bind fun _ => reports_pure _

/-- A problem while the variants are built and their facts published. -/
abbrev Problem.IsOfBuild (problem : Problem) : Prop := ¬problem.IsEarly

theorem reports_publish (channel : Channel) (items : List (String × String)) :
    Reports Problem.IsOfBuild (publish channel items) := by
  have staged : FailsOnly Problem.IsOfBuild (channel.stage items) := by
    unfold Channel.stage
    split
    · rename_i found
      obtain ⟨⟨key, value⟩, _, conflicting⟩ := List.exists_of_findSome?_eq_some found
      simp only at conflicting
      split at conflicting
      · cases conflicting
      · split at conflicting
        · cases conflicting
        · cases conflicting
          apply FailsOnly.error
          rintro (configured | sourced)
          · cases configured
          · cases sourced
    · exact .ok _
  refine (Run.reports_ofReported staged).bind fun channel => ?_
  exact (reports_forM fun _ _ => Run.reports_note _ _).bind fun _ => reports_pure _

abbrev Problem.IsOfVariant (v : Variant) (problem : Problem) : Prop :=
  problem.report.failureClass = .nativeBuild v.name

theorem Problem.IsOfVariant.isOfBuild {v : Variant} {problem : Problem}
    (ofVariant : problem.IsOfVariant v) : problem.IsOfBuild := by
  intro early
  unfold Problem.IsEarly at early
  rw [ofVariant] at early
  rcases early with configured | sourced
  · cases configured
  · cases sourced

theorem reports_runStep (command : Command) (v : Variant) (step : BuildStep) (workingDir : Path) :
    Reports (Problem.IsOfVariant v) (runStep command v step workingDir) := by
  have ofVariant {problem : Problem} (named : problem.IsOfVariant v) :
      (Failure.problem problem).IfProblem (Problem.IsOfVariant v) := by
    intro other same
    cases same
    exact named
  refine (Run.reports_note _ _).bind fun _ => (Run.reports_start _ _).bind fun outcome => ?_
  cases outcome with
  | missing => exact reports_throw (ofVariant rfl)
  | unstarted fault => exact reports_throw fun problem same => by cases fault <;> cases same
  | undecodable created => exact reports_throw nofun
  | finished status output errorOutput created =>
      exact .check (ofVariant rfl) (Run.reports_note _ _)

theorem reports_patchPackageConfig {P : Problem → Prop} (installDir : Path) (basename : String) :
    Reports P (patchPackageConfig installDir basename) := by
  suffices loop : ∀ places, Reports P (patchPackageConfig.go basename places) from loop _
  intro places
  induction places with
  | nil => exact reports_pure _
  | cons p rest ih =>
      refine (Run.reports_isFile p).bind fun there => .ite ?_ ?_
      · refine (Run.reports_readText p).bind fun content => ?_
        refine (reports_ofExcept (.mapError fun fault _ => ?_)).bind fun patched => .ite ?_ ?_
        · unfold Failure.ofPackageConfig
          split
          all_goals exact nofun
        · exact (Run.reports_note _ _).bind fun _ => reports_pure _
        · exact (Run.reports_writeContent _ _).bind fun _ =>
            (Run.reports_note _ _).bind fun _ => reports_pure _
      · exact (Run.reports_note _ _).bind fun _ => ih

theorem reports_buildVariant (config : BuildConfig) (v : Variant) (sourceDir outDir : Path)
    (settings : BuildSettings) :
    Reports (Problem.IsOfVariant v) (buildVariant config v sourceDir outDir settings) := by
  have jobs : Reports (Problem.IsOfVariant v) (chosenJobs settings) := by
    refine reports_get.bind fun m => ?_
    split
    · exact reports_throw nofun
    · exact .ite (reports_pure _) (reports_throw nofun)
  have noted (libDir : Path) : Reports (Problem.IsOfVariant v) (noteInstalled v libDir) := by
    refine (Run.reports_isDirectory _).bind fun there => .ite ?_ (reports_pure _)
    exact reports_get.bind fun m => (Run.reports_locate _).bind fun location =>
      reports_forM fun _ _ => Run.reports_note _ _
  have closing (artifacts : Artifacts) : Reports (Problem.IsOfVariant v) (do
      noteInstalled v artifacts.libDir
      Run.print s!"✅ {v.name} variant built: {artifacts.libDir.display}"
      return artifacts) :=
    (noted _).bind fun _ => (Run.reports_print _).bind fun _ => reports_pure _
  refine (Run.reports_resolve _).bind fun source => (Run.reports_resolve _).bind fun out => ?_
  refine (reports_forM fun _ _ => Run.reports_warn _ _).bind fun _ => ?_
  refine (Run.reports_print _).bind fun _ => (reports_runStep _ _ _ _).bind fun _ => ?_
  refine jobs.bind fun _ => (reports_runStep _ _ _ _).bind fun _ => ?_
  refine (reports_runStep _ _ _ _).bind fun _ => .ite ?_ (closing _)
  exact ((reports_patchPackageConfig _ _).map _).bind fun _ => closing _

theorem reports_buildAll (settled : Settled) (tool : String) (channel : Channel)
    (variants : List Variant) :
    Reports Problem.IsOfBuild (buildAll settled tool channel variants) := by
  induction variants generalizing channel with
  | nil => exact reports_pure _
  | cons v rest ih =>
      have first : Reports Problem.IsOfBuild (buildAndPublish settled tool channel v) := by
        refine ((reports_buildVariant _ _ _ _ _).mono fun _ ofVariant => ofVariant.isOfBuild).bind
          fun artifacts => ?_
        exact (reports_publish _ _).bind fun _ => (Run.reports_note _ _).bind fun _ =>
          reports_pure _
      exact first.bind fun published => (ih published.1).bind fun _ => reports_pure _

theorem reports_commit {P : Problem → Prop} (channel : Channel) (p : Path) :
    Reports P (commit channel p) :=
  (Run.reports_writeWhole _ _).bind fun _ => Run.reports_note _ _

theorem reports_stageAll {P : Problem → Prop} (sets : List Artifacts) (dest? : Option Path)
    (target : Target) : Reports P (stageAll sets dest? target) := by
  have found (places : List Path) : Reports P (firstFile? places) := by
    induction places with
    | nil => exact reports_pure _
    | cons p rest ih =>
        exact (Run.reports_isFile p).bind fun there => .ite (reports_pure _) ih
  have one (artifacts : Artifacts) (dest : Path) (name : String) :
      Reports P (stageLibrary artifacts dest target name) := by
    refine (found _).bind fun source? => ?_
    split
    · exact (Run.reports_note _ _).bind fun _ => (Run.reports_print _).bind fun _ =>
        reports_pure _
    · exact (Run.reports_copy _ _).bind fun _ => (Run.reports_print _).bind fun _ =>
        reports_pure _
  cases dest? with
  | none => exact reports_pure _
  | some dest =>
      refine (reports_mapM fun artifacts _ => ?_).bind fun _ => reports_pure _
      refine (Run.reports_makeDirectories dest).bind fun _ => ?_
      exact (reports_mapM fun name _ => one artifacts dest name).bind fun _ => reports_pure _

end Building

end NativeVariants
