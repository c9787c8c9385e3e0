import Mathlib.Data.List.Find
import NativeVariants.Proofs.Build.Preparation
import NativeVariants.Proofs.PathTexts

set_option autoImplicit false

/-!
What options are settled to. Apart from the project file, the result depends on the machine by its
host and its working directory alone (`Options.settle_eq_ok_iff`).
-/

namespace NativeVariants

def ProjectPaths.ofLayout (workingDir : Location) (projectRoot : Path) (layout : Layout)
    (outDir? : Option Path) : ProjectPaths :=
  let root := projectRoot.absolute workingDir
  let sourceDir := (root.child layout.sourceDir).absolute workingDir
  let outDir := (outDir?.getD (root.child layout.outDir)).absolute workingDir
  { projectRoot := root
    sourceDir
    includeDir := sourceDir.child "include"
    wrapperHeader := (root.child layout.wrapperHeader).absolute workingDir
    outDir
    bindings := outDir.child layout.bindingsFile
    metadata := outDir.child layout.metadataFile
    packageName := layout.packageName }

/-- The paths that are resolved on the way to the places of a project. -/
def ProjectPaths.resolved (workingDir : Location) (projectRoot : Path) (layout : Layout)
    (outDir? : Option Path) : List Path :=
  let root := projectRoot.absolute workingDir
  [projectRoot, root.child layout.sourceDir, outDir?.getD (root.child layout.outDir),
    root.child layout.wrapperHeader]

theorem Run.runFrom_resolve_eq_ok_iff {p found : Path} {m m' : Machine} :
    runFrom (resolve p) m = (.ok found, m') ↔
      p.isNameable = true ∧ found = p.absolute m.workingDir ∧ m' = m := by
  rw [runFrom_resolve]
  split
  · rename_i nameable
    simp [nameable, eq_comm]
  · rename_i nameless
    simp [nameless]

theorem ProjectPaths.resolve_eq_ok_iff {root : Path} {layout : Layout} {outDir? : Option Path}
    {paths : ProjectPaths} {m m' : Machine} :
    runFrom (resolve root layout outDir?) m = (.ok paths, m') ↔
      (∀ p ∈ resolved m.workingDir root layout outDir?, p.isNameable = true) ∧
        paths = ofLayout m.workingDir root layout outDir? ∧ m' = m := by
  unfold resolve
  simp only [runFrom_bind_eq_ok, Run.runFrom_resolve_eq_ok_iff, runFrom_pure, Prod.mk.injEq,
    Except.ok.injEq, resolved, List.mem_cons, List.not_mem_nil, or_false, forall_eq_or_imp,
    forall_eq]
  constructor
  · rintro ⟨_, _, ⟨rooted, rfl, rfl⟩, _, _, ⟨sources, rfl, rfl⟩, _, _, ⟨results, rfl, rfl⟩,
      _, _, ⟨wrapped, rfl, rfl⟩, rfl, rfl⟩
    exact ⟨⟨rooted, sources, results, wrapped⟩, rfl, rfl⟩
  · rintro ⟨⟨rooted, sources, results, wrapped⟩, rfl, rfl⟩
    exact ⟨_, _, ⟨rooted, rfl, rfl⟩, _, _, ⟨sources, rfl, rfl⟩, _, _, ⟨results, rfl, rfl⟩,
      _, _, ⟨wrapped, rfl, rfl⟩, rfl, rfl⟩

theorem Environ.docsSignal?_congr {environ other : Environ}
    (same : ∀ key ∈ docsSignals, other.get? key = environ.get? key) :
    other.docsSignal? = environ.docsSignal? := by
  unfold docsSignal? firstPresent? Table.contains
  exact List.find?_congr fun key isSignal => by rw [same key isSignal]

def Options.buildRequest (options : Options) (environ : Environ) (host : Host)
    (file : ProjectFile) (features : List String) : BuildRequest where
  features
  target := options.target environ host
  multiVariant := options.multiVariant environ file
  environ
  validate := environ.docsSignal?.isNone

structure Options.Settles (options : Options) (environ : Environ) (host : Host)
    (workingDir : Location) (file : ProjectFile) (settled : Settled) : Prop where
  nameable : ∀ p ∈ ProjectPaths.resolved workingDir options.projectRoot file.layout
    options.outDir?, p.isNameable = true
  paths : settled.paths =
    .ofLayout workingDir options.projectRoot file.layout options.outDir?
  config : ∃ features, options.features environ file = .ok features ∧
    BuildConfig.resolve (options.buildRequest environ host file features) = .ok settled.config
  jobs : options.chosenJobs file = .ok settled.jobs
  allow : Options.allowlist file = .ok settled.allow

theorem runFrom_ofExcept_eq_ok_iff {σ α : Type} {result : Except Failure α} {a : α} {s s' : σ} :
    runFrom (ofExcept result : Stateful σ α) s = (.ok a, s') ↔ result = .ok a ∧ s' = s := by
  rw [runFrom_ofExcept, Prod.mk.injEq, eq_comm (a := s)]

theorem runFrom_ofReported_eq_ok_iff {α : Type} {result : Except Problem α} {a : α}
    {m m' : Machine} :
    runFrom (Run.ofReported result) m = (.ok a, m') ↔ result = .ok a ∧ m' = m := by
  constructor
  · exact ofReported_eq_ok
  · rintro ⟨rfl, rfl⟩
    rfl

theorem Options.settle_eq_ok_iff {options : Options} {environ : Environ} {settled : Settled}
    {m m' : Machine} :
    runFrom (options.settle environ) m = (.ok settled, m') ↔ ∃ file,
      runFrom (ProjectFile.load options.projectRoot) m = (.ok file, m) ∧
      options.Settles environ m.host m.workingDir file settled ∧
      runFrom (Run.note .features (configNote settled.config)) m = (.ok (), m') := by
  unfold settle
  constructor
  · intro ran
    obtain ⟨file, m₁, loaded, placing⟩ := runFrom_bind_eq_ok.mp ran
    obtain rfl : m = m₁ := (ProjectFile.respects_load _).of_run loaded
    obtain ⟨paths, m₂, placed, asking⟩ := runFrom_bind_eq_ok.mp placing
    obtain ⟨nameable, pathsEq, rfl⟩ := ProjectPaths.resolve_eq_ok_iff.mp placed
    obtain ⟨features, m₃, asked, looking⟩ := runFrom_bind_eq_ok.mp asking
    obtain ⟨askedEq, rfl⟩ := runFrom_ofExcept_eq_ok_iff.mp asked
    rw [runFrom_bind_of_ok (runFrom_get _)] at looking
    obtain ⟨config, m₄, configured, noting⟩ := runFrom_bind_eq_ok.mp looking
    obtain ⟨configEq, rfl⟩ := ofReported_eq_ok configured
    obtain ⟨_, m₅, noted, choosing⟩ := runFrom_bind_eq_ok.mp noting
    obtain ⟨jobs, m₆, chosen, allowing⟩ := runFrom_bind_eq_ok.mp choosing
    obtain ⟨jobsEq, rfl⟩ := runFrom_ofExcept_eq_ok_iff.mp chosen
    obtain ⟨allow, m₇, allowed, returned⟩ := runFrom_bind_eq_ok.mp allowing
    obtain ⟨allowEq, rfl⟩ := runFrom_ofExcept_eq_ok_iff.mp allowed
    cases returned
    exact ⟨file, loaded, ⟨nameable, pathsEq, ⟨features, askedEq, configEq⟩, jobsEq, allowEq⟩, noted⟩
  · rintro ⟨file, loaded, settles, noted⟩
    obtain ⟨features, askedEq, configEq⟩ := settles.config
    unfold buildRequest at configEq
    have placed := ProjectPaths.resolve_eq_ok_iff.mpr ⟨settles.nameable, settles.paths, rfl⟩
    rw [runFrom_bind_of_ok loaded, runFrom_bind_of_ok placed,
      runFrom_bind_of_ok (runFrom_ofExcept_eq_ok_iff.mpr ⟨askedEq, rfl⟩),
      runFrom_bind_of_ok (runFrom_get m),
      runFrom_bind_of_ok (runFrom_ofReported_eq_ok_iff.mpr ⟨configEq, rfl⟩),
      runFrom_bind_of_ok noted,
      runFrom_bind_of_ok (runFrom_ofExcept_eq_ok_iff.mpr ⟨settles.jobs, rfl⟩),
      runFrom_bind_of_ok (runFrom_ofExcept_eq_ok_iff.mpr ⟨settles.allow, rfl⟩)]
    rfl

/-- The paths of the options are such as texts name. -/
structure Options.IsSpelled (options : Options) : Prop where
  projectRoot : options.projectRoot.IsSpelled
  outDir : ∀ dir ∈ options.outDir?, dir.IsSpelled

theorem Options.Settles.exists_proper {options : Options} {environ : Environ} {host : Host}
    {workingDir : Location} {file : ProjectFile} {settled : Settled}
    (settles : options.Settles environ host workingDir file settled)
    (spelled : options.IsSpelled) (proper : Path.IsProper workingDir) :
    (∃ source, Path.IsProper source ∧ settled.paths.sourceDir = .ofLocation source) ∧
      ∃ out, Path.IsProper out ∧ settled.paths.outDir = .ofLocation out := by
  have rooted : (options.projectRoot.absolute workingDir).IsSpelled :=
    spelled.projectRoot.absolute proper
  rw [settles.paths]
  refine ⟨⟨_, (rooted.child _).isProper_resolve proper, rfl⟩, ?_⟩
  refine ⟨_, Path.IsSpelled.isProper_resolve ?_ proper, rfl⟩
  cases given : options.outDir? with
  | none => exact rooted.child _
  | some dir => exact spelled.outDir dir given

end NativeVariants
