import NativeVariants.Build.Pipeline
import NativeVariants.Proofs.Build.ProcessPlan

set_option autoImplicit false

/-!
The processes that build some variants. A variant is configured, built and installed, with a process
for each (`carries_buildVariant`), and the variants follow one another (`carries_buildAll`).
-/

namespace NativeVariants
open Metadata

/-- The build type of the given defines: theirs if they give one, else `Release`. -/
def chosenBuildType (defines : Table String String) : String :=
  ((defines.get? "CMAKE_BUILD_TYPE").filter (· ≠ "")).getD "Release"

theorem buildType_eq_chosenBuildType (defines : Table String String) :
    Defines.buildType defines = chosenBuildType defines := by
  unfold Defines.buildType chosenBuildType Defines.defaultBuildType
  cases defines.get? "CMAKE_BUILD_TYPE" with
  | none => rfl
  | some value =>
      by_cases empty : value = ""
      · simp [Option.filter, empty]
      · simp [Option.filter, empty]

/-- The processes that build a variant: it is configured, built and installed. -/
def Variant.processPlan (v : Variant) (config : BuildConfig) (sourceDir outDir : Path)
    (settings : BuildSettings) (cpuCount? : Option Nat) : List PlannedProcess :=
  let installDir := v.installDir outDir
  let buildDir := installDir.child "build"
  let defines := Defines.ofVariant config v installDir.display
  let buildType := chosenBuildType defines
  let jobs := (Command.parallelJobs? settings.jobs cpuCount?).getD .null
  [⟨v, Command.configure settings.tool sourceDir buildDir defines, sourceDir⟩,
    ⟨v, Command.build settings.tool buildDir jobs buildType, sourceDir⟩,
    ⟨v, Command.install settings.tool buildDir buildType, sourceDir⟩]

section Operations

variable {R : Machine → Machine → Prop} [IsPreorder Machine R] {written : Path → Prop}
  (admits : Run.Admits R written)
include admits

theorem Run.Admits.patchPackageConfigAt {places : List Path} (basename : String)
    (expected : ∀ p ∈ places, written p) : Respects R (patchPackageConfig.go basename places) := by
  induction places with
  | nil => exact respects_pure _
  | cons p rest ih =>
      have later := ih fun q inRest => expected q (by simp [inRest])
      refine (Run.respects_isFile p).bind fun there => .ite (fun _ => ?_) fun _ => ?_
      · refine (Run.respects_readText p).bind fun content => ?_
        refine (respects_ofExcept _).bind fun patched => .ite (fun _ => ?_) fun _ => ?_
        · exact (admits.note _ _).bind fun _ => respects_pure _
        · exact (admits.writeContent _ (expected p (by simp)) _).bind fun _ =>
            (admits.note _ _).bind fun _ => respects_pure _
      · exact (admits.note _ _).bind fun _ => later

theorem Run.Admits.patchPackageConfig {installDir : Path} (basename : String)
    (expected : ∀ p ∈ PackageConfig.places installDir, written p) :
    Respects R (patchPackageConfig installDir basename) :=
  admits.patchPackageConfigAt basename expected

end Operations

section Notes

variable {R : Machine → Machine → Prop} [IsPreorder Machine R]
  (noted : ∀ recorder message, Respects R (Run.note recorder message))
include noted

theorem respects_noteInstalled (v : Variant) (libDir : Path) :
    Respects R (noteInstalled v libDir) := by
  refine (Run.respects_isDirectory libDir).bind fun there => ?_
  refine .ite (fun _ => ?_) fun _ => respects_pure _
  exact respects_get.bind fun m => (Run.respects_locate libDir).bind fun location =>
    respects_forM fun name _ => noted _ _

theorem respects_publish (channel : Channel) (items : List (String × String)) :
    Respects R (publish channel items) := by
  refine (respects_ofExcept _).bind fun channel => ?_
  exact (respects_forM fun _ _ => noted _ _).bind fun _ => respects_pure _

/-- A step does to the machine what its process does. -/
theorem respects_runStep {command : Command} {workingDir : Path}
    (started : Respects R (Run.start command workingDir)) (v : Variant) (step : BuildStep) :
    Respects R (runStep command v step workingDir) := by
  refine (noted _ _).bind fun _ => started.bind fun outcome => ?_
  cases outcome with
  | missing => exact respects_throw _
  | unstarted fault => exact respects_throw _
  | undecodable created => exact respects_throw _
  | finished status output errorOutput created =>
      exact .ite (fun _ => (respects_throw _).bind fun _ => noted _ _) fun _ => noted _ _

end Notes

theorem respects_chosenJobs {R : Machine → Machine → Prop} [IsPreorder Machine R]
    (settings : BuildSettings) : Respects R (chosenJobs settings) := by
  refine respects_get.bind fun m => ?_
  split
  · exact respects_throw _
  · exact .ite (fun _ => respects_pure _) fun _ => respects_throw _

theorem chosenJobs_eq_ok {settings : BuildSettings} {m m' : Machine} {jobs : Datum}
    (chosen : runFrom (chosenJobs settings) m = (.ok jobs, m')) :
    Command.parallelJobs? settings.jobs m.host.cpuCount? = some jobs ∧ jobs.isWritable = true := by
  unfold chosenJobs at chosen
  rw [runFrom_bind, runFrom_get] at chosen
  simp only at chosen
  split at chosen
  · cases chosen
  · rename_i jobs' found
    split at chosen
    · rename_i writable
      cases chosen
      exact ⟨found, writable⟩
    · cases chosen

/-- A variant is built by its three processes, one after another. -/
theorem carries_buildVariant {site : Site} (config : BuildConfig) (v : Variant)
    (sourceDir outDir : Path) (settings : BuildSettings)
    (configured : v.isNamespaced = true →
      ∀ p ∈ PackageConfig.places (v.installDir (outDir.absolute site.workingDir)),
        site.writes (p.resolve site.workingDir)) :
    Carries site
      (v.processPlan config (sourceDir.absolute site.workingDir)
        (outDir.absolute site.workingDir) settings site.host.cpuCount?)
      (buildVariant config v sourceDir outDir settings) := by
  unfold buildVariant
  refine .idle_bind (Run.respects_resolve _) fun source returned => ?_
  obtain ⟨m, m', isAt, resolved⟩ := returned
  obtain rfl : source = sourceDir.absolute site.workingDir := by
    rw [(Run.runFrom_resolve_eq_ok resolved).1, isAt.workingDir]
  refine .idle_bind (Run.respects_resolve _) fun out returned => ?_
  obtain ⟨m, m', isAt, resolved⟩ := returned
  obtain rfl : out = outDir.absolute site.workingDir := by
    rw [(Run.runFrom_resolve_eq_ok resolved).1, isAt.workingDir]
  refine .idle_bind (respects_forM fun _ _ => Run.idle_warn _ _) fun _ _ => ?_
  refine .idle_bind (Run.idle_print _) fun _ _ => ?_
  refine Carries.bind (carries_runStep _ _ _ _ _) fun _ _ => ?_
  refine .idle_bind (respects_chosenJobs _) fun jobs returned => ?_
  obtain ⟨m, m', isAt, chosen⟩ := returned
  have jobsEq := (chosenJobs_eq_ok chosen).1
  rw [isAt.host] at jobsEq
  rw [jobsEq, buildType_eq_chosenBuildType]
  refine Carries.bind (carries_runStep _ _ _ _ _) fun _ _ => ?_
  refine Carries.bind_idle (carries_runStep _ _ _ _ _) fun _ => ?_
  have closing : Idle site.workingDir site.writes (do
      let artifacts := v.artifacts config (sourceDir.absolute site.workingDir)
        (v.installDir (outDir.absolute site.workingDir))
      noteInstalled v artifacts.libDir
      Run.print s!"✅ {v.name} variant built: {artifacts.libDir.display}"
      return artifacts) :=
    (respects_noteInstalled Run.idle_note _ _).bind fun _ =>
      (Run.idle_print _).bind fun _ => respects_pure _
  refine .ite (fun namespaced => ?_) fun _ => closing
  exact ((Run.admits_idle.patchPackageConfig _ (configured namespaced)).map _).bind fun _ => closing

/-- The variants that a build consists of; none if the registry is at fault. -/
def Settled.variants (settled : Settled) (registry : List Variant) : List Variant :=
  (Variant.forMode settled.config.multiVariant registry).toOption.getD []

/-- The processes that build the given variants, one variant after another. -/
def Settled.processPlan (settled : Settled) (tool : String) (workingDir : Location)
    (cpuCount? : Option Nat) (variants : List Variant) : List PlannedProcess :=
  variants.flatMap fun v => v.processPlan settled.config
    (settled.paths.sourceDir.absolute workingDir) (settled.paths.outDir.absolute workingDir)
    ⟨settled.jobs, tool⟩ cpuCount?

theorem carries_buildAndPublish {site : Site} (settled : Settled) (tool : String)
    (channel : Channel) (v : Variant)
    (configured : v.isNamespaced = true → ∀ p ∈ PackageConfig.places
        (v.installDir (settled.paths.outDir.absolute site.workingDir)),
      site.writes (p.resolve site.workingDir)) :
    Carries site (settled.processPlan tool site.workingDir site.host.cpuCount? [v])
      (buildAndPublish settled tool channel v) := by
  simp only [Settled.processPlan, List.flatMap_cons, List.flatMap_nil, List.append_nil]
  refine (carries_buildVariant _ _ _ _ _ configured).bind_idle fun artifacts => ?_
  exact (respects_publish Run.idle_note _ _).bind fun channel =>
    (Run.idle_note _ _).bind fun _ => respects_pure _

end NativeVariants
