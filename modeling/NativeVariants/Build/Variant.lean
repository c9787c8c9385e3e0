import NativeVariants.Artifacts
import NativeVariants.Machine
import NativeVariants.PackageConfig

set_option autoImplicit false

/-!
The build of one variant: it is configured, built and installed, each with a process of its own, and
its package configuration is given the names of the variant.
-/

namespace NativeVariants

/-- Where an installed package configuration may be, the installed place first. -/
def PackageConfig.places (installDir : Path) : List Path :=
  [installDir.child "lib/cmake/ggml/ggml-config.cmake", installDir.child "build/ggml-config.cmake"]

/-- Patches the first package configuration of a variant that exists, and says which. -/
def patchPackageConfig (installDir : Path) (basename : String) : Run (Option Path) :=
  go (PackageConfig.places installDir)
where
  go : List Path → Run (Option Path)
    | [] => return none
    | p :: rest => do
        if ← Run.isFile p then
          let content ← Run.readText p
          let patched ←
            ofExcept ((PackageConfig.rename content basename).mapError .ofPackageConfig)
          if patched = content then
            Run.note .packageConfig s!"{p.display} already uses {basename} names"
          else
            Run.writeText p patched
            Run.note .packageConfig s!"Patched {p.display} for {basename}"
          return some p
        else
          Run.note .packageConfig s!"No package config at {p.display}"
          go rest

inductive BuildStep where
  | configure
  | build
  | install
  deriving DecidableEq, Repr

def BuildStep.name : BuildStep → String
  | configure => "configure"
  | build => "build"
  | install => "install"

/-- How much of a process's output is kept when it fails. -/
def outputLimit : Nat := 4000

def outputTail (text : String) : String :=
  String.ofList (text.toList.drop (text.length - outputLimit))

def runStep (command : Command) (v : Variant) (step : BuildStep) (workingDir : Path) :
    Run Unit := do
  Run.note .nativeBuild s!"[{v.name}] {step.name}: {command.display}"
  match ← Run.start command workingDir with
  | .missing => throw (.problem (.missingTool (command.headD "") step.name v.name))
  | .unstarted fault => throw fault.failure
  | .undecodable _ => throw .undecodable
  | .finished status output errorOutput _ =>
      if status ≠ 0 then
        throw (.problem (.failedStep step.name v.name status command.display
          (outputTail output) (outputTail errorOutput)))
      Run.note .nativeBuild s!"[{v.name}] {step.name} ok"

structure BuildSettings where
  jobs : Datum
  tool : String
  deriving Repr

def Variant.artifacts (v : Variant) (config : BuildConfig) (sourceDir installDir : Path) :
    Artifacts where
  variant := v.name
  basename := v.basename
  includeDir := sourceDir.child "include"
  libDir := installDir.child "lib"
  binDir := installDir.child "bin"
  libraries := v.libraryNames config.librarySuffixes

def chosenJobs (settings : BuildSettings) : Run Datum := do
  match Command.parallelJobs? settings.jobs (← get).host.cpuCount? with
  | none => throw .wrongKind
  | some jobs => if jobs.isWritable then return jobs else throw .badValue

def noteInstalled (v : Variant) (libDir : Path) : Run Unit := do
  if ← Run.isDirectory libDir then
    let names := (← get).files.names (← Run.locate libDir)
    names.forM fun name => Run.note .nativeBuild s!"[{v.name}] installed: {name}"

def buildVariant (config : BuildConfig) (v : Variant) (sourceDir outDir : Path)
    (settings : BuildSettings) : Run Artifacts := do
  let sourceDir ← Run.resolve sourceDir
  let installDir := v.installDir (← Run.resolve outDir)
  let buildDir := installDir.child "build"
  let defines := Defines.ofVariant config v installDir.display
  (Defines.warnings config v installDir.display).forM (Run.warn .nativeBuild)
  Run.print s!"🔨 Building {v.name} variant ({v.basename})..."
  runStep (Command.configure settings.tool sourceDir buildDir defines) v .configure sourceDir
  let buildType := Defines.buildType defines
  let jobs ← chosenJobs settings
  runStep (Command.build settings.tool buildDir jobs buildType) v .build sourceDir
  runStep (Command.install settings.tool buildDir buildType) v .install sourceDir
  if v.isNamespaced then discard (patchPackageConfig installDir v.basename)
  let artifacts := v.artifacts config sourceDir installDir
  noteInstalled v artifacts.libDir
  Run.print s!"✅ {v.name} variant built: {artifacts.libDir.display}"
  return artifacts

end NativeVariants
