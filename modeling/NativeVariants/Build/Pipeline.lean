import NativeVariants.Build.Generation
import NativeVariants.Build.Options
import NativeVariants.Build.Staging
import NativeVariants.Link
import NativeVariants.Metadata.Channel

set_option autoImplicit false

/-!
A whole build: the options are settled, the sources checked, the bindings generated, every variant
built, and the facts about them published in one step at the end.
-/

namespace NativeVariants
open Metadata

structure Built where
  sets : List Artifacts
  multiVariant : Bool
  links : List LinkDirective
  metadata : Path
  values : Table String String
  staged : List Path
  deriving DecidableEq, Repr

structure PipelineResult where
  bindings : Path
  /-- Absent if only bindings were made. -/
  built? : Option Built
  deriving DecidableEq, Repr

def publish (channel : Channel) (items : List (String × String)) : Run Channel := do
  let channel ← Run.ofReported (channel.stage items)
  items.forM fun (key, value) => Run.note .channel s!"staged {key}={value}"
  return channel

def publishInclude (channel : Channel) (includeDir : Path) : Run Channel :=
  publish channel (Channel.includeItems channel.package includeDir)

def publishVariant (channel : Channel) (artifacts : Artifacts) : Run Channel :=
  publish channel (Channel.variantItems channel.package artifacts)

def buildAndPublish (settled : Settled) (tool : String) (channel : Channel) (v : Variant) :
    Run (Channel × Artifacts) := do
  let paths := settled.paths
  let artifacts ←
    buildVariant settled.config v paths.sourceDir paths.outDir ⟨settled.jobs, tool⟩
  let channel ← publishVariant channel artifacts
  Run.note .pipeline s!"Staged metadata for {v.name}"
  return (channel, artifacts)

/-- Builds the variants in order. The first failure ends the build. -/
def buildAll (settled : Settled) (tool : String) :
    Channel → List Variant → Run (Channel × List Artifacts)
  | channel, [] => return (channel, [])
  | channel, v :: rest => do
      let (channel, artifacts) ← buildAndPublish settled tool channel v
      let (channel, sets) ← buildAll settled tool channel rest
      return (channel, artifacts :: sets)

def commit (channel : Channel) (p : Path) : Run Unit := do
  Run.writeWhole p channel.render
  Run.note .channel s!"Committed {channel.values.size} metadata keys to {p.display}"

def stageAll (sets : List Artifacts) (dest? : Option Path) (target : Target) :
    Run (List Path) := do
  match dest? with
  | none => return []
  | some dest => return (← sets.mapM fun artifacts => stageLibraries artifacts dest target).flatten

def buildVariants (options : Options) (settled : Settled) : Run Built := do
  let paths := settled.paths
  let channel ← publishInclude (Channel.empty paths.packageName) paths.includeDir
  let variants ← Run.ofReported (Variant.forMode settled.config.multiVariant options.variants)
  let (channel, sets) ← buildAll settled options.tool channel variants
  commit channel paths.metadata
  let staged ← stageAll sets options.stagingDir? settled.config.target
  return {
    sets
    multiVariant := settled.config.multiVariant
    links := buildLinks settled.config sets
    metadata := paths.metadata
    values := channel.values
    staged }

def runPipeline (options : Options) : Run PipelineResult := do
  let environ := (← get).environ
  let settled ← options.settle environ
  let paths := settled.paths
  paths.check
  Run.note .pipeline
    s!"Source tree {paths.sourceDir.display}, output {paths.outDir.display}"
  discard <| generateBindings
    ⟨paths.wrapperHeader, [paths.includeDir], paths.bindings, settled.allow, []⟩
  match environ.docsSignal? with
  | some signal =>
      Run.print s!"📚 {signal} is set: bindings only, skipping native build"
      return ⟨paths.bindings, none⟩
  | none => return ⟨paths.bindings, some (← buildVariants options settled)⟩

/-- Shows what the linker is to be told, and a closing line. -/
def printBuilt (built : Built) : Run Unit := do
  built.links.forM fun d => Run.print d.render
  let mode := if built.multiVariant then "multi-variant" else "single-variant"
  Run.print
    s!"✅ Built {built.sets.length} variant(s) ({mode}); metadata: {built.metadata.display}"

def printProblem (problem : Problem) : Run Unit := Run.complain s!"❌ {problem.message}"

/-- The whole build with its report. The result is an exit status. -/
def runReported (options : Options) : Run Nat := do
  try
    let result ← runPipeline options
    result.built?.toList.forM printBuilt
    return 0
  catch
    | .problem problem => do
        printProblem problem
        return 1
    | failure => throw failure

end NativeVariants
