import NativeVariants.Proofs.Build.Preparation
import NativeVariants.Proofs.Build.Staging
import NativeVariants.Proofs.Build.Steps
import NativeVariants.Proofs.Build.VariantProcesses
import NativeVariants.Proofs.Metadata.HandOff
import NativeVariants.Proofs.Metadata.Publication
import NativeVariants.Proofs.Registry

set_option autoImplicit false

/-!
The record of a whole build. A build that returns has published exactly the facts of its variants,
each under a name of its own, and the record holds them (`runPipeline_records`).
-/

namespace NativeVariants
open Metadata

/-- What is left behind by the build of a variant on a machine in a directory. -/
def Settled.artifacts (settled : Settled) (workingDir : Location) (v : Variant) : Artifacts :=
  v.artifacts settled.config (settled.paths.sourceDir.absolute workingDir)
    (v.installDir (settled.paths.outDir.absolute workingDir))

structure Settled.Builds (settled : Settled) (workingDir : Location) (variants : List Variant)
    (channel : Channel) (built : Built) : Prop where
  holds : Channel.Holds settled.paths.packageName settled.paths.includeDir
    (variants.map (settled.artifacts workingDir)) channel
  sets : built.sets = variants.map (settled.artifacts workingDir)
  multiVariant : built.multiVariant = settled.config.multiVariant
  links : built.links = buildLinks settled.config built.sets
  metadata : built.metadata = settled.paths.metadata
  values : built.values = channel.values

section Returns

variable {m m' : Machine}

theorem publish_eq_ok {channel channel' : Channel} {items : List (String × String)}
    (ran : runFrom (publish channel items) m = (.ok channel', m')) :
    channel.stage items = .ok channel' := by
  unfold publish at ran
  obtain ⟨staged, m₁, taken, ran⟩ := runFrom_bind_eq_ok.mp ran
  obtain ⟨_, m₂, _, ran⟩ := runFrom_bind_eq_ok.mp ran
  cases ran
  exact (ofReported_eq_ok taken).1

theorem buildVariant_eq_ok {config : BuildConfig} {v : Variant} {sourceDir outDir : Path}
    {settings : BuildSettings} {artifacts : Artifacts}
    (ran : runFrom (buildVariant config v sourceDir outDir settings) m = (.ok artifacts, m')) :
    artifacts = v.artifacts config (sourceDir.absolute m.workingDir)
      (v.installDir (outDir.absolute m.workingDir)) := by
  unfold buildVariant at ran
  obtain ⟨source, m₁, resolved, ran⟩ := runFrom_bind_eq_ok.mp ran
  obtain ⟨rfl, rfl⟩ := Run.runFrom_resolve_eq_ok resolved
  obtain ⟨out, m₂, resolved, ran⟩ := runFrom_bind_eq_ok.mp ran
  obtain ⟨rfl, rfl⟩ := Run.runFrom_resolve_eq_ok resolved
  refine Yields.of_run (P := fun a => a = v.artifacts config (sourceDir.absolute m₂.workingDir)
    (v.installDir (outDir.absolute m₂.workingDir))) ?_ ran
  refine .bind fun _ => .bind fun _ => .bind fun _ => .bind fun jobs => ?_
  refine .bind fun _ => .bind fun _ => .ite ?_ ?_
  · exact .bind fun _ => .bind fun _ => .bind fun _ => yields_pure rfl
  · exact .bind fun _ => .bind fun _ => yields_pure rfl

theorem buildAndPublish_eq_ok {settled : Settled} {tool : String} {channel : Channel} {v : Variant}
    {published : Channel × Artifacts}
    (ran : runFrom (buildAndPublish settled tool channel v) m = (.ok published, m')) :
    published.2 = settled.artifacts m.workingDir v ∧
      channel.publishVariant published.2 = .ok published.1 ∧ m'.workingDir = m.workingDir := by
  let site : Site := ⟨m.workingDir, m.host, fun _ => True⟩
  have carries : Carries site _ (buildAndPublish settled tool channel v) :=
    carries_buildAndPublish settled tool channel v fun _ _ _ => trivial
  obtain ⟨n, added, carried⟩ := carries m ⟨rfl, rfl, fun _ _ _ _ => trivial⟩
  rw [ran] at carried
  unfold buildAndPublish at ran
  obtain ⟨artifacts, m₁, built, ran⟩ := runFrom_bind_eq_ok.mp ran
  obtain ⟨next, m₂, taken, ran⟩ := runFrom_bind_eq_ok.mp ran
  obtain ⟨_, m₃, noted, ran⟩ := runFrom_bind_eq_ok.mp ran
  cases ran
  exact ⟨buildVariant_eq_ok built, publish_eq_ok taken, carried.isAt.workingDir⟩

/-- The variants leave behind what is expected of them, and their facts are taken in order. -/
theorem buildAll_eq_ok {settled : Settled} {tool : String} {channel : Channel}
    {variants : List Variant} {published : Channel × List Artifacts}
    (ran : runFrom (buildAll settled tool channel variants) m = (.ok published, m')) :
    published.2 = variants.map (settled.artifacts m.workingDir) ∧
      published.2.foldlM Channel.publishVariant channel = .ok published.1 ∧
      m'.workingDir = m.workingDir := by
  induction variants generalizing channel m published with
  | nil =>
      cases ran
      exact ⟨rfl, rfl, rfl⟩
  | cons v rest ih =>
      unfold buildAll at ran
      obtain ⟨first, m₁, built, ran⟩ := runFrom_bind_eq_ok.mp ran
      obtain ⟨others, m₂, builtRest, ran⟩ := runFrom_bind_eq_ok.mp ran
      cases ran
      obtain ⟨firstEq, taken, stays⟩ := buildAndPublish_eq_ok built
      obtain ⟨othersEq, takenRest, staysRest⟩ := ih builtRest
      rw [stays] at othersEq staysRest
      refine ⟨?_, ?_, staysRest⟩
      · rw [List.map_cons, firstEq, othersEq]
      · rw [List.foldlM_cons, taken]
        exact takenRest

/-- The channel that a build of the variants ends with, and the record that it leaves. -/
theorem buildVariants_eq_ok {options : Options} {settled : Settled} {built : Built}
    (ran : runFrom (buildVariants options settled) m = (.ok built, m')) :
    ∃ variants channel,
      Variant.forMode settled.config.multiVariant options.variants = .ok variants ∧
      settled.Builds m.workingDir variants channel built ∧ m'.workingDir = m.workingDir ∧
      ((∀ dest ∈ options.stagingDir?, ¬IsStagedAt dest m.workingDir built.staged
          (settled.paths.metadata.resolve m.workingDir)) →
        m'.Offers settled.paths.metadata (.text channel.render)) := by
  obtain ⟨opened, variants, channel, m₁, m₂, m₃, published, inMode, builtAll, committed, copied,
    multi, links, metadata, values⟩ := buildVariants_eq ran
  have talks : m.Talks m₁ := (respects_publish Run.talks_note _ _).of_run published
  obtain ⟨setsEq, taken, stays⟩ := buildAll_eq_ok builtAll
  rw [talks.workingDir] at setsEq stays
  simp only at setsEq taken
  have distinct : (built.sets.map Artifacts.basename).Nodup := by
    have basenames := Variant.nodup_basenames_of_forMode inMode
    rw [setsEq, List.map_map]
    exact basenames
  have start := Channel.holds_publishInclude (publish_eq_ok published)
  have holds := start.publishAll taken distinct
  rw [List.nil_append, setsEq] at holds
  have offers := offers_of_commit committed
  have here : m₃.workingDir = m.workingDir := (workingDir_of_commit committed).trans stays
  have directories : m₃.KeepsDirectories m' :=
    (Run.admits_keepsDirectories.stageAll fun _ _ _ _ _ _ _ _ => ⟨trivial, trivial⟩).of_run copied
  refine ⟨variants, channel, inMode, ⟨holds, setsEq, multi, links, metadata, values⟩,
    directories.workingDir.trans here, fun apart => offers.mono directories ?_⟩
  rw [here]
  exact keeps_stageAll copied apart here

end Returns

/-- What the record of a build says of its variants: each has its own directories and basename. -/
structure Built.Records (built : Built) (package : String) (includeDir outDir : Path)
    (variants : List Variant) : Prop where
  nodup : (expectedKeys package variants).Nodup
  keys : built.values.keys = expectedKeys package variants
  size : built.values.size = 1 + 3 * variants.length
  included : built.values.get? (includeKey package) = some includeDir.display
  libraries : ∀ v ∈ variants, built.values.get? (variantKey package v.name .libDir) =
    some ((outDir.child v.name).child "lib").display
  programs : ∀ v ∈ variants, built.values.get? (variantKey package v.name .binDir) =
    some ((outDir.child v.name).child "bin").display
  basenames : ∀ v ∈ variants, built.values.get? (variantKey package v.name .basename) =
    some v.basename

theorem variantItems_artifacts (package : String) (settled : Settled) (workingDir : Location)
    (v : Variant) :
    Channel.variantItems package (settled.artifacts workingDir v) =
      [(variantKey package v.name .libDir,
          (((settled.paths.outDir.absolute workingDir).child v.name).child "lib").display),
        (variantKey package v.name .binDir,
          (((settled.paths.outDir.absolute workingDir).child v.name).child "bin").display),
        (variantKey package v.name .basename, v.basename)] := rfl

theorem records_of_holds {built : Built} {settled : Settled} {workingDir : Location}
    {variants : List Variant} {channel : Channel}
    (holds : Channel.Holds settled.paths.packageName settled.paths.includeDir
      (variants.map (settled.artifacts workingDir)) channel)
    (same : built.values = channel.values) :
    built.Records settled.paths.packageName settled.paths.includeDir
      (settled.paths.outDir.absolute workingDir) variants := by
  have origins : (variants.map (settled.artifacts workingDir)).map Artifacts.origin = variants := by
    rw [List.map_map]
    exact List.map_id _
  have keys := holds.keys
  have leads := holds.leads
  rw [origins] at keys leads
  have published : ∀ v ∈ variants, ∀ key value,
      (key, value) ∈
        Channel.variantItems settled.paths.packageName (settled.artifacts workingDir v) →
      built.values.get? key = some value := by
    intro v inside key value isItem
    rw [same]
    exact holds.get?_variantItem (List.mem_map_of_mem inside) isItem
  constructor
  case nodup => exact nodup_expectedKeys _ _ leads
  case keys => rw [same, keys]
  case size =>
    have count := congrArg List.length keys
    rw [length_expectedKeys] at count
    rw [same, ← count]
    exact (List.length_map _).symm
  case included => rw [same, holds.get?_includeKey]
  case libraries =>
    exact fun v inside => published v inside _ _ (by simp [variantItems_artifacts])
  case programs =>
    exact fun v inside => published v inside _ _ (by simp [variantItems_artifacts])
  case basenames =>
    exact fun v inside => published v inside _ _ (by simp [variantItems_artifacts])

/-- The places of settled options: the output directory is where a path leads from the working
directory. -/
theorem settle_eq_ok {options : Options} {environ : Environ} {settled : Settled} {m m' : Machine}
    (ran : runFrom (options.settle environ) m = (.ok settled, m')) :
    settled.paths.includeDir = settled.paths.sourceDir.child "include" ∧
      ∃ p : Path, settled.paths.outDir = p.absolute m.workingDir := by
  unfold Options.settle at ran
  obtain ⟨file, m₁, loaded, placing⟩ := runFrom_bind_eq_ok.mp ran
  obtain ⟨paths, m₂, placed, configuring⟩ := runFrom_bind_eq_ok.mp placing
  obtain rfl : m = m₁ := (ProjectFile.respects_load _).of_run loaded
  have here := ProjectPaths.resolve_eq_ok placed
  have kept : settled.paths = paths := by
    refine Yields.of_run (P := fun s => s.paths = paths) ?_ configuring
    exact .bind fun features => .bind fun m => .bind fun config => .bind fun _ =>
      .bind fun jobs => .bind fun allow => yields_pure rfl
  rw [kept]
  exact here

/-- A build that returns has recorded exactly the facts of its variants, and its record is the file
at the place for it, unless a library was staged there. -/
theorem runPipeline_records
    (options : Options) (m m' : Machine) (result : PipelineResult)
    (quiet : m.environ.docsSignal? = none)
    (returned : runFrom (runPipeline options) m = (.ok result, m')) :
    ∃ settled variants built,
      (runFrom (options.settle m.environ) m).1 = .ok settled ∧
      Variant.forMode settled.config.multiVariant options.variants = .ok variants ∧
      result.built? = some built ∧
      built.Records settled.paths.packageName (settled.paths.sourceDir.child "include")
        (settled.paths.outDir.absolute m.workingDir) variants ∧
      (Path.upward ∉ m.workingDir →
        settled.paths.outDir.absolute m.workingDir = settled.paths.outDir) ∧
      ((∀ dest ∈ options.stagingDir?, ¬IsStagedAt dest m.workingDir built.staged
          (settled.paths.metadata.resolve m.workingDir)) →
        m'.files.entry? (settled.paths.metadata.resolve m.workingDir) =
          some (.file (.text (Channel.render ⟨settled.paths.packageName, built.values⟩)))) := by
  rw [runFrom_runPipeline, quiet] at returned
  obtain ⟨settled, m₁, generating, finishing⟩ := runFrom_bind_eq_ok.mp returned
  obtain ⟨built, m₂, finished, ended⟩ := runFrom_bind_eq_ok.mp finishing
  cases ended
  obtain ⟨m₃, m₄, surface, settling, _⟩ := Options.generate_eq_ok generating
  have here := Options.workingDir_of_generate generating
  obtain ⟨variants, channel, inMode, builds, stays, recorded⟩ := buildVariants_eq_ok finished
  rw [here] at builds stays recorded
  obtain ⟨headers, p, resolved⟩ := settle_eq_ok settling
  have named : (⟨settled.paths.packageName, built.values⟩ : Channel) = channel := by
    rw [builds.values, ← builds.holds.named]
  refine ⟨settled, variants, built, by rw [settling], inMode, rfl, ?_, ?_, ?_⟩
  · rw [← headers]
    exact records_of_holds builds.holds builds.values
  · intro plain
    rw [resolved]
    exact congrArg Path.ofLocation (Path.ofLocation_resolve_resolve plain p _)
  · rw [named]
    intro apart
    have offers := recorded apart
    rw [← stays]
    exact offers.held

/-- Two variants are built, and nothing is staged. -/
theorem records_smallProject :
    ∃ result m', (smallProject []).environ.docsSignal? = none ∧
      runFrom (runPipeline .ofRegistered) (smallProject []) = (.ok result, m') ∧
      ∃ settled variants built,
        (runFrom (Options.ofRegistered.settle (smallProject []).environ) (smallProject [])).1 =
          .ok settled ∧
        Variant.forMode settled.config.multiVariant Options.ofRegistered.variants =
          .ok variants ∧
        result.built? = some built ∧
        built.Records settled.paths.packageName (settled.paths.sourceDir.child "include")
          (settled.paths.outDir.absolute (smallProject []).workingDir) variants ∧
        (Path.upward ∉ (smallProject []).workingDir →
          settled.paths.outDir.absolute (smallProject []).workingDir = settled.paths.outDir) ∧
        ((∀ dest ∈ Options.ofRegistered.stagingDir?,
            ¬IsStagedAt dest (smallProject []).workingDir built.staged
              (settled.paths.metadata.resolve (smallProject []).workingDir)) →
          m'.files.entry? (settled.paths.metadata.resolve (smallProject []).workingDir) =
            some (.file (.text
              (Channel.render ⟨settled.paths.packageName, built.values⟩)))) := by
  have quiet : (smallProject []).environ.docsSignal? = none := by decide
  obtain ⟨result, m', ran⟩ := exists_of_isOk (x := runPipeline .ofRegistered)
    (s := smallProject []) (by decide +kernel)
  exact ⟨result, m', quiet, ran, runPipeline_records _ _ _ _ quiet ran⟩

end NativeVariants
