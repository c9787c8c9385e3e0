import NativeVariants.Proofs.Build.Record
import NativeVariants.Proofs.Build.Settling
import NativeVariants.Proofs.Build.Steps
import NativeVariants.Proofs.Metadata.HandOff

set_option autoImplicit false

/-!
What the consumers of a build link. The record of a build tells of each variant what was built,
except for the modules of backends that were asked for and that the target alone does not have; if
there are none, a consumer is linked exactly as the build itself (`runPipeline_consumers`).
-/

namespace NativeVariants
open Metadata

section Libraries

variable {v : Variant} {suffixes other : List String}

theorem Variant.libraryNames_sublist (v : Variant) (part : suffixes.Sublist other) :
    (v.libraryNames suffixes).Sublist (v.libraryNames other) := by
  unfold libraryNames
  apply List.Sublist.cons_cons
  apply List.Sublist.map
  exact part.append_left coreModules

theorem Variant.libraryNames_eq_iff :
    v.libraryNames suffixes = v.libraryNames other ↔ suffixes = other := by
  constructor
  · intro same
    unfold libraryNames at same
    have injective : Function.Injective (v.basename ++ "-" ++ ·) := by
      intro s t joined
      exact String.append_right_inj _ |>.mp joined
    have names := List.map_injective_iff.mpr injective (List.cons.inj same).2
    exact List.append_cancel_left names
  · rintro rfl
    rfl

/-- The build has the modules of the target, be it that a backend brings them along. -/
theorem BuildConfig.librarySuffixes_sublist (config : BuildConfig) :
    config.target.librarySuffixes.Sublist config.librarySuffixes := by
  unfold librarySuffixes Target.librarySuffixes
  simp only
  split
  · by_cases brought : "blas" ∈ config.features.suffixes
    · exact (List.singleton_sublist.mpr brought).trans (List.sublist_append_left _ _)
    · have kept : ["blas"].filter (· ∉ config.features.suffixes) = ["blas"] := by
        simp [brought]
      rw [kept]
      exact List.sublist_append_right _ _
  · exact List.nil_sublist _

end Libraries

/-- What is told of a variant agrees with what was built, but for the modules that the target does
not have by itself. -/
structure Metadata.Told.AgreesWith (told : Told) (config : BuildConfig) (built : Artifacts) :
    Prop where
  variant : told.artifacts.variant = built.variant
  basename : told.basename = .text built.basename
  libraryBasename : told.artifacts.basename = built.basename
  includeDir : told.artifacts.includeDir = built.includeDir
  libDir : told.artifacts.libDir = built.libDir
  binDir : told.artifacts.binDir = built.binDir
  part : told.artifacts.libraries.Sublist built.libraries
  whole : told.artifacts.libraries = built.libraries ↔
    config.librarySuffixes = config.target.librarySuffixes

theorem Metadata.Record.artifacts_of_facts {values : Table String String} {package : String}
    (source? : Option String) {includeDir : Path} {built : Artifacts}
    (included : values.get? (includeKey package) = some includeDir.display)
    (facts : ∀ key value, (key, value) ∈ Channel.variantItems package built →
      values.get? key = some value)
    (spelled : includeDir.IsSpelled ∧ built.libDir.IsSpelled ∧ built.binDir.IsSpelled)
    (target? : Option Target) :
    (ofText values package source?).artifacts built.variant target? =
      .ok ⟨.text built.basename,
        { built with
          includeDir
          libraries := (Variant.mk built.variant built.basename).libraryNames
            ((target?.map (·.librarySuffixes)).getD []) }⟩ := by
  have asked (f : Field) (value : String)
      (isFact : (variantKey package built.variant f, value) ∈ Channel.variantItems package built) :
      (ofText values package source?).read built.variant f.name = .ok (.text value) := by
    have named : variantKeyNamed package built.variant f.name =
        .ok (variantKey package built.variant f) := by
      cases f <;> rfl
    rw [read_ofText, named]
    change (ofText values package source?).get _ = _
    rw [get_ofText, facts _ _ isFact]
    rfl
  have header : (ofText values package source?).includeDir = .ok includeDir := by
    have found : (ofText values package source?).get (includeKey package) =
        .ok (.text includeDir.display) := by
      rw [get_ofText, included]
      rfl
    change (ofText values package source?).get (includeKey package) >>= pathOf = _
    rw [found]
    exact congrArg Except.ok (Path.ofText_display spelled.1)
  have basename := asked .basename built.basename (by simp [Channel.variantItems])
  have libDir := asked .libDir built.libDir.display (by simp [Channel.variantItems])
  have binDir := asked .binDir built.binDir.display (by simp [Channel.variantItems])
  unfold artifacts
  rw [basename, header, libDir, binDir]
  have libRead := Path.ofText_display spelled.2.1
  have binRead := Path.ofText_display spelled.2.2
  change Except.ok _ = _
  rw [libRead, binRead]
  rfl

/-- What is left behind by the build of a variant is at paths that texts name. -/
theorem Settled.isSpelled_artifacts (settled : Settled) (workingDir : Location)
    {source out : Location} (sourceProper : Path.IsProper source) (outProper : Path.IsProper out)
    (atSource : settled.paths.sourceDir = .ofLocation source)
    (atOut : settled.paths.outDir = .ofLocation out) (v : Variant) :
    (settled.artifacts workingDir v).includeDir.IsSpelled ∧
      (settled.artifacts workingDir v).libDir.IsSpelled ∧
      (settled.artifacts workingDir v).binDir.IsSpelled := by
  have spelled {location : Location} (proper : Path.IsProper location) :
      ((Path.ofLocation location).absolute workingDir).IsSpelled := by
    intro part inside
    have same : (Path.ofLocation location).resolve workingDir = location :=
      Path.follow_append_of_not_mem proper.upward_not_mem
    exact (proper part (same ▸ inside)).1
  have installed := (spelled outProper).child v.name
  rw [← atOut] at installed
  refine ⟨?_, installed.child "lib", installed.child "bin"⟩
  have sources := (spelled sourceProper).child "include"
  rw [← atSource] at sources
  exact sources

/-- The headers that the record tells of are those that every variant is built with. -/
theorem Settled.includeDir_artifacts {settled : Settled} {workingDir source : Location}
    (proper : Path.IsProper source) (atSource : settled.paths.sourceDir = .ofLocation source)
    (v : Variant) :
    (settled.artifacts workingDir v).includeDir = settled.paths.sourceDir.child "include" := by
  have same : settled.paths.sourceDir.absolute workingDir = settled.paths.sourceDir := by
    rw [atSource]
    exact congrArg Path.ofLocation (Path.follow_append_of_not_mem proper.upward_not_mem)
  change (settled.paths.sourceDir.absolute workingDir).child "include" = _
  rw [same]

section Links

variable {config : BuildConfig} {d : LinkDirective}

theorem isLibrary_searchBelow {key below : String} (inside : d ∈ searchBelow config key below) :
    d.isLibrary = false := by
  unfold searchBelow at inside
  split at inside
  · rw [List.mem_singleton.mp inside]
    rfl
  · cases inside

theorem isLibrary_backend {b : Backend} (inside : d ∈ b.links config) : d.isLibrary = false := by
  have system {names : List String} (named : d ∈ names.map .system) : d.isLibrary = false := by
    obtain ⟨name, _, rfl⟩ := List.mem_map.mp named
    rfl
  cases b
  case openblas =>
    rcases List.mem_append.mp inside with searched | linked
    · exact isLibrary_searchBelow searched
    · rw [List.mem_singleton.mp linked]
      rfl
  case cuda => exact system inside
  case vulkan =>
    simp only [Backend.links] at inside
    split at inside
    · rcases List.mem_cons.mp inside with rfl | searched
      · rfl
      · exact isLibrary_searchBelow searched
    · rcases List.mem_cons.mp inside with rfl | searched
      · rfl
      · split at searched
        · exact isLibrary_searchBelow searched
        · cases searched
  all_goals cases inside

theorem isLibrary_systemLinks (inside : d ∈ systemLinks config) : d.isLibrary = false := by
  unfold systemLinks at inside
  rcases List.mem_append.mp inside with ofPlatform | ofBackend
  · rcases List.mem_append.mp ofPlatform with runtime | framework
    · obtain ⟨name, _, rfl⟩ := List.mem_map.mp runtime
      rfl
    · unfold frameworks at framework
      split at framework
      · rcases List.mem_cons.mp framework with rfl | metal
        · rfl
        · split at metal
          · obtain ⟨name, _, rfl⟩ := List.mem_map.mp metal
            rfl
          · cases metal
      · cases framework
  · obtain ⟨b, _, linked⟩ := List.mem_flatMap.mp ofBackend
    split at linked
    · exact isLibrary_backend linked
    · cases linked

theorem isLibrary_buildLinks {sets : List Artifacts} (multi : config.multiVariant = true)
    (inside : d ∈ buildLinks config sets) : d.isLibrary = false := by
  unfold buildLinks at inside
  simp only [multi, if_true] at inside
  rcases List.mem_append.mp inside with searched | system
  · obtain ⟨artifacts, _, found⟩ := List.mem_flatMap.mp searched
    rw [List.mem_singleton.mp found]
    rfl
  · exact isLibrary_systemLinks system

theorem buildLinks_single {artifacts told : Artifacts} (single : config.multiVariant = false)
    (libDir : told.libDir = artifacts.libDir) (libraries : told.libraries = artifacts.libraries)
    (some : artifacts.libraries ≠ []) :
    buildLinks config [artifacts] = consumerLinks told ++ systemLinks config := by
  have linked : told.linked = artifacts.libraries := by
    unfold Artifacts.linked
    rw [libraries, if_neg (by simpa using some)]
  unfold buildLinks consumerLinks
  rw [single, linked, libDir, List.flatMap_cons, List.flatMap_nil, List.append_nil]
  rfl

end Links

section Records

variable {settled : Settled} {workingDir source out : Location} {variants : List Variant}
  {channel : Channel} {built : Built} {source? : Option String}

theorem Settled.Builds.exists_told
    (builds : settled.Builds workingDir variants channel built)
    (headers : settled.paths.includeDir = settled.paths.sourceDir.child "include")
    (sourceProper : Path.IsProper source) (outProper : Path.IsProper out)
    (atSource : settled.paths.sourceDir = .ofLocation source)
    (atOut : settled.paths.outDir = .ofLocation out) {v : Variant} (inside : v ∈ variants) :
    ∃ told, (Record.ofText channel.values.sorted channel.package source?).artifacts v.name
        (some settled.config.target) = .ok told ∧
      told.AgreesWith settled.config (settled.artifacts workingDir v) := by
  have asked (key : String) : channel.values.sorted.get? key = channel.values.get? key :=
    Table.get?_eq_of_perm (Table.sorted_perm _) key
  have sameHeaders : settled.paths.includeDir = (settled.artifacts workingDir v).includeDir := by
    rw [headers, Settled.includeDir_artifacts sourceProper atSource]
  have included : channel.values.sorted.get? (includeKey channel.package) =
      some (settled.artifacts workingDir v).includeDir.display := by
    rw [asked, builds.holds.named, builds.holds.get?_includeKey, sameHeaders]
  have facts : ∀ key value,
      (key, value) ∈ Channel.variantItems channel.package (settled.artifacts workingDir v) →
      channel.values.sorted.get? key = some value := by
    intro key value isFact
    rw [asked]
    rw [builds.holds.named] at isFact
    exact builds.holds.get?_variantItem (List.mem_map_of_mem inside) isFact
  have spelled := settled.isSpelled_artifacts workingDir sourceProper outProper atSource atOut v
  have told := Record.artifacts_of_facts source? included facts spelled
    (some settled.config.target)
  refine ⟨_, told, rfl, rfl, rfl, rfl, rfl, rfl, ?_, ?_⟩
  · exact v.libraryNames_sublist settled.config.librarySuffixes_sublist
  · exact v.libraryNames_eq_iff.trans eq_comm

end Records

/-- A build that returns can be linked by its consumers as it was built. What its record tells of
each variant agrees with what the build left behind, and in single-variant mode the build is linked
as a consumer is, unless a backend that was asked for brings modules of its own. In multi-variant
mode the build links none of its libraries. -/
theorem runPipeline_consumers
    (options : Options) (m m' : Machine) (result : PipelineResult)
    (proper : Path.IsProper m.workingDir) (spelled : options.IsSpelled)
    (quiet : m.environ.docsSignal? = none)
    (returned : runFrom (runPipeline options) m = (.ok result, m')) :
    ∃ settled built,
      (runFrom (options.settle m.environ) m).1 = .ok settled ∧ result.built? = some built ∧
      (settled.config.multiVariant = true → ∀ d ∈ built.links, d.isLibrary = false) ∧
      (settled.paths.packageName ≠ "" →
        (∀ dest ∈ options.stagingDir?, ¬IsStagedAt dest m.workingDir built.staged
          (built.metadata.resolve m.workingDir)) →
        ∃ record, runFrom (readRecord built.metadata none) m' = (.ok record, m') ∧
          ∀ artifacts ∈ built.sets, ∃ told,
            record.artifacts artifacts.variant (some settled.config.target) = .ok told ∧
            told.AgreesWith settled.config artifacts ∧
            (settled.config.multiVariant = false →
              settled.config.librarySuffixes = settled.config.target.librarySuffixes →
              built.links = consumerLinks told.artifacts ++ systemLinks settled.config)) := by
  rw [runFrom_runPipeline, quiet] at returned
  obtain ⟨settled, m₁, generating, finishing⟩ := runFrom_bind_eq_ok.mp returned
  obtain ⟨built, m₂, building, ended⟩ := runFrom_bind_eq_ok.mp finishing
  cases ended
  obtain ⟨m₃, m₄, surface, settling, _⟩ := Options.generate_eq_ok generating
  obtain ⟨file, _, settles, _⟩ := Options.settle_eq_ok_iff.mp settling
  obtain ⟨⟨source, sourceProper, atSource⟩, out, outProper, atOut⟩ :=
    settles.exists_proper spelled proper
  have here := Options.workingDir_of_generate generating
  obtain ⟨variants, channel, inMode, builds, stays, recorded⟩ := buildVariants_eq_ok building
  rw [here] at builds recorded
  rw [← builds.metadata] at recorded
  have headers := (settle_eq_ok settling).1
  refine ⟨settled, built, by rw [settling], rfl, ?_, fun named apart => ?_⟩
  · intro multi d inside
    rw [builds.links] at inside
    exact isLibrary_buildLinks multi inside
  · rw [← builds.holds.named] at named
    refine ⟨_, runFrom_readRecord_of_offers named (recorded apart), ?_⟩
    intro artifacts inside
    rw [builds.sets] at inside
    obtain ⟨v, isVariant, rfl⟩ := List.mem_map.mp inside
    obtain ⟨told, found, agrees⟩ := builds.exists_told headers sourceProper outProper atSource
      atOut isVariant
    refine ⟨told, found, agrees, fun single sameSuffixes => ?_⟩
    rw [single] at inMode
    cases inMode
    rw [List.mem_singleton.mp isVariant] at agrees
    rw [builds.links, builds.sets]
    exact buildLinks_single single agrees.libDir (agrees.whole.mpr sameSuffixes)
      (List.cons_ne_nil _ _)

/-- The default variant is built, and a consumer links what the build links. -/
theorem consumers_smallProject :
    ∃ result m', Path.IsProper (smallProject []).workingDir ∧ Options.default.IsSpelled ∧
      (smallProject []).environ.docsSignal? = none ∧
      runFrom (runPipeline .default) (smallProject []) = (.ok result, m') ∧
      ∃ settled built record,
        (runFrom (Options.default.settle (smallProject []).environ) (smallProject [])).1 =
          .ok settled ∧
        result.built? = some built ∧ built.sets.length = 1 ∧
        (settled.config.multiVariant = true → ∀ d ∈ built.links, d.isLibrary = false) ∧
        runFrom (readRecord built.metadata none) m' = (.ok record, m') ∧
        ∀ artifacts ∈ built.sets, ∃ told,
          record.artifacts artifacts.variant (some settled.config.target) = .ok told ∧
          told.AgreesWith settled.config artifacts ∧
          built.links = consumerLinks told.artifacts ++ systemLinks settled.config := by
  have proper : Path.IsProper (smallProject []).workingDir := by decide
  have spelled : Options.default.IsSpelled := ⟨by decide, by simp [Options.default]⟩
  have quiet : (smallProject []).environ.docsSignal? = none := by decide
  obtain ⟨result, m', ran⟩ := exists_of_isOk (x := runPipeline .default) (s := smallProject [])
    (by decide +kernel)
  obtain ⟨settled, built, settling, isBuilt, many, told⟩ :=
    runPipeline_consumers _ _ _ _ proper spelled quiet ran
  have counted : (runFrom (runPipeline .default) (smallProject [])).1.map
      (fun result => result.built?.map (·.sets.length)) = .ok (some 1) := by
    decide +kernel
  have known : (runFrom (Options.default.settle (smallProject []).environ) (smallProject [])).1.map
      (fun settled => (settled.paths.packageName, settled.config.multiVariant,
        settled.config.librarySuffixes, settled.config.target.librarySuffixes)) =
      .ok ("ggml-tooling", false, [], []) := by
    decide +kernel
  rw [ran] at counted
  rw [settling] at known
  simp only [Except.map, isBuilt, Option.map_some, Except.ok.injEq, Option.some.injEq,
    Prod.mk.injEq] at counted known
  obtain ⟨named, single, suffixes, platform⟩ := known
  have someName : settled.paths.packageName ≠ "" := by
    rw [named]
    decide
  obtain ⟨record, read, each⟩ := told someName fun _ none => nomatch none
  refine ⟨result, m', proper, spelled, quiet, ran, settled, built, record, settling, isBuilt,
    counted, many, read, fun artifacts inside => ?_⟩
  obtain ⟨told, found, agrees, linked⟩ := each artifacts inside
  exact ⟨told, found, agrees, linked single (suffixes.trans platform.symm)⟩

end NativeVariants
