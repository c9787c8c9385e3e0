import NativeVariants.Build.Variant
import NativeVariants.Link
import NativeVariants.Proofs.BuildConfig.Resolution
import NativeVariants.Proofs.Features
import NativeVariants.Proofs.Tables

set_option autoImplicit false

/-!
Backends that are listed and backends that are switched on. The libraries of a build are listed by
its features alone, but the define that switches a backend on gives way to a variable of the same
name. So the library of a backend is sure to be built if no such variable says otherwise, and only
then (`switches_on_iff`).
-/

namespace NativeVariants

/-- A switch is neither pinned nor taken away. -/
theorem Defines.get?_ofVariant_switch (config : BuildConfig) (v : Variant) (installDir : String)
    (b : Backend) :
    (ofVariant config v installDir).get? b.switch =
      ((Table.ofList base).setAll config.defines.entries).get? b.switch := by
  have unpinnedKey : b.switch ∉ (pinned v installDir).map (·.1) := by
    unfold pinned
    split <;> cases b <;> simp [Backend.switch, nameKey]
  have otherKey : b.switch ≠ nameKey := by cases b <;> decide
  unfold ofVariant
  rw [Table.get?_setAll_of_not_mem unpinnedKey]
  unfold unpinned
  split
  · rfl
  · exact Table.get?_erase_of_ne otherKey

namespace BuildConfig

variable {config : BuildConfig}

/-- What the features and the platform have defined before anything is forwarded. -/
def ownDefines (config : BuildConfig) : List (String × String) :=
  config.features.backends.flatMap Backend.defines ++ config.platformDefines

theorem defines_eq (config : BuildConfig) :
    config.defines = (Table.ofList config.ownDefines).setAll config.forwarded.entries :=
  Table.setAll_append _ _ _

theorem switch_not_mem_defines {b b' : Backend} (apart : b' ≠ b) :
    b.switch ∉ b'.defines.map (·.1) := by
  revert apart
  cases b <;> cases b' <;> decide

theorem on_of_mem_defines {b b' : Backend} {value : String}
    (isDefine : (b.switch, value) ∈ b'.defines) : value = "ON" := by
  obtain rfl : b' = b := by
    by_contra apart
    exact switch_not_mem_defines apart (List.mem_map_of_mem isDefine)
  have onlyOn : ∀ entry ∈ b'.defines, entry.1 = b'.switch → entry.2 = "ON" := by
    cases b' <;> decide
  exact onlyOn _ isDefine rfl

theorem key_of_mem_platformDefines {entry : String × String}
    (inside : entry ∈ config.platformDefines) :
    entry.1 = "GGML_METAL" ∧ config.has .metal = false ∨
      entry.1 ∈ ["GGML_OPENMP", "BLAS_INCLUDE_DIRS", "AMDGPU_TARGETS", "CMAKE_CXX_FLAGS"] := by
  unfold platformDefines at inside
  simp only [List.mem_append] at inside
  rcases inside with (((metal | openmp) | blas) | gpus) | flags
  · split at metal
    · rename_i apart
      obtain rfl := List.mem_singleton.mp metal
      exact .inl ⟨rfl, by simp_all⟩
    · cases metal
  · split at openmp
    · cases openmp
    · obtain rfl := List.mem_singleton.mp openmp
      exact .inr (by decide)
  · split at blas
    · obtain rfl := List.mem_singleton.mp blas
      exact .inr (by simp)
    · cases blas
  · split at gpus
    · split at gpus
      · obtain rfl := List.mem_singleton.mp gpus
        exact .inr (by simp)
      · cases gpus
    · cases gpus
  · split at flags
    · obtain rfl := List.mem_singleton.mp flags
      exact .inr (by decide)
    · cases flags

theorem switch_not_mem_platformDefines {b : Backend}
    (unsaid : config.has b = true ∨ b ≠ .metal) : b.switch ∉ config.platformDefines.map (·.1) := by
  intro inside
  obtain ⟨entry, isDefine, same⟩ := List.mem_map.mp inside
  rcases key_of_mem_platformDefines isDefine with ⟨isMetal, disabled⟩ | other
  · cases b <;> simp_all [Backend.switch]
  · rw [same] at other
    revert other
    cases b <;> decide

theorem get?_ownDefines_of_has {b : Backend} (enabled : config.has b = true) :
    (Table.ofList config.ownDefines).get? b.switch = some "ON" := by
  unfold ownDefines
  apply Table.get?_setAll_of_forall
  · rw [List.map_append]
    apply List.mem_append_left
    refine List.mem_map.mpr ⟨(b.switch, "ON"), ?_, rfl⟩
    exact List.mem_flatMap.mpr ⟨b, of_decide_eq_true enabled, List.mem_cons_self⟩
  · intro value inside
    rcases List.mem_append.mp inside with ofBackend | ofPlatform
    · obtain ⟨b', _, isDefine⟩ := List.mem_flatMap.mp ofBackend
      exact on_of_mem_defines isDefine
    · have isKey : b.switch ∈ config.platformDefines.map (·.1) := List.mem_map_of_mem ofPlatform
      exact absurd isKey (switch_not_mem_platformDefines (.inl enabled))

theorem get?_ownDefines_of_not_has {b : Backend} (disabled : config.has b = false)
    (notMetal : b ≠ .metal) : (Table.ofList config.ownDefines).get? b.switch = none := by
  unfold Table.ofList ownDefines
  rw [Table.get?_setAll_of_not_mem]
  · rfl
  · intro inside
    rw [List.map_append, List.mem_append, List.map_flatMap, List.mem_flatMap] at inside
    rcases inside with ⟨b', enabled, isKey⟩ | ofPlatform
    · refine switch_not_mem_defines ?_ isKey
      rintro rfl
      exact of_decide_eq_false disabled enabled
    · exact switch_not_mem_platformDefines (.inr notMetal) ofPlatform

theorem get?_defines (config : BuildConfig) (key : String) :
    config.defines.get? key =
      (config.forwarded.get? key).or ((Table.ofList config.ownDefines).get? key) := by
  rw [defines_eq, Table.get?_setAll_entries]

theorem get?_forwarded {request : BuildRequest} (resolved : resolve request = .ok config)
    {key : String} (isDefine : isForwarded key = true) :
    config.forwarded.get? key = request.environ.get? key := by
  rw [forwarded_of_resolve resolved, Table.get?_eq_of_perm (Table.sorted_perm _),
    Table.get?_filter_of_keep isDefine]

theorem mem_librarySuffixes_iff {suffix : String} :
    suffix ∈ config.librarySuffixes ↔
      (∃ b, config.has b = true ∧ b.suffix = suffix) ∨ suffix ∈ config.target.librarySuffixes := by
  have ofBackends : suffix ∈ config.features.suffixes ↔
      ∃ b, config.has b = true ∧ b.suffix = suffix := by
    simp [Features.suffixes, has, Features.has]
  unfold librarySuffixes
  rw [List.mem_append, List.mem_filter, ← ofBackends]
  by_cases listed : suffix ∈ config.features.suffixes
  · exact iff_of_true (.inl listed) (.inl listed)
  · simp [listed]

theorem exists_of_mem_librarySuffixes {suffix : String}
    (listed : suffix ∈ config.librarySuffixes) : ∃ b : Backend, b.suffix = suffix := by
  rcases mem_librarySuffixes_iff.mp listed with ⟨b, _, same⟩ | ofTarget
  · exact ⟨b, same⟩
  · unfold Target.librarySuffixes at ofTarget
    split at ofTarget
    · exact ⟨.openblas, (List.mem_singleton.mp ofTarget).symm⟩
    · cases ofTarget

theorem eq_openblas_of_listed {b : Backend} (listed : b.suffix ∈ config.librarySuffixes)
    (disabled : config.has b = false) : b = .openblas := by
  rcases mem_librarySuffixes_iff.mp listed with ⟨b', enabled, same⟩ | ofTarget
  · obtain rfl := Backend.suffix_inj.mp same
    rw [disabled] at enabled
    cases enabled
  · unfold Target.librarySuffixes at ofTarget
    split at ofTarget
    · exact Backend.suffix_inj.mp (List.mem_singleton.mp ofTarget)
    · cases ofTarget

/-- The environment decides about the switch of a listed backend. If it leaves the switch open, an
enabled backend is switched on. -/
theorem get?_ofVariant_switch {request : BuildRequest} (resolved : resolve request = .ok config)
    {b : Backend} (listed : b.suffix ∈ config.librarySuffixes) (v : Variant) (installDir : String) :
    (Defines.ofVariant config v installDir).get? b.switch =
      (request.environ.get? b.switch).or (if config.has b then some "ON" else none) := by
  have isDefine : isForwarded b.switch = true := by cases b <;> decide +kernel
  have unsetBase : b.switch ∉ Defines.base.map (·.1) := by cases b <;> decide
  have own : (Table.ofList config.ownDefines).get? b.switch =
      if config.has b then some "ON" else none := by
    cases enabled : config.has b with
    | true => exact get?_ownDefines_of_has enabled
    | false =>
        refine get?_ownDefines_of_not_has enabled ?_
        rw [eq_openblas_of_listed listed enabled]
        decide
  rw [Defines.get?_ofVariant_switch, Table.get?_setAll_entries, get?_defines,
    get?_forwarded resolved isDefine, own, Table.ofList, Table.get?_setAll_of_not_mem unsetBase]
  exact Option.or_none

end BuildConfig

/-- The library of the backend is among those of the build; it is linked, too, unless there are
variants to choose from. -/
structure Artifacts.Advertises (artifacts : Artifacts) (config : BuildConfig) (b : Backend) :
    Prop where
  listed : artifacts.basename ++ "-" ++ b.suffix ∈ artifacts.libraries
  linked : config.multiVariant = false →
    .library (artifacts.basename ++ "-" ++ b.suffix) ∈ buildLinks config [artifacts]

theorem Variant.advertises_of_listed {config : BuildConfig} {b : Backend}
    (listed : b.suffix ∈ config.librarySuffixes) (v : Variant) (sourceDir installDir : Path) :
    (v.artifacts config sourceDir installDir).Advertises config b := by
  have isLibrary : v.basename ++ "-" ++ b.suffix ∈ v.libraryNames config.librarySuffixes :=
    List.mem_cons_of_mem _ (List.mem_map_of_mem (List.mem_append_right _ listed))
  refine ⟨isLibrary, fun single => ?_⟩
  unfold buildLinks
  rw [single]
  apply List.mem_append_left
  simpa [artifacts] using isLibrary

/-- A library of a build is the primary one, a module of every build or the library of a listed
backend. -/
theorem Variant.mem_libraries {config : BuildConfig} {v : Variant} {sourceDir installDir : Path}
    {name : String} (inside : name ∈ (v.artifacts config sourceDir installDir).libraries) :
    name = v.basename ∨ (∃ part ∈ coreModules, name = v.basename ++ "-" ++ part) ∨
      ∃ b : Backend, b.suffix ∈ config.librarySuffixes ∧ name = v.basename ++ "-" ++ b.suffix := by
  rcases List.mem_cons.mp inside with primary | isModule
  · exact .inl primary
  · obtain ⟨part, isPart, rfl⟩ := List.mem_map.mp isModule
    rcases List.mem_append.mp isPart with core | suffix
    · exact .inr (.inl ⟨part, core, rfl⟩)
    · obtain ⟨b, rfl⟩ := BuildConfig.exists_of_mem_librarySuffixes suffix
      exact .inr (.inr ⟨b, suffix, rfl⟩)

theorem Defines.mem_arguments {defines : Table String String} {key value : String}
    (found : defines.get? key = some value) : s!"-D{key}={value}" ∈ arguments defines :=
  List.mem_map.mpr ⟨(key, value), Table.mem_of_get?_eq_some found, rfl⟩

/-- The libraries of a build, other than the primary one and the modules of every build, are those
of the listed backends. Each of them is advertised. What the build is told about a listed backend is
what the environment says, or else that it is on if it is enabled; so every enabled backend is
switched on exactly if the environment has no other value for one of the switches. -/
theorem switches_on_iff (request : BuildRequest) (config : BuildConfig)
    (resolved : BuildConfig.resolve request = .ok config) (v : Variant)
    (sourceDir buildDir installDir : Path) (tool : String) :
    let artifacts := v.artifacts config sourceDir installDir
    let defines := Defines.ofVariant config v installDir.display
    (∀ name ∈ artifacts.libraries, name = v.basename ∨
      (∃ part ∈ coreModules, name = v.basename ++ "-" ++ part) ∨
      ∃ b : Backend, b.suffix ∈ config.librarySuffixes ∧ name = v.basename ++ "-" ++ b.suffix) ∧
    (∀ b : Backend, b.suffix ∈ config.librarySuffixes → artifacts.Advertises config b ∧
      defines.get? b.switch =
        (request.environ.get? b.switch).or (if config.has b then some "ON" else none) ∧
      ∀ value, defines.get? b.switch = some value →
        s!"-D{b.switch}={value}" ∈ Command.configure tool sourceDir buildDir defines) ∧
    ((∀ b, config.has b = true → defines.get? b.switch = some "ON") ↔
      ∀ b, config.has b = true →
        ∀ value, request.environ.get? b.switch = some value → value = "ON") := by
  intro artifacts defines
  have passed (b : Backend) (listed : b.suffix ∈ config.librarySuffixes) : defines.get? b.switch =
      (request.environ.get? b.switch).or (if config.has b then some "ON" else none) :=
    BuildConfig.get?_ofVariant_switch resolved listed v _
  refine ⟨fun _ inside => Variant.mem_libraries inside, fun b listed => ?_, ?_⟩
  · refine ⟨v.advertises_of_listed listed _ _, passed b listed, fun value found => ?_⟩
    exact List.mem_append_right _ (Defines.mem_arguments found)
  · refine forall_congr' fun b => imp_congr_right fun enabled => ?_
    rw [passed b (BuildConfig.mem_librarySuffixes_iff.mpr (.inl ⟨b, enabled, rfl⟩)), enabled]
    cases request.environ.get? b.switch with
    | none => simp
    | some value => simp

def BuildRequest.ofSwitch (value : String) : BuildRequest where
  features := ["cuda"]
  target := ⟨"x86_64-unknown-linux-gnu"⟩
  multiVariant := false
  environ := .ofList [("GGML_CUDA", value)]
  validate := true

theorem BuildRequest.exists_resolve_ofSwitch (value : String)
    (shows : (BuildConfig.resolve (ofSwitch value)).map (·.features.backends) = .ok [.cuda]) :
    ∃ config, BuildConfig.resolve (ofSwitch value) = .ok config ∧
      ∀ b, config.has b = true ↔ b = .cuda := by
  cases resolved : BuildConfig.resolve (ofSwitch value) with
  | error problem =>
      rw [resolved] at shows
      cases shows
  | ok config =>
      rw [resolved] at shows
      have backends : config.features.backends = [.cuda] := Except.ok.inj shows
      refine ⟨config, rfl, fun b => ?_⟩
      simp [BuildConfig.has, Features.has, backends]

theorem switches_on_ofSwitch :
    ∃ config, BuildConfig.resolve (.ofSwitch "ON") = .ok config ∧ config.has .cuda = true ∧
      ∀ b, config.has b = true →
        (Defines.ofVariant config .default "/out").get? b.switch = some "ON" := by
  obtain ⟨config, resolved, onlyCuda⟩ :=
    BuildRequest.exists_resolve_ofSwitch "ON" (by decide +kernel)
  refine ⟨config, resolved, (onlyCuda _).mpr rfl, ?_⟩
  refine (switches_on_iff _ config resolved .default (.ofText "/ggml") (.ofText "/out/build")
    (.ofText "/out") "cmake").2.2.mpr ?_
  intro b enabled value found
  obtain rfl := (onlyCuda b).mp enabled
  exact (Option.some.inj found).symm

/-- The library of a backend is advertised although the build is told to leave it out. -/
theorem switch_off_ofSwitch :
    ∃ config, BuildConfig.resolve (.ofSwitch "OFF") = .ok config ∧ config.has .cuda = true ∧
      (Variant.default.artifacts config (.ofText "/ggml") (.ofText "/out")).Advertises
        config .cuda ∧
      (Defines.ofVariant config .default "/out").get? "GGML_CUDA" = some "OFF" ∧
      "-DGGML_CUDA=OFF" ∈ Command.configure "cmake" (.ofText "/ggml") (.ofText "/out/build")
        (Defines.ofVariant config .default "/out") := by
  obtain ⟨config, resolved, onlyCuda⟩ :=
    BuildRequest.exists_resolve_ofSwitch "OFF" (by decide +kernel)
  have enabled := (onlyCuda .cuda).mpr rfl
  have listed : Backend.cuda.suffix ∈ config.librarySuffixes :=
    BuildConfig.mem_librarySuffixes_iff.mpr (.inl ⟨_, enabled, rfl⟩)
  have switchedOff :=
    BuildConfig.get?_ofVariant_switch resolved listed .default "/out"
  refine ⟨config, resolved, enabled, Variant.default.advertises_of_listed listed _ _,
    switchedOff, ?_⟩
  exact List.mem_append_right _ (Defines.mem_arguments switchedOff)

end NativeVariants
