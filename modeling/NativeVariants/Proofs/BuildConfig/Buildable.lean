import NativeVariants.Proofs.Build.Problems
import NativeVariants.Proofs.BuildConfig.Inputs
import NativeVariants.Proofs.Features.Grouping

set_option autoImplicit false

/-!
Which requests can be built. The conditions are those on the features that are asked for, each with
what it needs of the target and of the environment (`BuildRequest.IsBuildable`); a request that does
not meet them is refused, and one that does leads to a configuration with nothing else of the
environment than it has to have (`resolve_buildable`).
-/

namespace NativeVariants
open Features

/-! ### Targets and environments -/

theorem occursIn_iff {part text : List Char} : occursIn part text = true ↔ part <:+: text := by
  induction text with
  | nil => simp [occursIn]
  | cons c rest ih => rw [occursIn, Bool.or_eq_true, List.isPrefixOf_iff_prefix, ih,
      List.infix_cons_iff]

namespace Target

def Has (target : Target) (word : String) : Prop := word.toList <:+: target.triple.toList

variable {target : Target}

theorem isWindows_iff : target.isWindows = true ↔ target.Has "windows" := occursIn_iff

theorem isApple_iff : target.isApple = true ↔ target.Has "apple" := occursIn_iff

theorem family_eq_apple_iff :
    target.family = .apple ↔ target.Has "apple" ∧ ¬target.Has "windows" := by
  rw [← isWindows_iff, ← isApple_iff, family]
  by_cases windows : target.isWindows = true
  · simp [windows]
  · by_cases apple : target.isApple = true
    · simp [windows, apple]
    · simp [windows, apple]

theorem family_eq_other_iff :
    target.family = .other ↔ ¬target.Has "windows" ∧ ¬target.Has "apple" := by
  rw [← isWindows_iff, ← isApple_iff, family]
  by_cases windows : target.isWindows = true
  · simp [windows]
  · by_cases apple : target.isApple = true
    · simp [windows, apple]
    · simp [windows, apple]

end Target

namespace Environ

theorem nonEmpty?_eq_some_iff {environ : Environ} {key value : String} :
    environ.nonEmpty? key = some value ↔ environ.get? key = some value ∧ value ≠ "" := by
  unfold nonEmpty?
  rw [Option.filter_eq_some_iff, decide_eq_true_eq]

def HasValue (environ : Environ) (key : String) : Prop :=
  ∃ value, environ.get? key = some value ∧ value ≠ ""

theorem isSome_nonEmpty?_iff {environ : Environ} {key : String} :
    (environ.nonEmpty? key).isSome = true ↔ environ.HasValue key := by
  rw [Option.isSome_iff_exists]
  exact exists_congr fun value => nonEmpty?_eq_some_iff

end Environ

/-! ### The conditions -/

namespace BuildRequest

/-- Nothing that is asked for is unknown, excludes another feature, or lacks what it needs. -/
structure IsBuildable (request : BuildRequest) : Prop where
  target : request.target.triple ≠ ""
  known : ∀ name, Asks request.features name → name ∈ known
  compilers : ¬(Asks request.features "hipblas" ∧ Asks request.features "intel-sycl")
  metal : Asks request.features "metal" →
    request.target.Has "apple" ∧ ¬request.target.Has "windows"
  openblas : Asks request.features "openblas" → request.environ.HasValue "BLAS_INCLUDE_DIRS"
  vulkan : Asks request.features "vulkan" → request.environ.HasValue "VULKAN_SDK" ∨
    ¬request.target.Has "windows" ∧ ¬request.target.Has "apple"

/-- The variables whose values become inputs of a build. -/
def Captures (request : BuildRequest) (key : String) : Prop :=
  key = "BLAS_INCLUDE_DIRS" ∧ Asks request.features "openblas" ∨
    key = "VULKAN_SDK" ∧ Asks request.features "vulkan" ∧
      (request.target.Has "windows" ∨ request.target.Has "apple") ∨
    key = "AMDGPU_TARGETS" ∨ key = "OPENBLAS_PATH"

end BuildRequest

def IsDefineKey (key : String) : Prop :=
  ("GGML_".toList <+: key.toList ∨ "CMAKE_".toList <+: key.toList) ∧
    ¬"GGML_TOOLING_".toList <+: key.toList

theorem isForwarded_iff {key : String} : isForwarded key = true ↔ IsDefineKey key := by
  unfold isForwarded IsDefineKey String.isPrefixOf
  simp only [Bool.and_eq_true, Bool.or_eq_true, Bool.not_eq_true', ← Bool.not_eq_true,
    String.startsWith_string_iff]

/-- The inputs are the non-empty values of the variables that are captured, and the forwarded values
are those under the keys of defines; both are sorted by their keys. -/
structure BuildConfig.TakesFrom (config : BuildConfig) (request : BuildRequest) : Prop where
  inputs : ∀ key value, (key, value) ∈ config.inputs.entries ↔
    (key, value) ∈ request.environ.entries ∧ value ≠ "" ∧ request.Captures key
  sortedInputs : config.inputs.entries.Pairwise fun a b => a.1 < b.1
  forwarded : ∀ key value, (key, value) ∈ config.forwarded.entries ↔
    (key, value) ∈ request.environ.entries ∧ IsDefineKey key
  sortedForwarded : config.forwarded.entries.Pairwise fun a b => a.1 < b.1

namespace BuildConfig

theorem checkCompilers_ofNames_iff {names : List String} :
    checkCompilers (ofNames names) = .ok () ↔ ¬("hipblas" ∈ names ∧ "intel-sycl" ∈ names) := by
  have choosing : (ofNames names).backends.filter (·.compilers?.isSome) =
      [Backend.hipblas, .intelSycl].filter (·.name ∈ names) := by
    rw [ofNames, List.filter_comm]
    rfl
  unfold checkCompilers
  rw [choosing]
  by_cases hip : "hipblas" ∈ names
  · by_cases sycl : "intel-sycl" ∈ names
    · simp [hip, sycl, Backend.name]
    · simp [hip, sycl, Backend.name]
  · by_cases sycl : "intel-sycl" ∈ names
    · simp [hip, sycl, Backend.name]
    · simp [hip, sycl, Backend.name]

variable {request : BuildRequest}

theorem forall_isMet_iff :
    (∀ b : Backend, Asks request.features b.name → IsMet request.environ request.target b) ↔
      (Asks request.features "metal" →
        request.target.Has "apple" ∧ ¬request.target.Has "windows") ∧
      (Asks request.features "openblas" → request.environ.HasValue "BLAS_INCLUDE_DIRS") ∧
      (Asks request.features "vulkan" → request.environ.HasValue "VULKAN_SDK" ∨
        ¬request.target.Has "windows" ∧ ¬request.target.Has "apple") := by
  rw [← Target.family_eq_apple_iff, ← Target.family_eq_other_iff]
  simp only [← Environ.isSome_nonEmpty?_iff]
  constructor
  · intro met
    refine ⟨fun asked => (met .metal asked).family rfl, fun asked => ?_, fun asked => ?_⟩
    · exact (met .openblas asked).kit _ (Backend.demand?_eq_some_iff.mpr (.inl ⟨rfl, rfl⟩))
    · by_cases isOther : request.target.family = .other
      · exact .inr isOther
      · exact .inl ((met .vulkan asked).kit _
          (Backend.demand?_eq_some_iff.mpr (.inr ⟨rfl, rfl, isOther⟩)))
  · rintro ⟨metal, openblas, vulkan⟩ b asked
    refine ⟨fun appleOnly => ?_, fun key demanded => ?_⟩
    · cases b with
      | metal => exact metal asked
      | _ => cases appleOnly
    · rcases Backend.demand?_eq_some_iff.mp demanded with ⟨rfl, rfl⟩ | ⟨rfl, rfl, notOther⟩
      · exact openblas asked
      · exact (vulkan asked).resolve_right notOther

theorem isBuildable_iff : request.IsBuildable ↔ request.target.triple ≠ "" ∧
    AllKnown request.features ∧
    checkCompilers (ofNames ((spellings request.features).map Text.lower)) = .ok () ∧
    ∀ b ∈ (ofNames ((spellings request.features).map Text.lower)).backends,
      IsMet request.environ request.target b := by
  simp only [mem_backends_iff, forall_isMet_iff, checkCompilers_ofNames_iff, allKnown_iff,
    ← asks_iff]
  constructor
  · rintro ⟨target, known, compilers, metal, openblas, vulkan⟩
    exact ⟨target, known, compilers, metal, openblas, vulkan⟩
  · rintro ⟨target, known, compilers, metal, openblas, vulkan⟩
    exact ⟨target, known, compilers, metal, openblas, vulkan⟩

theorem resolve_isOk_iff (validated : request.validate = true) :
    (∃ config, resolve request = .ok config) ↔ request.IsBuildable := by
  rw [isBuildable_iff, ← ofFeatures_isOk_iff validated]
  simp only [resolve_eq_ok_iff, parse_eq_ok_iff]
  constructor
  · rintro ⟨config, named, _, ⟨allKnown, rfl⟩, made⟩
    exact ⟨named, allKnown, config, made⟩
  · rintro ⟨named, allKnown, config, made⟩
    exact ⟨config, named, _, ⟨allKnown, rfl⟩, made⟩

/-- With validation a variable is taken along if a backend cannot do without it. -/
theorem mem_captured_iff {config : BuildConfig} (validated : request.validate = true)
    (resolved : resolve request = .ok config) {key : String} :
    key ∈ config.features.backends.filterMap request.kit? ++ optionalVariables ↔
      request.Captures key := by
  obtain ⟨_, _, parsed, _⟩ := resolve_eq_ok resolved
  obtain ⟨_, same⟩ := parse_eq_ok_iff.mp parsed
  have ofBackend : key ∈ config.features.backends.filterMap request.kit? ↔
      ∃ b : Backend, Asks request.features b.name ∧ b.demand? request.target.family = some key := by
    rw [List.mem_filterMap, same]
    simp only [mem_backends_iff, BuildRequest.kit?, validated, if_true]
  have notOther : request.target.Has "windows" ∨ request.target.Has "apple" ↔
      request.target.family ≠ .other := by
    rw [Ne, Target.family_eq_other_iff, not_and_or, not_not, not_not]
  rw [List.mem_append, ofBackend, BuildRequest.Captures, notOther, ← or_assoc]
  refine or_congr ?_ (by simp [optionalVariables])
  simp only [Backend.demand?_eq_some_iff]
  constructor
  · rintro ⟨b, asked, ⟨rfl, rfl⟩ | ⟨rfl, rfl, notOther⟩⟩
    · exact .inl ⟨rfl, asked⟩
    · exact .inr ⟨rfl, asked, notOther⟩
  · rintro (⟨rfl, asked⟩ | ⟨rfl, asked, notOther⟩)
    · exact ⟨.openblas, asked, .inl ⟨rfl, rfl⟩⟩
    · exact ⟨.vulkan, asked, .inr ⟨rfl, rfl, notOther⟩⟩

theorem takesFrom_of_resolve {config : BuildConfig} (validated : request.validate = true)
    (resolved : resolve request = .ok config) : config.TakesFrom request where
  inputs key value := by
    rw [← Table.get?_eq_some_iff, ← Table.get?_eq_some_iff, get?_inputs resolved]
    by_cases captured : request.Captures key
    · rw [if_pos ((mem_captured_iff validated resolved).mpr captured),
        Environ.nonEmpty?_eq_some_iff]
      exact and_congr_right fun _ => (and_iff_left captured).symm
    · rw [if_neg (mt (mem_captured_iff validated resolved).mp captured)]
      simp [captured]
  sortedInputs := pairwise_inputs resolved
  forwarded key value := by
    have forwarded := forwarded_of_resolve resolved
    rw [forwarded, (Table.sorted_perm _).mem_iff, ← isForwarded_iff]
    exact List.mem_filter
  sortedForwarded := by
    rw [forwarded_of_resolve resolved]
    exact Table.pairwise_lt_sorted _

/-- With validation a request leads to a configuration exactly if it can be built, and is refused
otherwise. What the configuration has of the environment is what its features need, the optional
inputs, and all that has the form of a define. -/
theorem resolve_buildable (request : BuildRequest) (validated : request.validate = true) :
    ((∃ config, resolve request = .ok config) ↔ request.IsBuildable) ∧
    (¬request.IsBuildable → ∃ problem, resolve request = .error problem ∧
      problem.report.failureClass = .configuration) ∧
    ∀ config, resolve request = .ok config → config.TakesFrom request := by
  refine ⟨resolve_isOk_iff validated, fun unbuildable => ?_,
    fun config resolved => takesFrom_of_resolve validated resolved⟩
  cases outcome : resolve request with
  | ok config => exact absurd ((resolve_isOk_iff validated).mp ⟨config, outcome⟩) unbuildable
  | error problem => exact ⟨problem, rfl, (failsOnly_resolve request problem outcome).1⟩

def vulkanKitRequest : BuildRequest where
  features := ["Vulkan, openmp"]
  target := ⟨"x86_64-pc-windows-msvc"⟩
  multiVariant := false
  environ := .ofList [("VULKAN_SDK", "C:/sdk"), ("BLAS_INCLUDE_DIRS", "C:/blas"),
    ("AMDGPU_TARGETS", ""), ("GGML_NATIVE", "OFF"), ("GGML_TOOLING_DOCS_ONLY", "1")]
  validate := true

/-- The kit is taken along and the define is forwarded, and nothing else. -/
theorem resolve_vulkanKitRequest :
    ∃ config, resolve vulkanKitRequest = .ok config ∧ vulkanKitRequest.IsBuildable ∧
      config.TakesFrom vulkanKitRequest ∧
      config.inputs.entries = [("VULKAN_SDK", "C:/sdk")] ∧
      config.forwarded.entries = [("GGML_NATIVE", "OFF")] := by
  have taken : (resolve vulkanKitRequest).toOption.map
      (fun config => (config.inputs.entries, config.forwarded.entries)) =
      some ([("VULKAN_SDK", "C:/sdk")], [("GGML_NATIVE", "OFF")]) := by
    decide +kernel
  cases resolved : resolve vulkanKitRequest with
  | error problem =>
      rw [resolved] at taken
      cases taken
  | ok config =>
      obtain ⟨buildable, _, takesFrom⟩ := resolve_buildable vulkanKitRequest rfl
      rw [resolved] at taken
      obtain ⟨inputs, forwarded⟩ := Prod.mk.inj (Option.some.inj taken)
      exact ⟨config, rfl, buildable.mp ⟨config, resolved⟩, takesFrom config resolved, inputs,
        forwarded⟩

end BuildConfig

end NativeVariants
