import NativeVariants.Link
import NativeVariants.Proofs.BuildConfig.Inputs

set_option autoImplicit false

/-!
Configurations of which nothing is required. Whatever can be built is resolved without validation as
well. The inputs may then be more than with it, but only by locations of kits that the platform has
no use for, so nothing that is made of the configuration tells the difference
(`resolve_unvalidated`).
-/

namespace NativeVariants

namespace BuildConfig

variable {request : BuildRequest} {config : BuildConfig}

def inEnviron (config : BuildConfig) (environ : Environ) : BuildConfig :=
  { config with
    inputs := (Table.ofList
      (presentInputs environ (config.features.backends.filterMap (·.kitVariable?)) ++
        presentInputs environ optionalVariables)).sorted
    forwarded := (environ.filter isForwarded).sorted }

theorem resolve_of_lenient (lenient : request.validate = false) :
    resolve request =
      if request.target.triple = "" then .error .missingTarget
      else (Features.parse request.features).map fun features =>
        inEnviron ⟨request.target, features, request.multiVariant, ∅, ∅⟩ request.environ := by
  unfold resolve backendInputs
  rw [lenient]
  by_cases unnamed : request.target.triple = ""
  · rw [if_pos unnamed, if_pos unnamed]
    rfl
  · rw [if_neg unnamed, if_neg unnamed]
    cases Features.parse request.features with
    | error problem => rfl
    | ok features => rfl

/-- In another environment, of which nothing is required either, only the inputs differ. -/
theorem resolve_inEnviron (lenient : request.validate = false) (environ : Environ) :
    resolve { request with environ } = (resolve request).map (·.inEnviron environ) := by
  rw [resolve_of_lenient lenient, resolve_of_lenient (by exact lenient)]
  split
  · rfl
  · cases Features.parse request.features with
    | error problem => rfl
    | ok features => rfl

/-- What can be built can be built if nothing is required. -/
theorem resolve_lenient (resolved : resolve request = .ok config) (environ : Environ) :
    resolve { request with environ, validate := false } = .ok (config.inEnviron environ) := by
  obtain ⟨named, target, parsed, multiVariant⟩ := resolve_eq_ok resolved
  rw [resolve_of_lenient rfl, if_neg named, parsed, ← target, ← multiVariant]
  rfl

/-! ### The same builds -/

section Lenient

variable (resolved : resolve request = .ok config)
include resolved

/-- The value of a variable is taken either way, unless it is the location of Vulkan's kit on a
platform where that is not needed. -/
theorem get?_inputs_inEnviron (key : String)
    (needed : key = "VULKAN_SDK" → config.target.family ≠ .other) :
    (config.inEnviron request.environ).inputs.get? key = config.inputs.get? key := by
  have family : config.target.family = request.target.family :=
    congrArg Target.family (resolve_eq_ok resolved).2.1
  rw [family] at needed
  have asked (b : Backend) : b.kitVariable? = some key ↔ request.kit? b = some key := by
    unfold BuildRequest.kit?
    split
    · rw [Backend.kitVariable?_eq_some_iff, Backend.demand?_eq_some_iff]
      exact or_congr_right (and_congr_right fun _ => (and_iff_left_of_imp needed).symm)
    · rfl
  have lenient := get?_inputs (resolve_lenient resolved request.environ) key
  rw [lenient, get?_inputs resolved]
  refine if_congr ?_ rfl rfl
  simp only [List.mem_append, List.mem_filterMap]
  exact or_congr_left (exists_congr fun b => and_congr_right fun _ => asked b)

theorem defines_inEnviron : (config.inEnviron request.environ).defines = config.defines := by
  have blas := get?_inputs_inEnviron resolved "BLAS_INCLUDE_DIRS" (by simp)
  have gpus := get?_inputs_inEnviron resolved "AMDGPU_TARGETS" (by simp)
  have forwarded : (config.inEnviron request.environ).forwarded = config.forwarded :=
    (forwarded_of_resolve resolved).symm
  unfold defines platformDefines
  rw [blas, gpus, forwarded]
  rfl

theorem searchBelow_inEnviron {key : String} (below : String)
    (needed : key = "VULKAN_SDK" → config.target.family ≠ .other) :
    searchBelow (config.inEnviron request.environ) key below = searchBelow config key below := by
  unfold searchBelow
  rw [get?_inputs_inEnviron resolved key needed]

/-- The location of Vulkan's kit is only looked at on platforms where it is needed. -/
theorem links_inEnviron (b : Backend) :
    b.links (config.inEnviron request.environ) = b.links config := by
  cases b with
  | openblas =>
      unfold Backend.links
      rw [searchBelow_inEnviron resolved "lib" (by simp)]
      rfl
  | vulkan =>
      have target : (config.inEnviron request.environ).target = config.target := rfl
      simp only [Backend.links, target]
      split
      · rename_i windows
        rw [searchBelow_inEnviron resolved "Lib" fun _ => by simp [Target.family, windows]]
      · rename_i windows
        split
        · rename_i apple
          rw [searchBelow_inEnviron resolved "lib" fun _ => by simp [Target.family, windows, apple]]
        · rfl
  | _ => rfl

theorem systemLinks_inEnviron :
    systemLinks (config.inEnviron request.environ) = systemLinks config := by
  unfold systemLinks
  simp only [links_inEnviron resolved]
  rfl

end Lenient

/-- If a request can be built it is resolved without validation, too, to a configuration with the
same target, features, mode and forwarded values; it leads to the same defines and libraries, and
the same libraries of the system are linked. -/
theorem resolve_unvalidated (request : BuildRequest) (config : BuildConfig)
    (resolved : resolve request = .ok config) :
    ∃ lenient, resolve { request with validate := false } = .ok lenient ∧
      lenient.target = config.target ∧ lenient.features = config.features ∧
      lenient.multiVariant = config.multiVariant ∧ lenient.forwarded = config.forwarded ∧
      lenient.defines = config.defines ∧ lenient.librarySuffixes = config.librarySuffixes ∧
      systemLinks lenient = systemLinks config :=
  ⟨config.inEnviron request.environ, resolve_lenient resolved request.environ, rfl, rfl, rfl,
    (forwarded_of_resolve resolved).symm, defines_inEnviron resolved, rfl,
    systemLinks_inEnviron resolved⟩

def vulkanRequest : BuildRequest where
  features := ["vulkan"]
  target := ⟨"x86_64-unknown-linux-gnu"⟩
  multiVariant := false
  environ := .ofList [("VULKAN_SDK", "/sdk"), ("GGML_NATIVE", "OFF")]
  validate := true

/-- Only without validation is the kit taken along, but it makes no difference. -/
theorem unvalidated_vulkanRequest :
    ∃ config lenient, resolve vulkanRequest = .ok config ∧
      resolve { vulkanRequest with validate := false } = .ok lenient ∧
      config.inputs.get? "VULKAN_SDK" = none ∧ lenient.inputs.get? "VULKAN_SDK" = some "/sdk" ∧
      lenient.defines = config.defines ∧ systemLinks lenient = systemLinks config := by
  have strict : (resolve vulkanRequest).toOption.map (·.inputs.get? "VULKAN_SDK") = some none := by
    decide +kernel
  have taken : (resolve { vulkanRequest with validate := false }).toOption.map
      (·.inputs.get? "VULKAN_SDK") = some (some "/sdk") := by
    decide +kernel
  cases resolved : resolve vulkanRequest with
  | error problem =>
      rw [resolved] at strict
      cases strict
  | ok config =>
      obtain ⟨lenient, again, _, _, _, _, defines, _, links⟩ :=
        resolve_unvalidated vulkanRequest config resolved
      rw [resolved] at strict
      rw [again] at taken
      exact ⟨config, lenient, rfl, again, Option.some.inj strict, Option.some.inj taken, defines,
        links⟩

end BuildConfig

end NativeVariants
