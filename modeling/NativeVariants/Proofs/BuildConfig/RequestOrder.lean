import NativeVariants.Command
import NativeVariants.Link
import NativeVariants.Proofs.BuildConfig.Resolution
import NativeVariants.Proofs.Features
import NativeVariants.Proofs.Tables

set_option autoImplicit false

/-!
Builds do not depend on the order of what they are asked for. Names of features are as good in any
order, grouping, number and letter case, and variables of an environment in any order: what is made
of them is a choice out of a fixed list, and a sorted table (`resolve_anyOrder`).
-/

namespace NativeVariants

/-- The names of the features that are asked for, in lower case. -/
def BuildRequest.names (request : BuildRequest) : List String :=
  (Features.spellings request.features).map Text.lower

/-- Both ask for the same features in the same surroundings, each in its own order. -/
structure BuildRequest.AsksSame (request other : BuildRequest) : Prop where
  names : ∀ name, name ∈ other.names ↔ name ∈ request.names
  environ : ∀ key, other.environ.get? key = request.environ.get? key
  target : other.target = request.target
  multiVariant : other.multiVariant = request.multiVariant
  validate : other.validate = request.validate

namespace BuildConfig

/-- The same configuration, or a problem. The problem is the same one, except that each request is
answered with an unknown name of its own. -/
inductive SameOutcome : Except Problem BuildConfig → Except Problem BuildConfig → Prop where
  | resolved (config : BuildConfig) : SameOutcome (.ok config) (.ok config)
  | refused (problem : Problem) : SameOutcome (.error problem) (.error problem)
  | unknown (name name' : String) :
      SameOutcome (.error (.unknownFeature name Features.known))
        (.error (.unknownFeature name' Features.known))

theorem SameOutcome.refl (outcome : Except Problem BuildConfig) : SameOutcome outcome outcome := by
  cases outcome with
  | ok config => exact .resolved config
  | error problem => exact .refused problem

theorem SameOutcome.eq_of_ok {outcome outcome' : Except Problem BuildConfig}
    {config config' : BuildConfig} (same : SameOutcome outcome outcome')
    (first : outcome = .ok config) (second : outcome' = .ok config') : config = config' := by
  cases same with
  | resolved config => exact Except.ok.inj (first.symm.trans second)
  | refused problem => cases first
  | unknown name name' => cases first

/-- The variables that a configuration may take something from. -/
def IsConsulted (key : String) : Prop :=
  isForwarded key = true ∨ key ∈ optionalVariables ∨ ∃ b : Backend, b.kitVariable? = some key

section Environment

variable {environ other : Environ}

theorem nonEmpty?_congr {key : String} (same : other.get? key = environ.get? key) :
    other.nonEmpty? key = environ.nonEmpty? key := by
  unfold Environ.nonEmpty?
  rw [same]

theorem presentInputs_congr {keys : List String}
    (same : ∀ key ∈ keys, other.get? key = environ.get? key) :
    presentInputs other keys = presentInputs environ keys :=
  List.filterMap_congr fun key inside => by rw [nonEmpty?_congr (same key inside)]

variable (same : ∀ key, IsConsulted key → other.get? key = environ.get? key)
include same

theorem requiredInput_congr (target : Target) :
    requiredInput other target = requiredInput environ target := by
  funext b
  unfold requiredInput
  cases kit : b.kitVariable? with
  | none => rfl
  | some key => simp only [nonEmpty?_congr (same key (.inr (.inr ⟨b, kit⟩)))]

theorem forwarded_congr :
    (Table.filter isForwarded other).sorted = (Table.filter isForwarded environ).sorted := by
  apply Table.sorted_eq_of_perm
  refine Table.perm_of_get? fun key value => ?_
  by_cases isDefine : isForwarded key = true
  · rw [Table.get?_filter_of_keep isDefine, Table.get?_filter_of_keep isDefine,
      same key (.inl isDefine)]
  · rw [Table.get?_filter_of_not_keep isDefine, Table.get?_filter_of_not_keep isDefine]

end Environment

/-- The features meet the same demands where the variables that matter are the same. -/
theorem ofFeatures_environ {request : BuildRequest} {other : Environ}
    (same : ∀ key, IsConsulted key → other.get? key = request.environ.get? key) :
    ofFeatures { request with environ := other } = ofFeatures request := by
  funext features
  have kits : presentInputs other (features.backends.filterMap (·.kitVariable?)) =
      presentInputs request.environ (features.backends.filterMap (·.kitVariable?)) := by
    refine presentInputs_congr fun key inside => ?_
    obtain ⟨b, _, kit⟩ := List.mem_filterMap.mp inside
    exact same key (.inr (.inr ⟨b, kit⟩))
  have optional : presentInputs other optionalVariables =
      presentInputs request.environ optionalVariables :=
    presentInputs_congr fun key inside => same key (.inr (.inl inside))
  unfold ofFeatures backendInputs
  simp only [kits, optional, requiredInput_congr same, forwarded_congr same]

section Requests

variable {request other : BuildRequest} (same : request.AsksSame other)
include same

theorem ofFeatures_congr : ofFeatures other = ofFeatures request := by
  rw [← ofFeatures_environ fun key _ => same.environ key]
  funext features
  unfold ofFeatures backendInputs
  rw [same.validate, same.target, same.multiVariant]

theorem allKnown_congr : Features.AllKnown other.features ↔ Features.AllKnown request.features := by
  have asNames (r : BuildRequest) :
      Features.AllKnown r.features ↔ ∀ name ∈ r.names, name ∈ Features.known := by
    simp [Features.AllKnown, BuildRequest.names]
  rw [asNames, asNames]
  simp only [same.names]

theorem sameOutcome_of_asksSame : SameOutcome (resolve request) (resolve other) := by
  rw [resolve_eq_bind, resolve_eq_bind, same.target, ofFeatures_congr same]
  by_cases unnamed : request.target.triple = ""
  · rw [if_pos unnamed, if_pos unnamed]
    exact .refl _
  · rw [if_neg unnamed, if_neg unnamed]
    by_cases known : Features.AllKnown request.features
    · have sameFeatures : Features.ofNames other.names = Features.ofNames request.names :=
        Features.ofNames_congr same.names
      unfold BuildRequest.names at sameFeatures
      rw [Features.parse_of_allKnown known,
        Features.parse_of_allKnown ((allKnown_congr same).mpr known), sameFeatures]
      exact .refl _
    · obtain ⟨name, _, _, refused⟩ := Features.parse_of_not_allKnown known
      obtain ⟨name', _, _, refused'⟩ :=
        Features.parse_of_not_allKnown (mt (allKnown_congr same).mp known)
      rw [refused, refused']
      exact .unknown name name'

end Requests

/-- Requests for the same features in the same surroundings, in whatever order and spelling, are
both refused or lead to one configuration; so every variant is configured by the same command, has
the same libraries, and needs the same ones of the system, in the same order. -/
theorem resolve_anyOrder (request other : BuildRequest) (same : request.AsksSame other) :
    SameOutcome (resolve request) (resolve other) ∧
      ∀ config config', resolve request = .ok config → resolve other = .ok config' →
        config = config' ∧
        (∀ (v : Variant) (tool : String) (sourceDir buildDir installDir : Path),
          Command.configure tool sourceDir buildDir
              (Defines.ofVariant config v installDir.display) =
            Command.configure tool sourceDir buildDir
              (Defines.ofVariant config' v installDir.display)) ∧
        (∀ v : Variant, v.libraryNames config.librarySuffixes =
          v.libraryNames config'.librarySuffixes) ∧
        systemLinks config = systemLinks config' := by
  have outcome := sameOutcome_of_asksSame same
  refine ⟨outcome, fun config config' first second => ?_⟩
  obtain rfl := outcome.eq_of_ok first second
  exact ⟨rfl, fun _ _ _ _ _ => rfl, fun _ => rfl, rfl⟩

def twoBackends : BuildRequest where
  features := ["openblas, CUDA"]
  target := ⟨"x86_64-unknown-linux-gnu"⟩
  multiVariant := false
  environ := .ofList [("BLAS_INCLUDE_DIRS", "/blas"), ("GGML_NATIVE", "OFF")]
  validate := true

def twoBackendsAgain : BuildRequest :=
  { twoBackends with
    features := ["cuda", "OpenBLAS cuda"]
    environ := .ofList [("GGML_NATIVE", "OFF"), ("BLAS_INCLUDE_DIRS", "/blas")] }

theorem anyOrder_twoBackends :
    twoBackends.AsksSame twoBackendsAgain ∧
    ∃ config, resolve twoBackends = .ok config ∧ resolve twoBackendsAgain = .ok config ∧
      config.librarySuffixes = ["cuda", "blas"] := by
  have same : twoBackends.AsksSame twoBackendsAgain := by
    refine ⟨?_, ?_, rfl, rfl, rfl⟩
    · have first : twoBackends.names = ["openblas", "cuda"] := by decide +kernel
      have second : twoBackendsAgain.names = ["cuda", "openblas", "cuda"] := by decide +kernel
      intro name
      rw [first, second]
      simp [or_comm]
    · have swapped : twoBackends.environ.entries.Perm twoBackendsAgain.environ.entries :=
        .swap _ _ _
      exact fun key => (Table.get?_eq_of_perm swapped key).symm
  have resolved : (resolve twoBackends).map librarySuffixes = .ok ["cuda", "blas"] := by
    decide +kernel
  obtain ⟨outcome, _⟩ := resolve_anyOrder _ _ same
  generalize resolve twoBackends = result, resolve twoBackendsAgain = again at outcome resolved ⊢
  cases outcome with
  | resolved config => exact ⟨same, config, rfl, rfl, Except.ok.inj resolved⟩
  | refused problem => cases resolved
  | unknown name name' => cases resolved

end BuildConfig

end NativeVariants
