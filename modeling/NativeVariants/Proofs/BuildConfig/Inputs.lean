import NativeVariants.Proofs.BuildConfig.Resolution
import NativeVariants.Proofs.Tables

set_option autoImplicit false

/-!
What a configuration takes from the environment. A backend may need to be told where its kit is
installed. With validation the variables that say so have to be there where they are needed, and are
left out elsewhere; without it they are taken along wherever they are. So the inputs are the values
of certain variables, whichever way they were collected (`get?_inputs`).
-/

namespace NativeVariants

/-- The variable that a backend cannot do without on a platform. -/
def Backend.demand? (b : Backend) (family : Family) : Option String :=
  b.kitVariable?.filter fun _ => b.requiresVariableOn family

theorem Backend.kitVariable?_eq_some_iff {b : Backend} {key : String} :
    b.kitVariable? = some key ↔
      b = openblas ∧ key = "BLAS_INCLUDE_DIRS" ∨ b = vulkan ∧ key = "VULKAN_SDK" := by
  cases b <;> simp [kitVariable?, eq_comm]

/-- Only Vulkan can do without its kit, namely on platforms that have one of their own. -/
theorem Backend.demand?_eq_some_iff {b : Backend} {family : Family} {key : String} :
    b.demand? family = some key ↔ b = openblas ∧ key = "BLAS_INCLUDE_DIRS" ∨
      b = vulkan ∧ key = "VULKAN_SDK" ∧ family ≠ .other := by
  unfold demand?
  rw [Option.filter_eq_some_iff, kitVariable?_eq_some_iff]
  constructor
  · rintro ⟨⟨rfl, rfl⟩ | ⟨rfl, rfl⟩, required⟩
    · exact .inl ⟨rfl, rfl⟩
    · exact .inr ⟨rfl, rfl, of_decide_eq_true required⟩
  · rintro (⟨rfl, rfl⟩ | ⟨rfl, rfl, notOther⟩)
    · exact ⟨.inl ⟨rfl, rfl⟩, rfl⟩
    · exact ⟨.inr ⟨rfl, rfl⟩, decide_eq_true notOther⟩

/-- The variable that is taken along for a backend. -/
def BuildRequest.kit? (request : BuildRequest) (b : Backend) : Option String :=
  if request.validate then b.demand? request.target.family else b.kitVariable?

namespace BuildConfig

section Present

variable {environ : Environ} {keys : List String} {key value : String}

theorem mem_presentInputs_iff :
    (key, value) ∈ presentInputs environ keys ↔
      key ∈ keys ∧ environ.nonEmpty? key = some value := by
  unfold presentInputs
  rw [List.mem_filterMap]
  constructor
  · rintro ⟨other, inside, taken⟩
    obtain ⟨_, found, same⟩ := Option.map_eq_some_iff.mp taken
    cases same
    exact ⟨inside, found⟩
  · rintro ⟨inside, found⟩
    exact ⟨key, inside, by rw [found]; rfl⟩

theorem presentInputs_append (environ : Environ) (keys more : List String) :
    presentInputs environ (keys ++ more) =
      presentInputs environ keys ++ presentInputs environ more := List.filterMap_append

/-- What is looked up one by one is what is looked up for all. -/
theorem flatten_map_presentInputs {α : Type} (environ : Environ) (key? : α → Option String)
    (xs : List α) :
    (xs.map fun x => presentInputs environ (key? x).toList).flatten =
      presentInputs environ (xs.filterMap key?) := by
  induction xs with
  | nil => rfl
  | cons x rest ih =>
      rw [List.map_cons, List.flatten_cons, ih, ← presentInputs_append, List.filterMap_cons]
      cases key? x with
      | none => rfl
      | some key => rfl

theorem get?_ofList_presentInputs (environ : Environ) (keys : List String) (key : String) :
    (Table.ofList (presentInputs environ keys)).get? key =
      if key ∈ keys then environ.nonEmpty? key else none := by
  have absent (out : ∀ value, (key, value) ∉ presentInputs environ keys) :
      (Table.ofList (presentInputs environ keys)).get? key = none := by
    unfold Table.ofList
    rw [Table.get?_setAll_of_not_mem]
    · rfl
    · intro inside
      obtain ⟨⟨_, value⟩, isEntry, rfl⟩ := List.mem_map.mp inside
      exact out value isEntry
  split
  · rename_i inside
    cases found : environ.nonEmpty? key with
    | none =>
        refine absent fun value isEntry => ?_
        rw [(mem_presentInputs_iff.mp isEntry).2] at found
        cases found
    | some value =>
        apply Table.get?_setAll_of_forall
        · exact List.mem_map.mpr ⟨(key, value), mem_presentInputs_iff.mpr ⟨inside, found⟩, rfl⟩
        · intro other isEntry
          exact Option.some.inj ((mem_presentInputs_iff.mp isEntry).2.symm.trans found)
  · rename_i outside
    exact absent fun value isEntry => outside (mem_presentInputs_iff.mp isEntry).1

end Present

/-! ### What is required -/

/-- The backend exists on the target, and the variable that it demands is there. -/
structure IsMet (environ : Environ) (target : Target) (b : Backend) : Prop where
  family : b.isAppleOnly = true → target.family = .apple
  kit : ∀ key ∈ b.demand? target.family, (environ.nonEmpty? key).isSome = true

theorem requiredInput_eq_ok_iff {environ : Environ} {target : Target} {b : Backend}
    {inputs : List (String × String)} :
    requiredInput environ target b = .ok inputs ↔
      IsMet environ target b ∧ inputs = presentInputs environ (b.demand? target.family).toList := by
  have isMet_iff : IsMet environ target b ↔ (b.isAppleOnly = true → target.family = .apple) ∧
      ∀ key ∈ b.demand? target.family, (environ.nonEmpty? key).isSome = true :=
    ⟨fun met => ⟨met.family, met.kit⟩, fun ⟨family, kit⟩ => ⟨family, kit⟩⟩
  rw [isMet_iff]
  unfold requiredInput Backend.demand?
  by_cases excluded : (b.isAppleOnly && decide (target.family ≠ .apple)) = true
  · rw [if_pos excluded]
    rw [Bool.and_eq_true, decide_eq_true_eq] at excluded
    constructor
    · intro returned
      cases returned
    · rintro ⟨⟨family, _⟩, _⟩
      exact absurd (family excluded.1) excluded.2
  · rw [if_neg excluded]
    have family : b.isAppleOnly = true → target.family = .apple := by
      simpa using excluded
    rw [and_iff_right family]
    cases b.kitVariable? with
    | none => simp [presentInputs]
    | some key =>
        by_cases required : b.requiresVariableOn target.family = true
        · cases found : environ.nonEmpty? key with
          | none => simp [required, found]
          | some value =>
              simp [required, found, presentInputs, Option.filter_some, eq_comm (b := inputs)]
        · simp [required, presentInputs]

/-- A loop of checks returns what each of them returns, if all of them succeed. -/
theorem mapM_eq_ok_iff {ε α β : Type} {f : α → Except ε β} {holds : α → Prop} {g : α → β}
    (each : ∀ a b, f a = .ok b ↔ holds a ∧ b = g a) {xs : List α} {ys : List β} :
    xs.mapM f = .ok ys ↔ (∀ x ∈ xs, holds x) ∧ ys = xs.map g := by
  induction xs generalizing ys with
  | nil =>
      constructor
      · intro returned
        cases returned
        exact ⟨fun _ inside => absurd inside List.not_mem_nil, rfl⟩
      · rintro ⟨_, rfl⟩
        rfl
  | cons x rest ih =>
      rw [List.mapM_cons, exceptBind_eq_ok, List.forall_mem_cons]
      constructor
      · rintro ⟨y, first, returned⟩
        obtain ⟨zs, others, returned⟩ := exceptBind_eq_ok.mp returned
        cases returned
        obtain ⟨here, rfl⟩ := (each x y).mp first
        obtain ⟨later, rfl⟩ := ih.mp others
        exact ⟨⟨here, later⟩, rfl⟩
      · rintro ⟨⟨here, later⟩, rfl⟩
        refine ⟨g x, (each x _).mpr ⟨here, rfl⟩, exceptBind_eq_ok.mpr ?_⟩
        exact ⟨rest.map g, ih.mpr ⟨later, rfl⟩, rfl⟩

theorem backendInputs_eq_ok_iff {request : BuildRequest} {features : Features}
    {inputs : List (String × String)} :
    backendInputs request features = .ok inputs ↔
      (request.validate = true →
        ∀ b ∈ features.backends, IsMet request.environ request.target b) ∧
      inputs = presentInputs request.environ (features.backends.filterMap request.kit?) := by
  unfold backendInputs BuildRequest.kit?
  by_cases strict : request.validate = true
  · simp only [strict, if_true, forall_const]
    rw [exceptBind_eq_ok]
    simp only [mapM_eq_ok_iff fun b found => requiredInput_eq_ok_iff]
    constructor
    · rintro ⟨_, ⟨met, rfl⟩, returned⟩
      cases returned
      exact ⟨met, flatten_map_presentInputs _ _ _⟩
    · rintro ⟨met, rfl⟩
      exact ⟨_, ⟨met, rfl⟩, congrArg Except.ok (flatten_map_presentInputs _ _ _)⟩
  · simp only [strict, if_false, Bool.false_eq_true, false_implies, true_and]
    exact exceptOk_eq_ok

variable {request : BuildRequest} {features : Features} {config : BuildConfig}

theorem ofFeatures_isOk_iff (validated : request.validate = true) :
    (∃ config, ofFeatures request features = .ok config) ↔
      checkCompilers features = .ok () ∧
        ∀ b ∈ features.backends, IsMet request.environ request.target b := by
  simp only [ofFeatures_eq_ok_iff, backendInputs_eq_ok_iff, validated, forall_const]
  constructor
  · rintro ⟨_, checked, _, ⟨met, _⟩, _⟩
    exact ⟨checked, met⟩
  · rintro ⟨checked, met⟩
    exact ⟨_, checked, _, ⟨met, rfl⟩, rfl⟩

theorem get?_inputs (resolved : resolve request = .ok config) (key : String) :
    config.inputs.get? key =
      if key ∈ config.features.backends.filterMap request.kit? ++ optionalVariables then
        request.environ.nonEmpty? key
      else none := by
  obtain ⟨_, features, _, made⟩ := resolve_eq_ok_iff.mp resolved
  obtain ⟨_, inputs, collected, rfl⟩ := ofFeatures_eq_ok_iff.mp made
  obtain ⟨_, rfl⟩ := backendInputs_eq_ok_iff.mp collected
  unfold ofInputs
  rw [← presentInputs_append, Table.get?_eq_of_perm (Table.sorted_perm _),
    get?_ofList_presentInputs]

theorem pairwise_inputs (resolved : resolve request = .ok config) :
    config.inputs.entries.Pairwise fun a b => a.1 < b.1 := by
  obtain ⟨_, features, _, made⟩ := resolve_eq_ok_iff.mp resolved
  obtain ⟨_, inputs, _, rfl⟩ := ofFeatures_eq_ok_iff.mp made
  exact Table.pairwise_lt_sorted _

end BuildConfig

end NativeVariants
