import NativeVariants.BuildConfig

set_option autoImplicit false

/-!
How a request is resolved. The features come first and depend on nothing but their names; what they
are held against is in `BuildConfig.ofFeatures`.
-/

namespace NativeVariants

theorem exceptBind_eq_ok {ε α β : Type} {x : Except ε α} {f : α → Except ε β} {b : β} :
    x >>= f = .ok b ↔ ∃ a, x = .ok a ∧ f a = .ok b := by
  cases x with
  | error e =>
      constructor
      · intro returned
        cases returned
      · rintro ⟨a, same, _⟩
        cases same
  | ok a =>
      constructor
      · intro returned
        exact ⟨a, rfl, returned⟩
      · rintro ⟨a', same, returned⟩
        cases same
        exact returned

theorem exceptOk_eq_ok {ε α : Type} {a b : α} : (.ok a : Except ε α) = .ok b ↔ b = a := by
  rw [Except.ok.injEq, eq_comm]

namespace BuildConfig

def ofFeatures (request : BuildRequest) (features : Features) : Except Problem BuildConfig := do
  if request.validate then checkCompilers features
  let inputs ← backendInputs request features
  let optional := presentInputs request.environ optionalVariables
  return {
    target := request.target
    features
    multiVariant := request.multiVariant
    inputs := (Table.ofList (inputs ++ optional)).sorted
    forwarded := (request.environ.filter isForwarded).sorted }

variable {request : BuildRequest} {features : Features} {config : BuildConfig}

theorem resolve_eq_bind (request : BuildRequest) :
    resolve request =
      if request.target.triple = "" then .error .missingTarget
      else Features.parse request.features >>= ofFeatures request := by
  unfold resolve
  by_cases unnamed : request.target.triple = ""
  · rw [if_pos unnamed, if_pos unnamed]
    rfl
  · rw [if_neg unnamed, if_neg unnamed]
    rfl

def ofInputs (request : BuildRequest) (features : Features) (inputs : List (String × String)) :
    BuildConfig where
  target := request.target
  features
  multiVariant := request.multiVariant
  inputs := (Table.ofList (inputs ++ presentInputs request.environ optionalVariables)).sorted
  forwarded := (request.environ.filter isForwarded).sorted

/-- With validation the compilers are checked first; nothing can go wrong after the inputs. -/
theorem ofFeatures_eq_ok_iff :
    ofFeatures request features = .ok config ↔
      (request.validate = true → checkCompilers features = .ok ()) ∧
        ∃ inputs, backendInputs request features = .ok inputs ∧
          config = ofInputs request features inputs := by
  have finished : (backendInputs request features >>= fun inputs =>
      pure (ofInputs request features inputs)) = .ok config ↔
        ∃ inputs, backendInputs request features = .ok inputs ∧
          config = ofInputs request features inputs := by
    rw [exceptBind_eq_ok]
    exact exists_congr fun inputs => and_congr_right fun _ => exceptOk_eq_ok
  rw [← finished]
  unfold ofFeatures
  by_cases strict : request.validate = true
  · rw [if_pos strict, exceptBind_eq_ok]
    simp only [strict, forall_const]
    exact ⟨fun ⟨_, checked, returned⟩ => ⟨checked, returned⟩,
      fun ⟨checked, returned⟩ => ⟨(), checked, returned⟩⟩
  · rw [if_neg strict]
    exact ⟨fun returned => ⟨fun yes => absurd yes strict, returned⟩, And.right⟩

theorem ofFeatures_eq_ok (made : ofFeatures request features = .ok config) :
    config.target = request.target ∧ config.features = features ∧
      config.multiVariant = request.multiVariant ∧
      config.forwarded = (request.environ.filter isForwarded).sorted := by
  obtain ⟨_, inputs, _, rfl⟩ := ofFeatures_eq_ok_iff.mp made
  exact ⟨rfl, rfl, rfl, rfl⟩

theorem resolve_eq_ok_iff :
    resolve request = .ok config ↔ request.target.triple ≠ "" ∧ ∃ features,
      Features.parse request.features = .ok features ∧
      ofFeatures request features = .ok config := by
  rw [resolve_eq_bind]
  split
  · rename_i unnamed
    simp [unnamed]
  · rename_i named
    rw [exceptBind_eq_ok]
    simp [named]

theorem resolve_eq_ok (resolved : resolve request = .ok config) :
    request.target.triple ≠ "" ∧ config.target = request.target ∧
      Features.parse request.features = .ok config.features ∧
      config.multiVariant = request.multiVariant := by
  obtain ⟨named, features, parsed, made⟩ := resolve_eq_ok_iff.mp resolved
  obtain ⟨target, rfl, multiVariant, _⟩ := ofFeatures_eq_ok made
  exact ⟨named, target, parsed, multiVariant⟩

theorem forwarded_of_resolve (resolved : resolve request = .ok config) :
    config.forwarded = (request.environ.filter isForwarded).sorted := by
  obtain ⟨_, features, _, made⟩ := resolve_eq_ok_iff.mp resolved
  exact (ofFeatures_eq_ok made).2.2.2

end BuildConfig

end NativeVariants
