import Mathlib.Data.List.Nodup
import NativeVariants.Variant

set_option autoImplicit false

/-!
Registries of variants. The check of a registry accepts exactly those whose variants have names and
basenames of their own, none of them the basename of the default build (`validate_eq_ok_iff`).
-/

namespace NativeVariants.Variant

structure IsRegistry (variants : List Variant) : Prop where
  names : (variants.map (·.name)).Nodup
  basenames : (variants.map (·.basename)).Nodup
  namespaced : ∀ v ∈ variants, v.basename ≠ defaultBasename

theorem isRegistry_nil : IsRegistry [] := ⟨.nil, .nil, by simp⟩

theorem isRegistry_cons_iff {v : Variant} {rest : List Variant} :
    IsRegistry (v :: rest) ↔
      v.basename ≠ defaultBasename ∧ IsRegistry rest ∧
        ∀ w ∈ rest, w.name ≠ v.name ∧ w.basename ≠ v.basename := by
  constructor
  · rintro ⟨names, basenames, namespaced⟩
    rw [List.map_cons, List.nodup_cons, List.mem_map] at names basenames
    refine ⟨namespaced v (by simp), ⟨names.2, basenames.2, ?_⟩, ?_⟩
    · exact fun w inRest => namespaced w (by simp [inRest])
    · exact fun w inRest =>
        ⟨fun same => names.1 ⟨w, inRest, same⟩, fun same => basenames.1 ⟨w, inRest, same⟩⟩
  · rintro ⟨here, registry, apart⟩
    refine ⟨?_, ?_, ?_⟩
    · rw [List.map_cons, List.nodup_cons, List.mem_map]
      exact ⟨fun ⟨w, inRest, same⟩ => (apart w inRest).1 same, registry.names⟩
    · rw [List.map_cons, List.nodup_cons, List.mem_map]
      exact ⟨fun ⟨w, inRest, same⟩ => (apart w inRest).2 same, registry.basenames⟩
    · intro w inAll
      rcases List.mem_cons.mp inAll with rfl | inRest
      · exact here
      · exact registry.namespaced w inRest

theorem registryFault?_cons_eq_none_iff {names basenames : List String} {v : Variant}
    {rest : List Variant} :
    registryFault? names basenames (v :: rest) = none ↔
      v.name ∉ names ∧ v.basename ∉ basenames ∧ v.basename ≠ defaultBasename ∧
        registryFault? (v.name :: names) (v.basename :: basenames) rest = none := by
  rw [registryFault?]
  by_cases named : v.name ∈ names
  · simp [named]
  · by_cases taken : v.basename ∈ basenames
    · simp [named, taken]
    · rw [if_neg named, if_neg taken]
      by_cases reserved : v.basename = defaultBasename
      · simp [reserved]
      · simp [named, taken, reserved]

/-- The check goes on with the names and basenames that occurred before. -/
theorem registryFault?_eq_none_iff {names basenames : List String} {variants : List Variant} :
    registryFault? names basenames variants = none ↔
      IsRegistry variants ∧ ∀ v ∈ variants, v.name ∉ names ∧ v.basename ∉ basenames := by
  induction variants generalizing names basenames with
  | nil => exact ⟨fun _ => ⟨isRegistry_nil, by simp⟩, fun _ => rfl⟩
  | cons v rest ih =>
      rw [registryFault?_cons_eq_none_iff, isRegistry_cons_iff, ih]
      simp only [List.mem_cons, not_or, forall_eq_or_imp]
      constructor
      · rintro ⟨newName, newBasename, namespaced, registry, apart⟩
        refine ⟨⟨namespaced, registry, ?_⟩, ⟨newName, newBasename⟩, ?_⟩
        · exact fun w inRest => ⟨(apart w inRest).1.1, (apart w inRest).2.1⟩
        · exact fun w inRest => ⟨(apart w inRest).1.2, (apart w inRest).2.2⟩
      · rintro ⟨⟨namespaced, registry, apart⟩, ⟨newName, newBasename⟩, later⟩
        refine ⟨newName, newBasename, namespaced, registry, ?_⟩
        exact fun w inRest => ⟨⟨(apart w inRest).1, (later w inRest).1⟩,
          ⟨(apart w inRest).2, (later w inRest).2⟩⟩

theorem validate_eq_ok_iff {variants : List Variant} :
    validate variants = .ok () ↔ IsRegistry variants := by
  have whole : registryFault? [] [] variants = none ↔ IsRegistry variants := by
    rw [registryFault?_eq_none_iff]
    simp
  rw [← whole]
  unfold validate
  cases registryFault? [] [] variants with
  | none => simp
  | some problem => simp

theorem forMode_eq_ok_iff {multiVariant : Bool} {registry variants : List Variant} :
    forMode multiVariant registry = .ok variants ↔
      if multiVariant then IsRegistry registry ∧ variants = registry else variants = [default] := by
  cases multiVariant with
  | false =>
      have only : forMode false registry = .ok [default] := rfl
      simp [only, eq_comm]
  | true =>
      rw [if_pos rfl, ← validate_eq_ok_iff]
      have checked : forMode true registry = (validate registry).map fun _ => registry := by
        unfold forMode
        cases validate registry <;> rfl
      rw [checked]
      cases validate registry with
      | error problem => simp [Except.map]
      | ok _ => simp [Except.map, eq_comm]

theorem nodup_basenames_of_forMode {multiVariant : Bool} {registry variants : List Variant}
    (chosen : forMode multiVariant registry = .ok variants) :
    (variants.map (·.basename)).Nodup := by
  have choice := forMode_eq_ok_iff.mp chosen
  cases multiVariant with
  | true =>
      rw [if_pos rfl] at choice
      rw [choice.2]
      exact choice.1.basenames
  | false =>
      rw [if_neg Bool.false_ne_true] at choice
      rw [choice]
      exact List.nodup_singleton _

end NativeVariants.Variant
