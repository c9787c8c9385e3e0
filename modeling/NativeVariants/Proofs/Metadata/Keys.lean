import Mathlib.Data.List.Nodup
import NativeVariants.Metadata.Key

set_option autoImplicit false

/-!
Published names. The name of a variant's fact gives away its field and its lead
(`variantKey_eq_iff`), and it is never the name of the include directory. The names of some
variants are all different exactly if their leads are (`nodup_expectedKeys_iff`), and a lead gives
away the variant only up to the spelling of its name (`variantLead_eq_iff`). So two names of a
package are the same only where two variants are spelled alike in keys (`variantKey_collides_iff`).
-/

namespace NativeVariants.Metadata

/-- The end of a field's name, read backwards, tells the field. -/
def Field.reversed : Field → List Char
  | libDir => ['R', 'I', 'D', '_', 'B', 'I', 'L']
  | binDir => ['R', 'I', 'D', '_', 'N', 'I', 'B']
  | basename => ['E', 'M', 'A', 'N', 'E', 'S', 'A', 'B']

theorem Field.toList_name_reverse (f : Field) : f.name.toList.reverse = f.reversed := by
  cases f with
  | libDir => rfl
  | binDir => rfl
  | basename => rfl

theorem toList_variantKey_reverse (package variant : String) (f : Field) :
    (variantKey package variant f).toList.reverse =
      f.reversed ++ '_' :: (variantLead package variant).toList.reverse := by
  have spelled : variantKey package variant f = variantLead package variant ++ "_" ++ f.name := rfl
  have mark : "_".toList = ['_'] := rfl
  rw [spelled, String.toList_append, String.toList_append, mark, List.reverse_append,
    List.reverse_append, f.toList_name_reverse]
  rfl

/-- Two facts share a name only if they are the same field under the same lead. -/
theorem variantKey_eq_iff {package package' variant variant' : String} {f g : Field} :
    variantKey package variant f = variantKey package' variant' g ↔
      f = g ∧ variantLead package variant = variantLead package' variant' := by
  constructor
  · intro same
    have backwards := congrArg (fun s : String => s.toList.reverse) same
    simp only [toList_variantKey_reverse] at backwards
    have sameField : f = g := by
      cases f <;> cases g <;> first | rfl | simp [Field.reversed] at backwards
    subst sameField
    have leads := List.append_cancel_left backwards
    simp only [List.cons.injEq, true_and, List.reverse_inj] at leads
    exact ⟨rfl, String.toList_injective leads⟩
  · rintro ⟨rfl, same⟩
    unfold variantKey
    rw [same]

theorem variantKey_ne_includeKey (package variant : String) (f : Field) (package' : String) :
    variantKey package variant f ≠ includeKey package' := by
  intro same
  have backwards := congrArg (fun s : String => s.toList.reverse) same
  have ending : "_INCLUDE".toList.reverse = ['E', 'D', 'U', 'L', 'C', 'N', 'I', '_'] := rfl
  simp only [toList_variantKey_reverse, includeKey, String.toList_append, List.reverse_append,
    ending] at backwards
  cases f <;> simp [Field.reversed] at backwards

theorem variantLead_default (package : String) :
    variantLead package Variant.default.name = packageLead package := if_pos rfl

theorem variantLead_of_ne (package : String) {variant : String}
    (other : variant ≠ Variant.default.name) :
    variantLead package variant =
      packageLead package ++ ("_" ++ envKey defaultBasename ++ "_") ++ envKey variant := by
  unfold variantLead
  rw [if_neg other]
  simp [String.append_assoc, toString]

theorem variantLead_ne_packageLead {package variant : String}
    (other : variant ≠ Variant.default.name) :
    variantLead package variant ≠ packageLead package := by
  intro same
  have lengths := congrArg String.length same
  have mark : "_".length = 1 := rfl
  rw [variantLead_of_ne package other] at lengths
  simp only [String.length_append, mark] at lengths
  omega

/-- The default variant has a lead of its own; any other lead tells how the name is written in
keys. -/
theorem variantLead_eq_iff {package variant variant' : String} :
    variantLead package variant = variantLead package variant' ↔
      variant = variant' ∨ variant ≠ Variant.default.name ∧ variant' ≠ Variant.default.name ∧
        envKey variant = envKey variant' := by
  by_cases isDefault : variant = Variant.default.name
  · rw [isDefault, variantLead_default]
    by_cases alsoDefault : variant' = Variant.default.name
    · simp [alsoDefault, variantLead_default]
    · simp [(variantLead_ne_packageLead alsoDefault).symm, Ne.symm alsoDefault]
  · by_cases otherDefault : variant' = Variant.default.name
    · simp [otherDefault, variantLead_default, variantLead_ne_packageLead isDefault, isDefault]
    · rw [variantLead_of_ne package isDefault, variantLead_of_ne package otherDefault,
        String.append_right_inj]
      constructor
      · exact fun same => .inr ⟨isDefault, otherDefault, same⟩
      · rintro (rfl | ⟨_, _, same⟩)
        · rfl
        · exact same

def keyLead (package : String) : String := packageLead package ++ "_"

theorem isPrefixOf_iff {lead key : String} :
    lead.isPrefixOf key = true ↔ lead.toList <+: key.toList := String.startsWith_string_iff

theorem includeKey_eq (package : String) : includeKey package = keyLead package ++ "INCLUDE" := by
  rw [keyLead, String.append_assoc]
  rfl

theorem variantKey_default (package : String) (f : Field) :
    variantKey package Variant.default.name f = keyLead package ++ f.name := by
  unfold variantKey keyLead
  rw [variantLead_default]
  rfl

theorem variantKey_of_ne (package : String) {variant : String}
    (other : variant ≠ Variant.default.name) (f : Field) :
    variantKey package variant f =
      keyLead package ++ ("GGML_" ++ envKey variant ++ "_" ++ f.name) := by
  have segment : "_" ++ envKey defaultBasename ++ "_" = "_" ++ "GGML_" := by decide +kernel
  unfold variantKey keyLead
  rw [variantLead_of_ne package other, segment]
  simp only [String.append_assoc, toString]

theorem keyLead_isPrefixOf_append (package rest : String) :
    (keyLead package).isPrefixOf (keyLead package ++ rest) = true := by
  rw [isPrefixOf_iff, String.toList_append]
  exact List.prefix_append _ _

theorem keyLead_isPrefixOf_includeKey (package : String) :
    (keyLead package).isPrefixOf (includeKey package) = true := by
  rw [includeKey_eq]
  exact keyLead_isPrefixOf_append package _

theorem keyLead_isPrefixOf_variantKey (package variant : String) (f : Field) :
    (keyLead package).isPrefixOf (variantKey package variant f) = true := by
  by_cases isDefault : variant = Variant.default.name
  · rw [isDefault, variantKey_default]
    exact keyLead_isPrefixOf_append package _
  · rw [variantKey_of_ne package isDefault]
    exact keyLead_isPrefixOf_append package _

section ExpectedKeys

variable (package : String) (variants : List Variant)

theorem length_expectedKeys :
    (expectedKeys package variants).length = 1 + 3 * variants.length := by
  have each : ∀ v : Variant, (Field.all.map (variantKey package v.name)).length = 3 := fun _ => rfl
  unfold expectedKeys
  rw [List.length_cons, List.length_flatMap, List.map_congr_left (fun v _ => each v),
    List.map_const', List.sum_replicate_nat]
  omega

theorem variantKey_mem_expectedKeys_iff {variant : String} {f : Field} :
    variantKey package variant f ∈ expectedKeys package variants ↔
      ∃ v ∈ variants, variantLead package v.name = variantLead package variant := by
  unfold expectedKeys
  rw [List.mem_cons, List.mem_flatMap]
  constructor
  · rintro (same | ⟨v, inside, isKey⟩)
    · exact absurd same (variantKey_ne_includeKey _ _ _ _)
    · obtain ⟨g, _, same⟩ := List.mem_map.mp isKey
      exact ⟨v, inside, (variantKey_eq_iff.mp same).2⟩
  · rintro ⟨v, inside, same⟩
    refine .inr ⟨v, inside, List.mem_map.mpr ⟨f, ?_, variantKey_eq_iff.mpr ⟨rfl, same⟩⟩⟩
    cases f <;> decide

theorem nodup_expectedKeys
    (leads : (variants.map fun v => variantLead package v.name).Nodup) :
    (expectedKeys package variants).Nodup := by
  unfold expectedKeys
  rw [List.nodup_cons]
  constructor
  · intro inside
    obtain ⟨v, _, inFields⟩ := List.mem_flatMap.mp inside
    obtain ⟨f, _, same⟩ := List.mem_map.mp inFields
    exact variantKey_ne_includeKey _ _ _ _ same
  · rw [List.nodup_flatMap]
    constructor
    · intro v _
      refine List.Nodup.map ?_ (by decide)
      intro f g same
      exact (variantKey_eq_iff.mp same).1
    · refine (List.pairwise_map.mp leads).imp ?_
      intro v w different key inFirst inSecond
      obtain ⟨f, _, rfl⟩ := List.mem_map.mp inFirst
      obtain ⟨g, _, same⟩ := List.mem_map.mp inSecond
      exact different (variantKey_eq_iff.mp same).2.symm

theorem nodup_expectedKeys_iff :
    (expectedKeys package variants).Nodup ↔
      (variants.map fun v => variantLead package v.name).Nodup := by
  constructor
  · intro keys
    apply List.pairwise_map.mpr
    refine (List.nodup_flatMap.mp (List.nodup_cons.mp keys).2).2.imp ?_
    intro v w disjoint same
    have shared : variantKey package v.name .libDir = variantKey package w.name .libDir :=
      variantKey_eq_iff.mpr ⟨rfl, same⟩
    refine disjoint (List.mem_map.mpr ⟨.libDir, by simp [Field.all], rfl⟩) ?_
    exact List.mem_map.mpr ⟨.libDir, by simp [Field.all], shared.symm⟩
  · exact nodup_expectedKeys package variants

/-- No two variants have names that are written alike in keys; the default one is not named there. -/
def NamedApart : Prop :=
  ∀ v ∈ variants, ∀ w ∈ variants, v.name ≠ Variant.default.name →
    w.name ≠ Variant.default.name → envKey v.name = envKey w.name → v.name = w.name

instance : Decidable (NamedApart variants) :=
  inferInstanceAs (Decidable (∀ _ ∈ variants, ∀ _ ∈ variants, _ → _ → _ → _))

theorem nodup_leads_iff (names : (variants.map (·.name)).Nodup) :
    (variants.map fun v => variantLead package v.name).Nodup ↔ NamedApart variants := by
  rw [List.nodup_map_iff_inj_on (List.Nodup.of_map _ names)]
  constructor
  · intro leads v inV w inW otherV otherW same
    rw [leads v inV w inW (variantLead_eq_iff.mpr (.inr ⟨otherV, otherW, same⟩))]
  · intro apart v inV w inW same
    apply List.inj_on_of_nodup_map names inV inW
    rcases variantLead_eq_iff.mp same with named | ⟨otherV, otherW, alike⟩
    · exact named
    · exact apart v inV w inW otherV otherW alike

end ExpectedKeys

/-! ### Shared names -/

/-- Keys do not tell the variants apart. -/
def KeyedAlike (variant variant' : String) : Prop :=
  variant = variant' ∨ variant ≠ Variant.default.name ∧ variant' ≠ Variant.default.name ∧
    envKey variant = envKey variant'

instance (variant variant' : String) : Decidable (KeyedAlike variant variant') :=
  inferInstanceAs (Decidable (_ ∨ _ ∧ _ ∧ _))

theorem Field.named?_eq_some_iff {name : String} {f : Field} :
    named? name = some f ↔ f.name = name := by
  constructor
  · intro found
    simpa using List.find?_some found
  · rintro rfl
    cases f <;> decide

theorem Field.name_inj {f g : Field} : f.name = g.name ↔ f = g := by
  cases f <;> cases g <;> decide

/-- A field that is given as a text has a name if it is one of the fields, and then it has that
field's. -/
theorem variantKeyNamed_eq_ok_iff {package variant field key : String} :
    variantKeyNamed package variant field = .ok key ↔
      ∃ f : Field, f.name = field ∧ variantKey package variant f = key := by
  unfold variantKeyNamed
  cases found : Field.named? field with
  | none =>
      constructor
      · intro named
        cases named
      · rintro ⟨f, isField, _⟩
        rw [Field.named?_eq_some_iff.mpr isField] at found
        cases found
  | some f =>
      rw [Field.named?_eq_some_iff] at found
      constructor
      · intro named
        exact ⟨f, found, Except.ok.inj named⟩
      · rintro ⟨g, isField, rfl⟩
        rw [Field.name_inj.mp (found.trans isField.symm)]

/-- Two names of a package are the same only for the same field of variants that keys do not tell
apart, and none is that of the include directory. -/
theorem variantKey_collides_iff (package variant variant' : String) :
    (∀ f g, variantKey package variant f = variantKey package variant' g ↔
      f = g ∧ KeyedAlike variant variant') ∧
    (∀ field field', (∃ key, variantKeyNamed package variant field = .ok key ∧
        variantKeyNamed package variant' field' = .ok key) ↔
      field = field' ∧ (∃ f : Field, f.name = field) ∧ KeyedAlike variant variant') ∧
    (∀ f, variantKey package variant f ≠ includeKey package) ∧
    ∀ field, variantKeyNamed package variant field ≠ .ok (includeKey package) := by
  have collides (f g : Field) : variantKey package variant f = variantKey package variant' g ↔
      f = g ∧ KeyedAlike variant variant' := by
    rw [variantKey_eq_iff, variantLead_eq_iff]
    rfl
  refine ⟨collides, fun field field' => ?_, fun f => variantKey_ne_includeKey _ _ _ _, ?_⟩
  · simp only [variantKeyNamed_eq_ok_iff]
    constructor
    · rintro ⟨_, ⟨f, rfl, rfl⟩, g, rfl, same⟩
      obtain ⟨rfl, alike⟩ := (collides f g).mp same.symm
      exact ⟨rfl, ⟨f, rfl⟩, alike⟩
    · rintro ⟨rfl, ⟨f, rfl⟩, alike⟩
      exact ⟨_, ⟨f, rfl, rfl⟩, f, rfl, ((collides f f).mpr ⟨rfl, alike⟩).symm⟩
  · intro field named
    obtain ⟨f, _, same⟩ := variantKeyNamed_eq_ok_iff.mp named
    exact variantKey_ne_includeKey _ _ _ _ same

example : KeyedAlike "a-b" "A_b" ∧ ¬KeyedAlike "default" "Default" := by decide +kernel

end NativeVariants.Metadata
