import NativeVariants.Proofs.Metadata.HandOff
import NativeVariants.Proofs.Metadata.KeyWords

set_option autoImplicit false

/-!
Facts of different packages in one environment. A reader takes every variable whose name begins with
its package, so it also takes facts of a package that is called as one of its own, with more words
added (`ofEnviron_apart_iff`). Only packages that are called as variants of each other share keys.
-/

namespace NativeVariants.Metadata

/-- What stands in a key behind the package. -/
inductive IsKeyTail : List Char → Prop where
  | included : IsKeyTail "INCLUDE".toList
  | field (f : Field) : IsKeyTail f.name.toList
  | named {variant : String} (other : variant ≠ Variant.default.name) (f : Field) :
      IsKeyTail ("GGML_".toList ++ ((envKey variant).toList ++ '_' :: f.name.toList))

theorem IsKeyTail.length {tail : List Char} (isTail : IsKeyTail tail) : 7 ≤ tail.length := by
  cases isTail with
  | included => decide
  | field f => cases f <;> decide
  | named other f =>
      have ofField : 7 ≤ f.name.toList.length := by cases f <;> decide
      simp only [List.length_append, List.length_cons]
      omega

theorem isKeyTail_llama : IsKeyTail
    ("GGML_".toList ++ ((envKey "llama").toList ++ '_' :: Field.libDir.name.toList)) :=
  .named (by decide) .libDir

theorem toList_keyLead (package : String) :
    (keyLead package).toList = "DEP_".toList ++ ((envKey package).toList ++ ['_']) := by
  simp [keyLead, packageLead]

/-- A package publishes any key that begins with it and goes on in this way, and no other. -/
theorem isKey_iff {package key : String} :
    (∃ call : Publication, key ∈ (call.items package).map (·.1)) ↔
      ∃ tail, IsKeyTail tail ∧ key.toList = (keyLead package).toList ++ tail := by
  have named {variant : String} (other : variant ≠ Variant.default.name) (f : Field) :
      (variantKey package variant f).toList = (keyLead package).toList ++
        ("GGML_".toList ++ ((envKey variant).toList ++ '_' :: f.name.toList)) := by
    simp [variantKey_of_ne package other]
  have ofVariant (variant : String) (f : Field) :
      ∃ call : Publication, variantKey package variant f ∈ (call.items package).map (·.1) := by
    refine ⟨.variant ⟨variant, "", .ofText "", .ofText "", .ofText "", []⟩, ?_⟩
    exact List.mem_map_of_mem (f := variantKey package variant) (by cases f <;> decide : f ∈ Field.all)
  constructor
  · rintro ⟨call, inside⟩
    cases call with
    | included includeDir =>
        refine ⟨_, .included, ?_⟩
        rw [List.mem_singleton.mp inside, ← String.toList_append, ← includeKey_eq]
    | variant artifacts =>
        obtain ⟨f, _, rfl⟩ : ∃ f ∈ Field.all, variantKey package artifacts.variant f = key :=
          List.mem_map.mp inside
        by_cases isDefault : artifacts.variant = Variant.default.name
        · refine ⟨_, .field f, ?_⟩
          rw [isDefault, variantKey_default, String.toList_append]
        · exact ⟨_, .named isDefault f, named isDefault f⟩
  · rintro ⟨tail, isTail, spelled⟩
    cases isTail with
    | included =>
        refine ⟨.included (.ofText ""), List.mem_singleton.mpr ?_⟩
        apply String.toList_injective
        rw [spelled, includeKey_eq, String.toList_append]
    | field f =>
        have same : key = variantKey package Variant.default.name f := by
          apply String.toList_injective
          rw [spelled, variantKey_default, String.toList_append]
        rw [same]
        exact ofVariant _ f
    | named other f =>
        have same := String.toList_injective (spelled.trans (named other f).symm)
        rw [same]
        exact ofVariant _ f

theorem IsKeyTail.word_cases {tail word : List Char} (isTail : IsKeyTail tail)
    (starts : word ++ ['_'] <+: tail) :
    word = "LIB".toList ∧ tail = "LIB_DIR".toList ∨ word = "BIN".toList ∧ tail = "BIN_DIR".toList ∨
      "GGML_".toList <+: word ++ ['_'] := by
  have marked : '_' ∈ tail := starts.subset (by simp)
  -- A field with a single underscore leaves no choice.
  have only {first second : List Char} (plain : '_' ∉ first) (plain' : '_' ∉ second)
      (split : tail = first ++ '_' :: second) : word = first := by
    obtain ⟨rest, whole⟩ := starts
    rw [split, List.append_assoc, List.singleton_append] at whole
    exact ((List.append_cons_inj_of_notMem plain plain').mp whole.symm).1.symm
  cases isTail with
  | included => exact absurd marked (by decide)
  | field f =>
      cases f with
      | libDir =>
          have split : Field.libDir.name.toList = "LIB".toList ++ '_' :: "DIR".toList := rfl
          exact .inl ⟨only (by decide) (by decide) split, rfl⟩
      | binDir =>
          have split : Field.binDir.name.toList = "BIN".toList ++ '_' :: "DIR".toList := rfl
          exact .inr (.inl ⟨only (by decide) (by decide) split, rfl⟩)
      | basename => exact absurd marked (by decide)
  | named other f =>
      refine .inr (.inr ?_)
      rcases List.prefix_or_prefix_of_prefix starts (List.prefix_append _ _) with short | long
      · have segment : "GGML_".toList = "GGML".toList ++ ['_'] := rfl
        rw [segment] at short ⊢
        rcases List.prefix_concat_iff.mp short with same | within
        · exact same ▸ List.prefix_rfl
        · exact absurd (within.subset (by simp : '_' ∈ word ++ ['_'])) (by decide)
      · exact long

/-- The name of a package is that of a variant of the other one, as keys spell it. -/
def IsVariantOf (package other : String) : Prop :=
  (envKey other ++ "_GGML_").isPrefixOf (envKey package ++ "_") = true

instance (package other : String) : Decidable (IsVariantOf package other) :=
  inferInstanceAs (Decidable (_ = true))

/-- The reader of a package takes a fact that the other package can publish. -/
def TakesFrom (package other : String) : Prop :=
  (envKey package ++ "_").isPrefixOf (envKey other) = true ∨
    envKey package = envKey other ++ "_LIB" ∨ envKey package = envKey other ++ "_BIN" ∨
    IsVariantOf package other

instance (package other : String) : Decidable (TakesFrom package other) :=
  inferInstanceAs (Decidable (_ ∨ _ ∨ _ ∨ _))

section Names

variable {package other : String}

theorem isVariantOf_iff : IsVariantOf package other ↔
    (envKey other).toList ++ ('_' :: "GGML_".toList) <+: (envKey package).toList ++ ['_'] := by
  have segment : "_GGML_".toList = '_' :: "GGML_".toList := rfl
  have mark : "_".toList = ['_'] := rfl
  unfold IsVariantOf
  rw [isPrefixOf_iff, String.toList_append, String.toList_append, segment, mark]

theorem IsVariantOf.exists_variant (isVariant : IsVariantOf package other) :
    (envKey package).toList = (envKey other).toList ++ '_' :: "GGML".toList ∨
      ∃ variant, variant ≠ Variant.default.name ∧
        (envKey package).toList =
          (envKey other).toList ++ '_' :: ("GGML_".toList ++ (envKey variant).toList) := by
  obtain ⟨rest, whole⟩ := isVariantOf_iff.mp isVariant
  have segment : '_' :: "GGML_".toList = ('_' :: "GGML".toList) ++ ['_'] := rfl
  rcases List.eq_nil_or_concat' rest with rfl | ⟨word, c, rfl⟩
  · left
    rw [List.append_nil, segment, ← List.append_assoc] at whole
    exact (List.append_inj_left' whole rfl).symm
  · right
    rw [← List.append_assoc] at whole
    have name := (List.append_inj_left' whole rfl).symm
    have split : (envKey package).toList =
        ((envKey other).toList ++ '_' :: "GGML".toList) ++ '_' :: word := by
      rw [name, segment]
      simp
    have normalized := envKey_of_split split
    refine ⟨String.ofList word, ?_, ?_⟩
    · intro isDefault
      rw [isDefault] at normalized
      exact absurd normalized (by decide +kernel)
    · simp [name, normalized]

/-- A package that is called as a variant of the other one can publish a key of that variant. -/
theorem IsVariantOf.exists_shared (isVariant : IsVariantOf package other) :
    ∃ (key : String) (call call' : Publication), key ∈ (call.items package).map (·.1) ∧
      key ∈ (call'.items other).map (·.1) := by
  obtain ⟨tail, tail', isTail, isTail', agree⟩ : ∃ tail tail', IsKeyTail tail ∧ IsKeyTail tail' ∧
      (envKey package).toList ++ '_' :: tail = (envKey other).toList ++ '_' :: tail' := by
    rcases isVariant.exists_variant with same | ⟨variant, notDefault, same⟩
    · -- The package stands for a variant without a name, so the variants of both overlap.
      have spelled : (envKey "ggml-llama").toList = "GGML_".toList ++ (envKey "llama").toList := by
        decide +kernel
      have notDefault : "ggml-llama" ≠ Variant.default.name := by decide
      refine ⟨_, _, isKeyTail_llama, .named notDefault .libDir, ?_⟩
      rw [same, spelled]
      simp
    · refine ⟨_, _, .field .libDir, .named notDefault .libDir, ?_⟩
      rw [same]
      simp
  have spelled : (String.ofList ((keyLead package).toList ++ tail)).toList =
      (keyLead package).toList ++ tail := String.toList_ofList
  have spelled' : (String.ofList ((keyLead package).toList ++ tail)).toList =
      (keyLead other).toList ++ tail' := by
    rw [spelled]
    simpa [toList_keyLead] using agree
  obtain ⟨call, isKey⟩ := isKey_iff.mpr ⟨tail, isTail, spelled⟩
  obtain ⟨call', isKey'⟩ := isKey_iff.mpr ⟨tail', isTail', spelled'⟩
  exact ⟨_, call, call', isKey, isKey'⟩

variable (different : envKey package ≠ envKey other)
include different

theorem exists_word {middle : List Char}
    (longer : (envKey package).toList ++ ['_'] = (envKey other).toList ++ ['_'] ++ middle) :
    ∃ word, middle = word ++ ['_'] ∧
      (envKey package).toList = (envKey other).toList ++ '_' :: word := by
  rcases List.eq_nil_or_concat' middle with rfl | ⟨word, c, rfl⟩
  · rw [List.append_nil] at longer
    exact absurd (String.toList_injective (List.append_inj_left' longer rfl)) different
  · rw [← List.append_assoc] at longer
    obtain ⟨name, last⟩ := List.append_inj' longer rfl
    refine ⟨word, by rw [← last], ?_⟩
    rw [name, List.append_assoc, List.singleton_append]

/-- A reader takes facts of another package exactly if their names meet in one of these ways. -/
theorem takesFrom_iff :
    (∃ (call : Publication) (key : String), key ∈ (call.items other).map (·.1) ∧
      (keyLead package).isPrefixOf key = true) ↔ TakesFrom package other := by
  have taken {key : String} {tail : List Char}
      (spelled : key.toList = (keyLead other).toList ++ tail) :
      (keyLead package).isPrefixOf key = true ↔
        (envKey package).toList ++ ['_'] <+: (envKey other).toList ++ ['_'] ++ tail := by
    rw [isPrefixOf_iff, spelled, toList_keyLead, toList_keyLead, List.append_assoc,
      List.prefix_append_right_inj]
  constructor
  · rintro ⟨call, key, isKey, starts⟩
    obtain ⟨tail, isTail, spelled⟩ := isKey_iff.mp ⟨call, isKey⟩
    have within := (taken spelled).mp starts
    rcases List.prefix_or_prefix_of_prefix within (List.prefix_append _ _) with short | long
    · rcases List.prefix_concat_iff.mp short with same | inside
      · exact absurd (String.toList_injective (List.append_inj_left' same rfl)) different
      · left
        rw [isPrefixOf_iff, String.toList_append]
        exact inside
    · obtain ⟨middle, longer⟩ := long
      obtain ⟨word, rfl, name⟩ := exists_word different longer.symm
      rw [← longer, List.prefix_append_right_inj] at within
      right
      rcases isTail.word_cases within with ⟨rfl, _⟩ | ⟨rfl, _⟩ | ofVariant
      · left
        apply String.toList_injective
        rw [name, String.toList_append]
        rfl
      · right; left
        apply String.toList_injective
        rw [name, String.toList_append]
        rfl
      · right; right
        rw [isVariantOf_iff, ← longer, List.append_assoc, List.prefix_append_right_inj,
          List.singleton_append, List.cons_prefix_cons]
        exact ⟨rfl, ofVariant⟩
  · intro takes
    obtain ⟨tail, isTail, starts⟩ : ∃ tail, IsKeyTail tail ∧
        (envKey package).toList ++ ['_'] <+: (envKey other).toList ++ ['_'] ++ tail := by
      rcases takes with starts | same | same | isVariant
      · rw [isPrefixOf_iff, String.toList_append] at starts
        refine ⟨_, .included, starts.trans ?_⟩
        rw [List.append_assoc]
        exact List.prefix_append _ _
      · refine ⟨_, .field .libDir, ?_⟩
        rw [same, String.toList_append]
        simp [Field.name]
      · refine ⟨_, .field .binDir, ?_⟩
        rw [same, String.toList_append]
        simp [Field.name]
      · rcases isVariant.exists_variant with same | ⟨variant, notDefault, same⟩
        · refine ⟨_, isKeyTail_llama, ?_⟩
          rw [same]
          simp
        · refine ⟨_, .named notDefault .libDir, ?_⟩
          rw [same]
          simp
    have spelled : (String.ofList ((keyLead other).toList ++ tail)).toList =
        (keyLead other).toList ++ tail := String.toList_ofList
    obtain ⟨call, isKey⟩ := isKey_iff.mpr ⟨tail, isTail, spelled⟩
    exact ⟨call, _, isKey, (taken spelled).mpr starts⟩

/-- Of two keys that agree, the one with the shorter package names a variant. -/
theorem isVariantOf_of_longer {middle tail tail' : List Char} (isTail : IsKeyTail tail)
    (isTail' : IsKeyTail tail')
    (longer : (envKey package).toList ++ ['_'] = (envKey other).toList ++ ['_'] ++ middle)
    (same : tail = middle ++ tail') : IsVariantOf package other := by
  obtain ⟨word, rfl, name⟩ := exists_word different longer
  have starts : word ++ ['_'] <+: tail := by
    rw [same]
    exact List.prefix_append _ _
  have long := isTail'.length
  have lengths := congrArg List.length same
  rw [List.length_append] at lengths
  rcases isTail.word_cases starts with ⟨rfl, rfl⟩ | ⟨rfl, rfl⟩ | ofVariant
  · simp at lengths
    omega
  · simp at lengths
    omega
  · rw [isVariantOf_iff, longer, List.append_assoc, List.prefix_append_right_inj,
      List.singleton_append, List.cons_prefix_cons]
    exact ⟨rfl, ofVariant⟩

/-- The same key can be published by both packages exactly if one is called as a variant of the
other. -/
theorem shares_iff :
    (∃ (key : String) (call call' : Publication), key ∈ (call.items package).map (·.1) ∧
      key ∈ (call'.items other).map (·.1)) ↔ IsVariantOf package other ∨ IsVariantOf other package := by
  constructor
  · rintro ⟨key, call, call', isKey, isKey'⟩
    obtain ⟨tail, isTail, spelled⟩ := isKey_iff.mp ⟨call, isKey⟩
    obtain ⟨tail', isTail', spelled'⟩ := isKey_iff.mp ⟨call', isKey'⟩
    have agree : (envKey package).toList ++ ['_'] ++ tail =
        (envKey other).toList ++ ['_'] ++ tail' := by
      simpa [toList_keyLead] using spelled.symm.trans spelled'
    rcases List.append_eq_append_iff.mp agree with ⟨middle, longer, same⟩ | ⟨middle, longer, same⟩
    · exact .inr (isVariantOf_of_longer different.symm isTail isTail' longer same)
    · exact .inl (isVariantOf_of_longer different isTail' isTail longer same)
  · rintro (isVariant | isVariant)
    · exact isVariant.exists_shared
    · obtain ⟨key, call, call', isKey, isKey'⟩ := isVariant.exists_shared
      exact ⟨key, call', call, isKey', isKey⟩

end Names

/-! ### Channels and environments -/

section Channels

variable {package other key : String} {calls others : List Publication}

theorem Channel.mem_keys_toEnviron_iff (channel : Channel) :
    key ∈ channel.toEnviron.keys ↔ ∃ value, channel.values.get? key = some value := by
  have perm := (Table.sorted_perm channel.values).map (·.1)
  unfold Channel.toEnviron Table.keys
  rw [perm.mem_iff]
  constructor
  · intro inside
    obtain ⟨⟨_, value⟩, isEntry, rfl⟩ := List.mem_map.mp inside
    exact ⟨value, Table.get?_eq_some_of_mem isEntry⟩
  · rintro ⟨value, found⟩
    exact List.mem_map_of_mem (Table.mem_of_get?_eq_some found)

theorem Channel.get?_toEnviron (channel : Channel) (key : String) :
    channel.toEnviron.get? key = channel.values.get? key :=
  Table.get?_eq_of_perm (Table.sorted_perm _) key

theorem Channel.exists_call_of_afterAttempts {value : String}
    (held : (afterAttempts package calls).values.get? key = some value) :
    ∃ call : Publication, key ∈ (call.items package).map (·.1) := by
  have each : ∀ key value, (afterAttempts package calls).values.get? key = some value →
      ∃ call : Publication, key ∈ (call.items (afterAttempts package calls).package).map (·.1) := by
    refine afterAttempts_induction (P := fun channel => ∀ key value,
      channel.values.get? key = some value →
        ∃ call : Publication, key ∈ (call.items channel.package).map (·.1)) ?_ ?_ calls
    · intro key value held
      cases held
    · intro channel call next known published key value held
      have takes := takes_of_publish published
      rw [takes.package]
      by_cases set : key ∈ (call.items channel.package).map (·.1)
      · exact ⟨call, set⟩
      · rw [takes.kept key set] at held
        exact known key value held
  rw [package_afterAttempts] at each
  exact each key value held

theorem Channel.exists_value_afterAttempts {call : Publication}
    (isKey : key ∈ (call.items package).map (·.1)) :
    ∃ value, (afterAttempts package [call]).values.get? key = some value := by
  obtain ⟨next, published⟩ : ∃ next, (empty package).publish call = .ok next := by
    rw [publish_eq_stage]
    refine ⟨_, stage_eq_ok_iff.mpr ⟨?_, rfl⟩⟩
    intro key value _ old known
    cases known
  have after : afterAttempts package [call] = next := by
    unfold afterAttempts
    rw [forM_cons, runFrom_bind_of_ok (runFrom_attempt call _), runFrom_perform, published]
    rfl
  obtain ⟨⟨_, value⟩, isItem, rfl⟩ := List.mem_map.mp isKey
  refine ⟨value, ?_⟩
  rw [after]
  exact (takes_of_publish published).set _ _ isItem

/-- The environment has the facts of two channels, and nothing else that the reader of the first
package takes. -/
structure HoldsBoth (environ : Environ) (channel other : Channel) : Prop where
  first : ∀ key value, channel.toEnviron.get? key = some value → environ.get? key = some value
  second : ∀ key value, other.toEnviron.get? key = some value → environ.get? key = some value
  only : ∀ key ∈ environ.keys, (keyLead channel.package).isPrefixOf key = true →
    key ∈ channel.toEnviron.keys ∨ key ∈ other.toEnviron.keys

/-- A reader finds exactly the facts of its package if it takes none of the other one. -/
theorem sameFacts_of_not_takesFrom (different : envKey package ≠ envKey other)
    (apart : ¬TakesFrom package other) {environ : Environ}
    (both : HoldsBoth environ (.afterAttempts package calls) (.afterAttempts other others))
    (source? : Option String) :
    (Record.ofEnviron environ package).SameFacts
      (.ofText (Channel.afterAttempts package calls).values package source?) := by
  have named : (Channel.afterAttempts package calls).package = package :=
    Channel.package_afterAttempts package calls
  refine Record.sameFacts_ofText (Table.perm_of_get? fun key value => ?_)
  rw [Table.get?_eq_some_iff]
  constructor
  · intro isEntry
    obtain ⟨inEnviron, taken⟩ := List.mem_filter.mp isEntry
    have found := Table.get?_eq_some_of_mem inEnviron
    have isKey : key ∈ environ.keys := List.mem_map_of_mem inEnviron
    rcases both.only key isKey (by rw [named]; exact taken) with own | foreign
    · obtain ⟨held, inChannel⟩ := (Channel.mem_keys_toEnviron_iff _).mp own
      have same := both.first key held (by rw [Channel.get?_toEnviron, inChannel])
      rw [found] at same
      rw [inChannel, same]
    · obtain ⟨held, inOther⟩ := (Channel.mem_keys_toEnviron_iff _).mp foreign
      obtain ⟨call, isItem⟩ := Channel.exists_call_of_afterAttempts inOther
      exact absurd ((takesFrom_iff different).mp ⟨call, key, isItem, taken⟩) apart
  · intro held
    have own := Channel.ownNames_afterAttempts package calls key value held
    rw [named] at own
    have found := both.first key value (by rw [Channel.get?_toEnviron, held])
    exact List.mem_filter.mpr ⟨Table.mem_of_get?_eq_some found, own⟩

theorem not_takesFrom_of_sameFacts (different : envKey package ≠ envKey other)
    (reads : ∀ others environ,
      HoldsBoth environ (.afterAttempts package []) (.afterAttempts other others) →
      (Record.ofEnviron environ package).SameFacts
        (.ofText (Channel.afterAttempts package []).values package (some "environment"))) :
    ¬TakesFrom package other := by
  intro takes
  obtain ⟨call, key, isKey, taken⟩ := (takesFrom_iff different).mpr takes
  obtain ⟨value, held⟩ := Channel.exists_value_afterAttempts isKey
  let foreign := Channel.afterAttempts other [call]
  have both : HoldsBoth foreign.toEnviron (.afterAttempts package []) foreign := by
    refine ⟨?_, fun _ _ found => found, fun _ inside _ => .inr inside⟩
    intro key value found
    rw [Channel.get?_toEnviron] at found
    cases found
  have nothing := (reads _ _ both).values.eq_nil
  have inEnviron : (key, value) ∈ foreign.toEnviron.entries := by
    apply Table.mem_of_get?_eq_some
    rw [Channel.get?_toEnviron, held]
  have isEntry : (key, value) ∈
      (foreign.toEnviron.filter (keyLead package).isPrefixOf).entries :=
    List.mem_filter.mpr ⟨inEnviron, taken⟩
  exact List.ne_nil_of_mem isEntry (List.map_eq_nil_iff.mp nothing)

end Channels

/-- Whatever two packages publish, a reader finds in an environment with the facts of both exactly
those of its own package, unless the names meet in one of a few ways; and the packages share no key
unless one is called as a variant of the other. -/
theorem ofEnviron_apart_iff (package other : String) (different : envKey package ≠ envKey other) :
    ((∀ calls others environ,
        HoldsBoth environ (.afterAttempts package calls) (.afterAttempts other others) →
        (Record.ofEnviron environ package).SameFacts
          (.ofText (Channel.afterAttempts package calls).values package (some "environment"))) ↔
      ¬TakesFrom package other) ∧
    ((∀ calls others key, key ∈ (Channel.afterAttempts package calls).toEnviron.keys →
        key ∉ (Channel.afterAttempts other others).toEnviron.keys) ↔
      ¬IsVariantOf package other ∧ ¬IsVariantOf other package) := by
  rw [← not_or, ← shares_iff different]
  refine ⟨⟨?_, ?_⟩, ⟨?_, ?_⟩⟩
  · exact fun reads => not_takesFrom_of_sameFacts different fun others => reads [] others
  · exact fun apart calls others environ both => sameFacts_of_not_takesFrom different apart both _
  · rintro apart ⟨key, call, call', isKey, isKey'⟩
    exact apart [call] [call'] key
      ((Channel.mem_keys_toEnviron_iff _).mpr (Channel.exists_value_afterAttempts isKey))
      ((Channel.mem_keys_toEnviron_iff _).mpr (Channel.exists_value_afterAttempts isKey'))
  · intro apart calls others key inFirst inSecond
    obtain ⟨value, held⟩ := (Channel.mem_keys_toEnviron_iff _).mp inFirst
    obtain ⟨value', held'⟩ := (Channel.mem_keys_toEnviron_iff _).mp inSecond
    obtain ⟨call, isKey⟩ := Channel.exists_call_of_afterAttempts held
    obtain ⟨call', isKey'⟩ := Channel.exists_call_of_afterAttempts held'
    exact apart ⟨key, call, call', isKey, isKey'⟩

/-- The names of these packages do not meet. -/
theorem ofEnviron_apart_of_unrelated :
    envKey "ggml-tooling" ≠ envKey "other" ∧
      (∀ calls others environ,
        HoldsBoth environ (.afterAttempts "ggml-tooling" calls) (.afterAttempts "other" others) →
        (Record.ofEnviron environ "ggml-tooling").SameFacts
          (.ofText (Channel.afterAttempts "ggml-tooling" calls).values "ggml-tooling"
            (some "environment"))) ∧
      ∀ calls others key, key ∈ (Channel.afterAttempts "ggml-tooling" calls).toEnviron.keys →
        key ∉ (Channel.afterAttempts "other" others).toEnviron.keys := by
  have different : envKey "ggml-tooling" ≠ envKey "other" := by decide +kernel
  obtain ⟨reads, shares⟩ := ofEnviron_apart_iff _ _ different
  exact ⟨different, reads.mpr (by decide +kernel), shares.mpr (by decide +kernel)⟩

/-- The variables of a package and of another one that is called like it, with one more word. -/
def namesakeEnviron : Environ :=
  (Channel.afterAttempts "ggml" [.included (.ofText "/a")]).toEnviron.setAll
    (Channel.afterAttempts "ggml-tooling" [.included (.ofText "/b")]).toEnviron.entries

/-- The facts of the package with the longer name are taken for those of the other one. A package
that is called as a variant shares keys with that variant. -/
theorem ofEnviron_meets :
    let llama : Artifacts := ⟨"llama", "x", .ofText "/i", .ofText "/l", .ofText "/b", []⟩
    let plain : Artifacts := ⟨"default", "y", .ofText "/i", .ofText "/l", .ofText "/b", []⟩
    envKey "ggml" ≠ envKey "ggml-tooling" ∧
      namesakeEnviron.entries =
        [("DEP_GGML_INCLUDE", "/a"), ("DEP_GGML_TOOLING_INCLUDE", "/b")] ∧
      ¬(Record.ofEnviron namesakeEnviron "ggml").SameFacts
        (.ofText (Channel.afterAttempts "ggml" [.included (.ofText "/a")]).values "ggml"
          (some "environment")) ∧
      envKey "ggml" ≠ envKey "ggml-ggml-llama" ∧
      "DEP_GGML_GGML_LLAMA_LIB_DIR" ∈
        (Channel.afterAttempts "ggml" [.variant llama]).toEnviron.keys ∧
      "DEP_GGML_GGML_LLAMA_LIB_DIR" ∈
        (Channel.afterAttempts "ggml-ggml-llama" [.variant plain]).toEnviron.keys := by
  intro llama plain
  have longer : (Record.ofEnviron namesakeEnviron "ggml").values.length ≠
      (Record.ofText (Channel.afterAttempts "ggml" [.included (.ofText "/a")]).values "ggml"
        (some "environment")).values.length := by
    decide +kernel
  refine ⟨by decide +kernel, by decide +kernel, ?_, by decide +kernel, ?_, ?_⟩
  · exact fun same => longer same.values.length_eq
  · exact (Channel.mem_keys_toEnviron_iff _).mpr ⟨"/l", by decide +kernel⟩
  · exact (Channel.mem_keys_toEnviron_iff _).mpr ⟨"/l", by decide +kernel⟩

end NativeVariants.Metadata
