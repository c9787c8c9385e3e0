import NativeVariants.Command
import NativeVariants.Proofs.BuildConfig.Switches

set_option autoImplicit false

/-!
The defines as a stack of tables. The pinned values lie on top of what the environment forwards, that
on what the backends and the platform set, and the base values lie at the bottom. A value of the
environment that is covered by a pinned one is warned about, and no other.
-/

namespace NativeVariants

def BuildRequest.forwarded? (request : BuildRequest) (key : String) : Option String :=
  if isForwarded key then request.environ.get? key else none

namespace Defines

/-- The keys that decide how the libraries are laid out below the place of a variant. -/
def layoutKeys : List String :=
  ["BUILD_SHARED_LIBS", "CMAKE_INSTALL_LIBDIR", "CMAKE_INSTALL_BINDIR"]

def placeKey : String := "CMAKE_INSTALL_PREFIX"

/-- The keys whose values the environment has no say about. -/
def pinnedKeys : List String := placeKey :: nameKey :: layoutKeys

structure HavePrecedence (request : BuildRequest) (config : BuildConfig) (v : Variant)
    (installDir : String) : Prop where
  layout : ∀ key ∈ layoutKeys,
    (ofVariant config v installDir).get? key = (Table.ofList base).get? key
  place : (ofVariant config v installDir).get? placeKey = some installDir
  name : (ofVariant config v installDir).get? nameKey =
    if v.isNamespaced then some v.basename else none
  other : ∀ key, key ∉ pinnedKeys →
    (ofVariant config v installDir).get? key =
      (request.forwarded? key).or
        (((Table.ofList config.ownDefines).get? key).or ((Table.ofList base).get? key))

section Pinned

variable {v : Variant} {installDir key value : String}

theorem nodup_pinned : ((pinned v installDir).map (·.1)).Nodup := by
  unfold pinned
  split <;> simp [nameKey]

theorem mem_keys_pinned : key ∈ (pinned v installDir).map (·.1) ↔
    key ∈ pinnedKeys ∧ (key = nameKey → v.isNamespaced = true) := by
  have apart : nameKey ∉ placeKey :: layoutKeys := by decide
  have keys : (pinned v installDir).map (·.1) =
      "BUILD_SHARED_LIBS" :: placeKey :: layoutKeys.tail ++
        if v.isNamespaced then [nameKey] else [] := by
    unfold pinned
    split <;> rfl
  rw [keys]
  by_cases isName : key = nameKey
  · subst isName
    by_cases namespaced : v.isNamespaced = true
    · simp [namespaced, pinnedKeys]
    · simp [namespaced, nameKey, placeKey, layoutKeys]
  · by_cases namespaced : v.isNamespaced = true <;>
      simp [namespaced, isName, pinnedKeys, layoutKeys, or_left_comm]

/-- A pinned define is what the build gets. -/
theorem get?_ofVariant_of_mem {config : BuildConfig} (isPinned : (key, value) ∈ pinned v installDir) :
    (ofVariant config v installDir).get? key = some value :=
  Table.get?_setAll_of_mem nodup_pinned isPinned

end Pinned

end Defines

open Defines

namespace BuildConfig

def ownKeys : List String :=
  Backend.all.flatMap (fun b => b.defines.map (·.1)) ++
    ["GGML_METAL", "GGML_OPENMP", "BLAS_INCLUDE_DIRS", "AMDGPU_TARGETS", "CMAKE_CXX_FLAGS"]

variable {request : BuildRequest} {config : BuildConfig} {key value : String}

theorem mem_ownKeys (inside : key ∈ config.ownDefines.map (·.1)) : key ∈ ownKeys := by
  unfold ownDefines at inside
  rw [List.map_append, List.mem_append, List.map_flatMap, List.mem_flatMap] at inside
  rcases inside with ⟨b, _, isKey⟩ | ofPlatform
  · apply List.mem_append_left
    exact List.mem_flatMap.mpr ⟨b, b.mem_all, isKey⟩
  · apply List.mem_append_right
    obtain ⟨entry, isDefine, rfl⟩ := List.mem_map.mp ofPlatform
    rcases key_of_mem_platformDefines isDefine with ⟨isMetal, _⟩ | other
    · simp [isMetal]
    · exact List.mem_cons_of_mem _ other

theorem get?_ownDefines_of_pinned (isPinned : key ∈ pinnedKeys) :
    (Table.ofList config.ownDefines).get? key = none := by
  have apart : ∀ key ∈ pinnedKeys, key ∉ ownKeys := by decide +kernel
  unfold Table.ofList
  rw [Table.get?_setAll_of_not_mem fun inside => apart key isPinned (mem_ownKeys inside)]
  rfl

theorem get?_forwarded_eq (resolved : resolve request = .ok config) (key : String) :
    config.forwarded.get? key = request.forwarded? key := by
  unfold BuildRequest.forwarded?
  split
  · rename_i isDefine
    exact get?_forwarded resolved isDefine
  · rename_i noDefine
    rw [forwarded_of_resolve resolved, Table.get?_eq_of_perm (Table.sorted_perm _)]
    exact Table.get?_filter_of_not_keep noDefine

/-- Below the pinned values the environment comes first and the base values last. -/
theorem get?_unpinned (resolved : resolve request = .ok config) (v : Variant)
    (unerased : key = nameKey → v.isNamespaced = true) :
    (unpinned config v).get? key =
      (request.forwarded? key).or
        (((Table.ofList config.ownDefines).get? key).or ((Table.ofList base).get? key)) := by
  have all : ((Table.ofList base).setAll config.defines.entries).get? key =
      (request.forwarded? key).or
        (((Table.ofList config.ownDefines).get? key).or ((Table.ofList base).get? key)) := by
    rw [Table.get?_setAll_entries, get?_defines, get?_forwarded_eq resolved, Option.or_assoc]
  unfold unpinned
  split
  · exact all
  · rename_i plain
    rw [Table.get?_erase_of_ne fun isName => plain (unerased isName)]
    exact all

theorem havePrecedence_of_resolve (resolved : resolve request = .ok config) (v : Variant)
    (installDir : String) : HavePrecedence request config v installDir where
  layout := by
    intro key isLayout
    have isPinned : ∃ value, (key, value) ∈ pinned v installDir ∧
        (Table.ofList base).get? key = some value := by
      simp only [layoutKeys, List.mem_cons, List.not_mem_nil, or_false] at isLayout
      rcases isLayout with rfl | rfl | rfl
      · exact ⟨"ON", by simp [pinned], by decide⟩
      · exact ⟨"lib", by simp [pinned], by decide⟩
      · exact ⟨"bin", by simp [pinned], by decide⟩
    obtain ⟨value, inside, found⟩ := isPinned
    rw [found]
    exact get?_ofVariant_of_mem inside
  place := get?_ofVariant_of_mem (by simp [pinned, placeKey])
  name := by
    split
    · rename_i namespaced
      exact get?_ofVariant_of_mem (by simp [pinned, namespaced])
    · rename_i plain
      have unset : nameKey ∉ (pinned v installDir).map (·.1) :=
        fun inside => plain ((mem_keys_pinned.mp inside).2 rfl)
      unfold ofVariant
      rw [Table.get?_setAll_of_not_mem unset]
      unfold unpinned
      rw [if_neg plain]
      exact Table.get?_filter_of_not_keep (by simp)
  other := by
    intro key unpinnedKey
    have unset : key ∉ (pinned v installDir).map (·.1) :=
      fun inside => unpinnedKey (mem_keys_pinned.mp inside).1
    have other : key ≠ nameKey := by
      rintro rfl
      exact unpinnedKey (by decide)
    unfold ofVariant
    rw [Table.get?_setAll_of_not_mem unset]
    exact get?_unpinned resolved v fun isName => absurd isName other

/-- Two builds of one configuration differ in their place and their name alone. -/
theorem get?_ofVariant_eq (resolved : resolve request = .ok config) (v w : Variant)
    (installDir otherDir : String) (noPlace : key ≠ placeKey) (noName : key ≠ nameKey) :
    (ofVariant config v installDir).get? key = (ofVariant config w otherDir).get? key := by
  have first := havePrecedence_of_resolve resolved v installDir
  have second := havePrecedence_of_resolve resolved w otherDir
  by_cases isLayout : key ∈ layoutKeys
  · rw [first.layout key isLayout, second.layout key isLayout]
  · have unpinnedKey : key ∉ pinnedKeys := by simp [pinnedKeys, noPlace, noName, isLayout]
    rw [first.other key unpinnedKey, second.other key unpinnedKey]

end BuildConfig

/-! ### The arguments of the configuration -/

/-- The key and the value that an argument of the form `-DKEY=VALUE` defines. -/
def Command.definition? (argument : String) : Option (String × String) :=
  match argument.toList with
  | '-' :: 'D' :: rest =>
      some (String.ofList (rest.takeWhile (· ≠ '=')),
        String.ofList ((rest.dropWhile (· ≠ '=')).drop 1))
  | _ => none

theorem Command.definition?_argument {key : String} (named : '=' ∉ key.toList) (value : String) :
    definition? s!"-D{key}={value}" = some (key, value) := by
  have before : ∀ c ∈ key.toList, decide (c ≠ '=') = true := by
    intro c inside
    simp only [decide_eq_true_eq]
    rintro rfl
    exact named inside
  have spelled : s!"-D{key}={value}".toList = '-' :: 'D' :: (key.toList ++ '=' :: value.toList) := by
    simp only [String.toList_append, List.append_assoc]
    rfl
  unfold definition?
  rw [spelled]
  simp only [List.takeWhile_append_of_pos before, List.dropWhile_append_of_pos before]
  simp

theorem Command.filter_configure {defines : Table String String}
    (named : ∀ key ∈ defines.keys, '=' ∉ key.toList) (tool : String) (sourceDir buildDir : Path)
    (key : String) :
    ((configure tool sourceDir buildDir defines).drop 5).filter
        (fun argument => (definition? argument).map (·.1) = some key) =
      ((defines.get? key).map fun value => s!"-D{key}={value}").toList := by
  have dropped : (configure tool sourceDir buildDir defines).drop 5 =
      defines.entries.map fun entry => s!"-D{entry.1}={entry.2}" := rfl
  have reads : ∀ entry ∈ defines.entries,
      decide ((definition? s!"-D{entry.1}={entry.2}").map (·.1) = some key) =
        decide (entry.1 = key) := by
    intro entry inside
    rw [definition?_argument (named _ (List.mem_map_of_mem inside))]
    simp
  rw [dropped, List.filter_map]
  calc (defines.entries.filter fun entry =>
          decide ((definition? s!"-D{entry.1}={entry.2}").map (·.1) = some key)).map
            (fun entry => s!"-D{entry.1}={entry.2}")
      = (defines.entries.filter (·.1 = key)).map (fun entry => s!"-D{entry.1}={entry.2}") := by
        rw [List.filter_congr reads]
    _ = ((defines.get? key).map fun value => s!"-D{key}={value}").toList := by
        rw [Table.filter_entries_eq]
        cases defines.get? key with
        | none => rfl
        | some value => rfl

namespace BuildConfig

variable {request : BuildRequest} {config : BuildConfig} {key value : String}

theorem mem_keys_forwarded (resolved : resolve request = .ok config)
    (inside : key ∈ config.forwarded.keys) : key ∈ request.environ.keys := by
  rw [forwarded_of_resolve resolved] at inside
  have inFilter : key ∈ (request.environ.filter isForwarded).keys :=
    ((Table.sorted_perm _).map _).subset inside
  exact Table.mem_keys_of_filter inFilter

theorem mem_keys_ofVariant (resolved : resolve request = .ok config) {v : Variant}
    {installDir : String} (inside : key ∈ (ofVariant config v installDir).keys) :
    key ∈ pinnedKeys ++ base.map (·.1) ++ ownKeys ∨ key ∈ request.environ.keys := by
  have ofAll (inAll : key ∈ ((Table.ofList base).setAll config.defines.entries).keys) :
      key ∈ pinnedKeys ++ base.map (·.1) ++ ownKeys ∨ key ∈ request.environ.keys := by
    rcases Table.mem_keys_setAll.mp inAll with ofBase | ofConfig
    · exact .inl (by simp [Table.mem_keys_ofList.mp ofBase])
    · have inDefines : key ∈ config.defines.keys := ofConfig
      rw [defines_eq, Table.mem_keys_setAll] at inDefines
      rcases inDefines with own | forwarded
      · exact .inl (by simp [mem_ownKeys (Table.mem_keys_ofList.mp own)])
      · exact .inr (mem_keys_forwarded resolved forwarded)
  rcases Table.mem_keys_setAll.mp inside with below | ofPinned
  · unfold unpinned at below
    split at below
    · exact ofAll below
    · exact ofAll (Table.mem_keys_of_filter below)
  · exact .inl (by simp [(mem_keys_pinned.mp ofPinned).1])

/-- Where the names of the environment have no `=`, as those of a system have none, the keys of a
build have none. -/
theorem named_of_resolve (resolved : resolve request = .ok config)
    (named : ∀ name ∈ request.environ.keys, '=' ∉ name.toList) (v : Variant) (installDir : String) :
    ∀ key ∈ (ofVariant config v installDir).keys, '=' ∉ key.toList := by
  have own : ∀ key ∈ pinnedKeys ++ base.map (·.1) ++ ownKeys, '=' ∉ key.toList := by
    decide +kernel
  intro key inside
  rcases mem_keys_ofVariant resolved inside with isOwn | ofEnviron
  · exact own key isOwn
  · exact named key ofEnviron

end BuildConfig

namespace Defines

/-! ### The warnings -/

/-- What is said about a value of the environment that is not used. -/
def warning (v : Variant) (key value : String) : String :=
  if key = nameKey ∧ v.isNamespaced = false then
    s!"Ignoring {key} from the environment for the {v.name} variant"
  else s!"Ignoring {key}={value} from the environment for variant {v.name}"

theorem warning_of_plain {v : Variant} (plain : v.isNamespaced = false) (value : String) :
    warning v nameKey value = s!"Ignoring {nameKey} from the environment for the {v.name} variant" :=
  if_pos ⟨rfl, plain⟩

theorem warning_of_kept {v : Variant} {key : String} (kept : key = nameKey → v.isNamespaced = true)
    (value : String) :
    warning v key value = s!"Ignoring {key}={value} from the environment for variant {v.name}" := by
  refine if_neg ?_
  rintro ⟨isName, plain⟩
  rw [kept isName] at plain
  cases plain

variable {request : BuildRequest} {config : BuildConfig} {v : Variant} {installDir key text : String}

theorem mem_warnings : text ∈ warnings config v installDir ↔
    (v.isNamespaced = false ∧ config.defines.contains nameKey = true ∧
      text = s!"Ignoring {nameKey} from the environment for the {v.name} variant") ∨
    ∃ key value other, (key, value) ∈ pinned v installDir ∧
      (unpinned config v).get? key = some other ∧ other ≠ value ∧
      text = s!"Ignoring {key}={other} from the environment for variant {v.name}" := by
  unfold warnings
  rw [List.mem_append, List.mem_filterMap]
  refine or_congr ?_ ⟨?_, ?_⟩
  · by_cases ofName : v.isNamespaced = false ∧ config.defines.contains nameKey = true
    · simp [ofName]
    · rw [if_neg (by simpa using ofName)]
      simp only [List.not_mem_nil, false_iff]
      rintro ⟨plain, contained, _⟩
      exact ofName ⟨plain, contained⟩
  · rintro ⟨⟨key, value⟩, isPinned, warned⟩
    simp only at warned
    split at warned
    · cases warned
    · rename_i other found
      split at warned
      · cases warned
      · rename_i differs
        exact ⟨key, value, other, isPinned, found, differs, (Option.some.inj warned).symm⟩
  · rintro ⟨key, value, other, isPinned, found, differs, rfl⟩
    refine ⟨(key, value), isPinned, ?_⟩
    simp [found, differs]

/-- What a pinned value covers comes from the environment, or it is a base value. -/
theorem get?_unpinned_of_pinned (resolved : BuildConfig.resolve request = .ok config)
    (isPinned : key ∈ pinnedKeys) (kept : key = nameKey → v.isNamespaced = true) :
    (unpinned config v).get? key =
      (request.forwarded? key).or ((Table.ofList base).get? key) := by
  rw [BuildConfig.get?_unpinned resolved v kept, BuildConfig.get?_ownDefines_of_pinned isPinned,
    Option.none_or]

/-- There is a warning for each value of the environment that is covered by a pinned one, or dropped
with the name, and there is no other warning. -/
theorem mem_warnings_iff (resolved : BuildConfig.resolve request = .ok config) :
    text ∈ warnings config v installDir ↔
      ∃ key value, key ∈ pinnedKeys ∧ request.forwarded? key = some value ∧
        (ofVariant config v installDir).get? key ≠ some value ∧ text = warning v key value := by
  have precedence := BuildConfig.havePrecedence_of_resolve resolved v installDir
  have ofName : config.defines.get? nameKey = request.forwarded? nameKey := by
    rw [BuildConfig.get?_defines, BuildConfig.get?_forwarded_eq resolved,
      BuildConfig.get?_ownDefines_of_pinned (by decide), Option.or_none]
  rw [mem_warnings]
  constructor
  · rintro (⟨plain, contained, rfl⟩ | ⟨key, value, other, isPinned, found, differs, rfl⟩)
    · rw [Table.contains, ofName, Option.isSome_iff_exists] at contained
      obtain ⟨value, forwarded⟩ := contained
      refine ⟨nameKey, value, by decide, forwarded, ?_, (warning_of_plain plain value).symm⟩
      simp [precedence.name, plain]
    · obtain ⟨pinnedKey, kept⟩ := mem_keys_pinned.mp (List.mem_map_of_mem isPinned)
      have passed : (ofVariant config v installDir).get? key = some value :=
        get?_ofVariant_of_mem isPinned
      have noBase : (Table.ofList base).get? key ≠ some other := by
        intro ofBase
        have isLayout : key ∈ layoutKeys := by
          have baseKeys : ∀ key ∈ pinnedKeys, ((Table.ofList base).get? key).isSome →
              key ∈ layoutKeys := by decide
          exact baseKeys key pinnedKey (by simp [ofBase])
        rw [precedence.layout key isLayout, ofBase] at passed
        exact differs (Option.some.inj passed)
      rw [get?_unpinned_of_pinned resolved pinnedKey kept, Option.or_eq_some_iff] at found
      rcases found with forwarded | ⟨_, ofBase⟩
      · refine ⟨key, other, pinnedKey, forwarded, ?_, (warning_of_kept kept other).symm⟩
        rw [passed]
        exact fun same => differs (Option.some.inj same).symm
      · exact absurd ofBase noBase
  · rintro ⟨key, other, pinnedKey, forwarded, unused, rfl⟩
    by_cases kept : key = nameKey → v.isNamespaced = true
    · right
      have inPinned : key ∈ (pinned v installDir).map (·.1) :=
        mem_keys_pinned.mpr ⟨pinnedKey, kept⟩
      obtain ⟨⟨_, value⟩, isPinned, rfl⟩ := List.mem_map.mp inPinned
      rw [get?_ofVariant_of_mem isPinned] at unused
      refine ⟨_, value, other, isPinned, ?_, ?_, warning_of_kept kept other⟩
      · rw [get?_unpinned_of_pinned resolved pinnedKey kept, forwarded, Option.some_or]
      · rintro rfl
        exact unused rfl
    · left
      rw [Classical.not_imp, Bool.not_eq_true] at kept
      obtain ⟨rfl, plain⟩ := kept
      refine ⟨plain, ?_, warning_of_plain plain other⟩
      rw [Table.contains, ofName, forwarded]
      rfl

end Defines

end NativeVariants
