import NativeVariants.Metadata.Channel
import NativeVariants.Proofs.Metadata.Keys
import NativeVariants.Proofs.Tables

set_option autoImplicit false

/-!
The facts that builds with different basenames publish. Two variants whose names have the same lead
would publish their basenames under one name, which the channel refuses; so a channel that has taken
the facts of all variants holds every one of them under a name of its own (`Holds.publishAll`).
-/

namespace NativeVariants

def Artifacts.origin (artifacts : Artifacts) : Variant := ⟨artifacts.variant, artifacts.basename⟩

namespace Metadata.Channel

theorem conflict?_eq_none_iff {values : Table String String} {items : List (String × String)} :
    conflict? values items = none ↔
      ∀ key value, (key, value) ∈ items → ∀ old, values.get? key = some old → old = value := by
  unfold conflict?
  rw [List.findSome?_eq_none_iff, Prod.forall]
  refine forall_congr' fun key => forall_congr' fun value => imp_congr_right fun _ => ?_
  cases known : values.get? key with
  | none => simp [known]
  | some old => simp [known]

theorem stage_eq_ok_iff {channel channel' : Channel} {items : List (String × String)} :
    channel.stage items = .ok channel' ↔
      (∀ key value, (key, value) ∈ items →
        ∀ old, channel.values.get? key = some old → old = value) ∧
      channel' = { channel with values := channel.values.setAll items } := by
  rw [← conflict?_eq_none_iff]
  unfold stage
  cases conflict? channel.values items with
  | none => simp [eq_comm]
  | some problem => simp

/-- Everything that a build publishes, in order. -/
def facts (package : String) (includeDir : Path) (sets : List Artifacts) :
    List (String × String) :=
  includeItems package includeDir ++ sets.flatMap (variantItems package)

theorem keys_facts (package : String) (includeDir : Path) (sets : List Artifacts) :
    (facts package includeDir sets).map (·.1) =
      expectedKeys package (sets.map Artifacts.origin) := by
  unfold facts expectedKeys
  rw [List.map_append, List.map_flatMap, List.flatMap_map]
  rfl

theorem facts_append (package : String) (includeDir : Path) (sets more : List Artifacts) :
    facts package includeDir (sets ++ more) =
      facts package includeDir sets ++ more.flatMap (variantItems package) := by
  unfold facts
  rw [List.flatMap_append, List.append_assoc]

/-- The channel holds the facts of the artifacts and nothing else, each under a name of its own. -/
structure Holds (package : String) (includeDir : Path) (sets : List Artifacts)
    (channel : Channel) : Prop where
  named : channel.package = package
  entries : channel.values.entries = facts package includeDir sets
  leads : ((sets.map Artifacts.origin).map fun v => variantLead package v.name).Nodup

section Publishing

variable {package : String} {includeDir : Path} {sets : List Artifacts} {channel channel' : Channel}

theorem holds_publishInclude
    (published : (empty package).publishInclude includeDir = .ok channel') :
    Holds package includeDir [] channel' := by
  obtain ⟨_, rfl⟩ := stage_eq_ok_iff.mp published
  exact ⟨rfl, rfl, .nil⟩

theorem Holds.keys (holds : Holds package includeDir sets channel) :
    channel.values.keys = expectedKeys package (sets.map Artifacts.origin) := by
  unfold Table.keys
  rw [holds.entries, keys_facts]

theorem Holds.get?_includeKey (holds : Holds package includeDir sets channel) :
    channel.values.get? (includeKey package) = some includeDir.display := by
  apply Table.get?_eq_some_of_mem
  rw [holds.entries]
  exact List.mem_append_left _ (List.mem_singleton.mpr rfl)

theorem Holds.get?_variantItem (holds : Holds package includeDir sets channel) {set : Artifacts}
    (inside : set ∈ sets) {key value : String} (published : (key, value) ∈ variantItems package set) :
    channel.values.get? key = some value := by
  apply Table.get?_eq_some_of_mem
  rw [holds.entries]
  exact List.mem_append_right _ (List.mem_flatMap.mpr ⟨set, inside, published⟩)

theorem Holds.lead_fresh (holds : Holds package includeDir sets channel) {set : Artifacts}
    (published : channel.publishVariant set = .ok channel')
    (distinct : ∀ other ∈ sets, other.basename ≠ set.basename) :
    ∀ other ∈ sets, variantLead package other.variant ≠ variantLead package set.variant := by
  intro other inside same
  obtain ⟨agrees, _⟩ := stage_eq_ok_iff.mp published
  have shared : variantKey package other.variant .basename =
      variantKey package set.variant .basename := variantKey_eq_iff.mpr ⟨rfl, same⟩
  have known : channel.values.get? (variantKey package other.variant .basename) =
      some other.basename := holds.get?_variantItem inside (by simp [variantItems])
  rw [shared] at known
  rw [holds.named] at agrees
  exact distinct other inside (agrees _ set.basename (by simp [variantItems]) _ known)

theorem Holds.exists_publishVariant (holds : Holds package includeDir sets channel)
    {set : Artifacts}
    (fresh : ∀ other ∈ sets, variantLead package other.variant ≠ variantLead package set.variant) :
    ∃ channel', channel.publishVariant set = .ok channel' := by
  refine ⟨_, stage_eq_ok_iff.mpr ⟨?_, rfl⟩⟩
  intro key value isItem old known
  have named : ∃ f, key = variantKey package set.variant f := by
    rw [holds.named] at isItem
    rcases List.mem_cons.mp isItem with same | isLater
    · exact ⟨.libDir, (Prod.mk.inj same).1⟩
    · rcases List.mem_pair.mp isLater with same | same
      · exact ⟨.binDir, (Prod.mk.inj same).1⟩
      · exact ⟨.basename, (Prod.mk.inj same).1⟩
  obtain ⟨f, rfl⟩ := named
  have isKey : variantKey package set.variant f ∈ channel.values.keys :=
    List.mem_map_of_mem (Table.mem_of_get?_eq_some known)
  rw [holds.keys, variantKey_mem_expectedKeys_iff] at isKey
  obtain ⟨v, isOrigin, same⟩ := isKey
  obtain ⟨other, inside, rfl⟩ := List.mem_map.mp isOrigin
  exact absurd same (fresh other inside)

theorem Holds.publishVariant (holds : Holds package includeDir sets channel) {set : Artifacts}
    (published : channel.publishVariant set = .ok channel')
    (distinct : ∀ other ∈ sets, other.basename ≠ set.basename) :
    Holds package includeDir (sets ++ [set]) channel' := by
  have fresh := holds.lead_fresh published distinct
  obtain ⟨_, rfl⟩ := stage_eq_ok_iff.mp published
  have leads : (((sets ++ [set]).map Artifacts.origin).map
      fun v => variantLead package v.name).Nodup := by
    simp only [List.map_append, List.map_cons, List.map_nil]
    rw [List.nodup_append]
    refine ⟨holds.leads, List.nodup_singleton _, ?_⟩
    intro lead inBefore lead' isNew same
    obtain ⟨v, inOrigins, rfl⟩ := List.mem_map.mp inBefore
    obtain ⟨other, inside, rfl⟩ := List.mem_map.mp inOrigins
    rw [List.mem_singleton] at isNew
    exact fresh other inside (same.trans isNew)
  have whole : facts package includeDir (sets ++ [set]) =
      channel.values.entries ++ variantItems channel.package set := by
    rw [facts_append, holds.entries, holds.named, List.flatMap_cons, List.flatMap_nil,
      List.append_nil]
  refine ⟨holds.named, ?_, leads⟩
  rw [whole]
  apply Table.entries_setAll_of_fresh
  rw [← whole, keys_facts]
  exact nodup_expectedKeys _ _ leads

/-- If all sets have basenames of their own and are taken one after another, all of their facts are
held. -/
theorem Holds.publishAll (holds : Holds package includeDir sets channel) {more : List Artifacts}
    (published : more.foldlM Channel.publishVariant channel = .ok channel')
    (distinct : ((sets ++ more).map Artifacts.basename).Nodup) :
    Holds package includeDir (sets ++ more) channel' := by
  induction more generalizing sets channel with
  | nil =>
      cases published
      rwa [List.append_nil]
  | cons set rest ih =>
      rw [List.foldlM_cons] at published
      cases first : channel.publishVariant set with
      | error problem =>
          rw [first] at published
          cases published
      | ok next =>
          rw [first] at published
          have apart : ∀ other ∈ sets, other.basename ≠ set.basename := by
            intro other inside same
            rw [List.map_append, List.map_cons, List.nodup_middle, List.nodup_cons,
              List.mem_append] at distinct
            exact distinct.1 (.inl (List.mem_map.mpr ⟨other, inside, same⟩))
          rw [List.append_cons] at distinct ⊢
          exact ih (holds.publishVariant first apart) published distinct

end Publishing

end Metadata.Channel

end NativeVariants
