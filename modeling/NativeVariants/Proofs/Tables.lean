import Mathlib.Data.List.Nodup
import NativeVariants.Table

set_option autoImplicit false

/-!
Tables as lists of entries. What is looked up is an entry, and entries under new keys are added at
the end. Setting entries leaves every other key as it was.
-/

namespace NativeVariants.Table

variable {κ α : Type} [DecidableEq κ]

theorem lookup_eq_some_of_mem {entries : List (κ × α)} (nodup : (entries.map (·.1)).Nodup)
    {key : κ} {value : α} (inside : (key, value) ∈ entries) :
    entries.lookup key = some value := by
  induction entries with
  | nil => cases inside
  | cons entry rest ih =>
      obtain ⟨k, v⟩ := entry
      rw [List.map_cons, List.nodup_cons] at nodup
      rw [lookup_cons_eq_ite]
      rcases List.mem_cons.mp inside with same | inRest
      · cases same
        exact if_pos rfl
      · have other : key ≠ k := by
          intro same
          exact nodup.1 (List.mem_map.mpr ⟨(key, value), inRest, same⟩)
        rw [if_neg other]
        exact ih nodup.2 inRest

theorem get?_eq_some_of_mem {table : Table κ α} {key : κ} {value : α}
    (inside : (key, value) ∈ table.entries) : table.get? key = some value :=
  lookup_eq_some_of_mem table.nodup inside

theorem setIn_of_fresh {entries : List (κ × α)} {key : κ} (fresh : key ∉ entries.map (·.1))
    (value : α) : setIn key value entries = entries ++ [(key, value)] := by
  induction entries with
  | nil => rfl
  | cons entry rest ih =>
      obtain ⟨k, v⟩ := entry
      simp only [List.map_cons, List.mem_cons, not_or] at fresh
      have other : k ≠ key := fun same => fresh.1 same.symm
      rw [setIn, if_neg other, ih fresh.2, List.cons_append]

/-- Entries under new keys stand at the end, in their order. -/
theorem entries_setAll_of_fresh {table : Table κ α} {items : List (κ × α)}
    (nodup : ((table.entries ++ items).map (·.1)).Nodup) :
    (table.setAll items).entries = table.entries ++ items := by
  induction items generalizing table with
  | nil => exact (List.append_nil _).symm
  | cons item rest ih =>
      obtain ⟨key, value⟩ := item
      have fresh : key ∉ table.entries.map (·.1) := by
        rw [List.map_append, List.map_cons, List.nodup_middle, List.nodup_cons,
          List.mem_append, not_or] at nodup
        exact nodup.1.1
      have placed : (table.set key value).entries = table.entries ++ [(key, value)] :=
        setIn_of_fresh fresh value
      have moved : table.entries ++ (key, value) :: rest =
          (table.set key value).entries ++ rest := by
        rw [placed, List.append_assoc, List.singleton_append]
      rw [moved] at nodup ⊢
      exact ih nodup

theorem mem_of_get?_eq_some {table : Table κ α} {key : κ} {value : α}
    (found : table.get? key = some value) : (key, value) ∈ table.entries := by
  obtain ⟨before, after, split, _⟩ := List.lookup_eq_some_iff.mp found
  rw [split]
  exact List.mem_append_right _ List.mem_cons_self

theorem get?_eq_some_iff {table : Table κ α} {key : κ} {value : α} :
    table.get? key = some value ↔ (key, value) ∈ table.entries :=
  ⟨mem_of_get?_eq_some, get?_eq_some_of_mem⟩

theorem get?_eq_of_perm {table other : Table κ α} (same : table.entries.Perm other.entries)
    (key : κ) : table.get? key = other.get? key := by
  apply Option.ext
  intro value
  rw [get?_eq_some_iff, get?_eq_some_iff, same.mem_iff]

/-- What is found does not depend on the order, and tells the entries. -/
theorem perm_of_get? {table other : Table κ α}
    (same : ∀ key value, table.get? key = some value ↔ other.get? key = some value) :
    table.entries.Perm other.entries := by
  rw [List.perm_ext_iff_of_nodup (List.Nodup.of_map _ table.nodup)
    (List.Nodup.of_map _ other.nodup)]
  rintro ⟨key, value⟩
  rw [← get?_eq_some_iff, ← get?_eq_some_iff, same]

theorem sorted_perm (table : Table String α) : table.sorted.entries.Perm table.entries :=
  List.mergeSort_perm _ _

theorem pairwise_le_sorted (table : Table String α) :
    table.sorted.entries.Pairwise fun a b => a.1 ≤ b.1 := by
  have ordered : table.sorted.entries.Pairwise fun a b => decide (a.1 ≤ b.1) = true := by
    apply List.pairwise_mergeSort
    · intro a b c below above
      exact decide_eq_true (String.le_trans (of_decide_eq_true below) (of_decide_eq_true above))
    · intro a b
      simpa using String.le_total a.1 b.1
  exact ordered.imp of_decide_eq_true

/-- No two keys are the same, so sorted keys ascend. -/
theorem pairwise_lt_sorted (table : Table String α) :
    table.sorted.entries.Pairwise fun a b => a.1 < b.1 := by
  refine (table.pairwise_le_sorted.and (List.pairwise_map.mp table.sorted.nodup)).imp ?_
  rintro a b ⟨below, apart⟩
  exact String.not_le.mp fun above => apart (String.le_antisymm below above)

/-- What is sorted no longer tells in which order it was set. -/
theorem sorted_eq_of_perm {table other : Table String α} (same : table.entries.Perm other.entries) :
    table.sorted = other.sorted := by
  have perm : table.sorted.entries.Perm other.sorted.entries :=
    (sorted_perm table).trans (same.trans (sorted_perm other).symm)
  apply Table.ext
  refine List.Perm.eq_of_pairwise ?_ table.pairwise_le_sorted other.pairwise_le_sorted perm
  -- The order is one of keys alone, but no two entries have the same key.
  intro a b inTable inOther below above
  have sameKey : a.1 = b.1 := String.le_antisymm below above
  exact List.inj_on_of_nodup_map table.sorted.nodup inTable (perm.mem_iff.mpr inOther) sameKey

theorem get?_setAll_of_not_mem {table : Table κ α} {items : List (κ × α)} {key : κ}
    (absent : key ∉ items.map (·.1)) : (table.setAll items).get? key = table.get? key := by
  induction items generalizing table with
  | nil => rfl
  | cons item rest ih =>
      rw [List.map_cons, List.mem_cons, not_or] at absent
      calc (table.setAll (item :: rest)).get? key
          = ((table.set item.1 item.2).setAll rest).get? key := rfl
        _ = (table.set item.1 item.2).get? key := ih absent.2
        _ = table.get? key := by rw [get?_set, if_neg absent.1]

theorem get?_setAll_of_mem {table : Table κ α} {items : List (κ × α)}
    (nodup : (items.map (·.1)).Nodup) {key : κ} {value : α} (inside : (key, value) ∈ items) :
    (table.setAll items).get? key = some value := by
  induction items generalizing table with
  | nil => cases inside
  | cons item rest ih =>
      rw [List.map_cons, List.nodup_cons] at nodup
      rcases List.mem_cons.mp inside with rfl | inRest
      · calc (table.setAll ((key, value) :: rest)).get? key
            = ((table.set key value).setAll rest).get? key := rfl
          _ = (table.set key value).get? key := get?_setAll_of_not_mem nodup.1
          _ = some value := by rw [get?_set, if_pos rfl]
      · exact ih nodup.2 inRest

theorem setAll_append (table : Table κ α) (items more : List (κ × α)) :
    table.setAll (items ++ more) = (table.setAll items).setAll more := List.foldl_append

theorem get?_setAll_of_forall {table : Table κ α} {items : List (κ × α)} {key : κ} {value : α}
    (inside : key ∈ items.map (·.1)) (only : ∀ v, (key, v) ∈ items → v = value) :
    (table.setAll items).get? key = some value := by
  induction items generalizing table with
  | nil => cases inside
  | cons item rest ih =>
      have step : table.setAll (item :: rest) = (table.set item.1 item.2).setAll rest := rfl
      rw [step]
      by_cases later : key ∈ rest.map (·.1)
      · exact ih later fun v inRest => only v (List.mem_cons_of_mem _ inRest)
      · obtain ⟨k, v⟩ := item
        obtain rfl | inRest := List.mem_cons.mp inside
        · rw [get?_setAll_of_not_mem later, get?_set, if_pos rfl, only v List.mem_cons_self]
        · exact absurd inRest later

/-! ### The keys -/

theorem mem_keys_iff {table : Table κ α} {key : κ} :
    key ∈ table.keys ↔ table.contains key = true := by
  rw [contains, Option.isSome_iff_exists]
  constructor
  · intro inside
    obtain ⟨⟨_, value⟩, isEntry, rfl⟩ := List.mem_map.mp inside
    exact ⟨value, get?_eq_some_of_mem isEntry⟩
  · rintro ⟨value, found⟩
    exact List.mem_map.mpr ⟨(key, value), mem_of_get?_eq_some found, rfl⟩

theorem mem_keys_set {table : Table κ α} {key other : κ} {value : α} :
    other ∈ (table.set key value).keys ↔ other = key ∨ other ∈ table.keys :=
  mem_keys_setIn key value table.entries other

theorem keys_set_of_mem {table : Table κ α} {key : κ} (inside : key ∈ table.keys) (value : α) :
    (table.set key value).keys = table.keys := by
  change (setIn key value table.entries).map (·.1) = table.entries.map (·.1)
  unfold keys at inside
  generalize table.entries = entries at inside ⊢
  induction entries with
  | nil => cases inside
  | cons entry rest ih =>
      obtain ⟨k, v⟩ := entry
      by_cases here : k = key
      · rw [setIn, if_pos here, List.map_cons, List.map_cons]
      · have later : key ∈ rest.map (·.1) :=
          (List.mem_cons.mp inside).resolve_left fun same => here same.symm
        rw [setIn, if_neg here, List.map_cons, ih later, List.map_cons]

theorem mem_keys_setNew {table : Table κ α} {key other : κ} {value : α} :
    other ∈ (table.setNew key value).keys ↔ other = key ∨ other ∈ table.keys := by
  unfold setNew
  split
  · rename_i there
    refine ⟨.inr, ?_⟩
    rintro (rfl | inside)
    · exact mem_keys_iff.mpr there
    · exact inside
  · exact mem_keys_set

theorem mem_keys_setAll {table : Table κ α} {items : List (κ × α)} {key : κ} :
    key ∈ (table.setAll items).keys ↔ key ∈ table.keys ∨ key ∈ items.map (·.1) := by
  induction items generalizing table with
  | nil => simp [setAll]
  | cons item rest ih =>
      have step : (table.setAll (item :: rest)) = (table.set item.1 item.2).setAll rest := rfl
      rw [step, ih, mem_keys_set, List.map_cons, List.mem_cons, or_assoc, or_left_comm]

theorem mem_keys_ofList {items : List (κ × α)} {key : κ} :
    key ∈ (ofList items).keys ↔ key ∈ items.map (·.1) := by
  rw [ofList, mem_keys_setAll]
  simp [empty, keys]

theorem entries_ofList_eq_nil_iff {items : List (κ × α)} :
    (ofList items).entries = [] ↔ items = [] := by
  have sameKeys (key : κ) : key ∈ (ofList items).keys ↔ key ∈ items.map (·.1) := mem_keys_ofList
  rw [← List.map_eq_nil_iff (f := (·.1)), List.eq_nil_iff_forall_not_mem]
  simp only [keys] at sameKeys
  simp only [sameKeys, ← List.eq_nil_iff_forall_not_mem, List.map_eq_nil_iff]

theorem get?_setAll_entries (table items : Table κ α) (key : κ) :
    (table.setAll items.entries).get? key = (items.get? key).or (table.get? key) := by
  cases found : items.get? key with
  | some value => exact get?_setAll_of_mem items.nodup (mem_of_get?_eq_some found)
  | none =>
      refine get?_setAll_of_not_mem fun inside => ?_
      have contained := mem_keys_iff.mp inside
      rw [contains, found] at contained
      cases contained

theorem get?_filter_of_keep {table : Table κ α} {keep : κ → Bool} {key : κ}
    (kept : keep key = true) : (table.filter keep).get? key = table.get? key := by
  have found : (table.filter keep).get? key =
      (table.entries.filter fun entry => keep entry.1).lookup key := rfl
  rw [found, get?]
  clear found
  induction table.entries with
  | nil => rfl
  | cons entry rest ih =>
      obtain ⟨k, v⟩ := entry
      rw [lookup_cons_eq_ite]
      by_cases here : keep k = true
      · rw [List.filter_cons_of_pos (by simpa using here), lookup_cons_eq_ite, ih]
      · have other : key ≠ k := by
          rintro rfl
          exact here kept
        rw [List.filter_cons_of_neg (by simpa using here), if_neg other, ih]

theorem get?_filter_of_not_keep {table : Table κ α} {keep : κ → Bool} {key : κ}
    (dropped : ¬keep key = true) : (table.filter keep).get? key = none := by
  cases found : (table.filter keep).get? key with
  | none => rfl
  | some value =>
      have inside : (key, value) ∈ table.entries.filter fun entry => keep entry.1 :=
        mem_of_get?_eq_some found
      exact absurd (List.mem_filter.mp inside).2 dropped

theorem get?_erase_of_ne {table : Table κ α} {key erased : κ} (other : key ≠ erased) :
    (table.erase erased).get? key = table.get? key :=
  get?_filter_of_keep (decide_eq_true other)

omit [DecidableEq κ] in
theorem mem_keys_of_filter {table : Table κ α} {keep : κ → Bool} {key : κ}
    (inside : key ∈ (table.filter keep).keys) : key ∈ table.keys :=
  (List.filter_sublist.map _).subset inside

theorem filter_entries_eq (table : Table κ α) (key : κ) :
    table.entries.filter (·.1 = key) = ((table.get? key).map (key, ·)).toList := by
  obtain ⟨entries, nodup⟩ := table
  unfold get?
  induction entries with
  | nil => rfl
  | cons entry rest ih =>
      obtain ⟨k, value⟩ := entry
      simp only [List.map_cons, List.nodup_cons] at nodup
      simp only [lookup_cons_eq_ite, List.filter_cons, decide_eq_true_eq]
      by_cases here : k = key
      · subst here
        have later : rest.filter (·.1 = k) = [] := by
          apply List.filter_eq_nil_iff.mpr
          intro entry inRest same
          exact nodup.1 (List.mem_map.mpr ⟨entry, inRest, of_decide_eq_true same⟩)
        simp [later]
      · simpa [here, Ne.symm here] using ih nodup.2

/-- Overlaid entries are what is left of a table in which nothing else was to be kept. -/
theorem filter_setAll_eq {table items : Table κ α} {keep : κ → Bool}
    (dropped : ∀ key ∈ table.keys, keep key = false) (kept : ∀ key ∈ items.keys, keep key = true) :
    (table.setAll items.entries).filter keep = items := by
  have nodup : ((table.entries ++ items.entries).map (·.1)).Nodup := by
    rw [List.map_append, List.nodup_append]
    refine ⟨table.nodup, items.nodup, ?_⟩
    rintro key inTable _ inItems rfl
    exact Bool.false_ne_true ((dropped key inTable).symm.trans (kept key inItems))
  apply Table.ext
  calc ((table.setAll items.entries).filter keep).entries
      = (table.entries ++ items.entries).filter fun entry => keep entry.1 := by
        rw [← entries_setAll_of_fresh nodup]
        rfl
    _ = items.entries := by
        rw [List.filter_append, List.filter_eq_nil_iff.mpr, List.filter_eq_self.mpr,
          List.nil_append]
        · exact fun entry inside => kept entry.1 (List.mem_map_of_mem inside)
        · intro entry inside
          rw [dropped entry.1 (List.mem_map_of_mem inside)]
          exact Bool.false_ne_true

end NativeVariants.Table
