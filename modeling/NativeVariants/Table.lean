set_option autoImplicit false

/-!
Tables: values under distinct keys, in the order in which the keys were first set. Setting a known
key again changes its value and keeps its place.
-/

namespace NativeVariants

structure Table (κ α : Type) where
  entries : List (κ × α)
  nodup : (entries.map (·.1)).Nodup

namespace Table

variable {κ α : Type}

@[ext]
theorem ext {a b : Table κ α} (h : a.entries = b.entries) : a = b := by
  cases a; cases b; cases h; rfl

instance [DecidableEq κ] [DecidableEq α] : DecidableEq (Table κ α) := fun a b =>
  decidable_of_iff (a.entries = b.entries) ⟨ext, fun h => h ▸ rfl⟩

instance [Repr κ] [Repr α] : Repr (Table κ α) := ⟨fun table => reprPrec table.entries⟩

def empty : Table κ α := ⟨[], by simp⟩

instance : EmptyCollection (Table κ α) := ⟨empty⟩

instance : Inhabited (Table κ α) := ⟨empty⟩

def keys (table : Table κ α) : List κ := table.entries.map (·.1)

def size (table : Table κ α) : Nat := table.entries.length

def isEmpty (table : Table κ α) : Bool := table.entries.isEmpty

theorem nodup_keys_of_sublist {xs ys : List (κ × α)} (h : List.Sublist xs ys)
    (nodup : (ys.map (·.1)).Nodup) : (xs.map (·.1)).Nodup :=
  List.Pairwise.sublist (h.map _) nodup

def filter (keep : κ → Bool) (table : Table κ α) : Table κ α :=
  ⟨table.entries.filter (fun entry => keep entry.1),
    nodup_keys_of_sublist List.filter_sublist table.nodup⟩

variable [DecidableEq κ]

def get? (table : Table κ α) (key : κ) : Option α := table.entries.lookup key

def contains (table : Table κ α) (key : κ) : Bool := (table.get? key).isSome

def setIn (key : κ) (value : α) : List (κ × α) → List (κ × α)
  | [] => [(key, value)]
  | (k, v) :: rest => if k = key then (k, value) :: rest else (k, v) :: setIn key value rest

theorem mem_keys_setIn (key : κ) (value : α) (entries : List (κ × α)) (k : κ) :
    k ∈ (setIn key value entries).map (·.1) ↔ k = key ∨ k ∈ entries.map (·.1) := by
  induction entries with
  | nil => simp [setIn]
  | cons entry rest ih =>
      obtain ⟨k', v'⟩ := entry
      by_cases h : k' = key
      · subst h
        simp [setIn]
      · simp only [setIn, h, if_false, List.map_cons, List.mem_cons, ih]
        constructor
        · rintro (h | h | h) <;> simp [h]
        · rintro (h | h | h) <;> simp [h]

theorem nodup_setIn (key : κ) (value : α) (entries : List (κ × α))
    (h : (entries.map (·.1)).Nodup) : ((setIn key value entries).map (·.1)).Nodup := by
  induction entries with
  | nil => simp [setIn]
  | cons entry rest ih =>
      obtain ⟨k', v'⟩ := entry
      simp only [List.map_cons, List.nodup_cons] at h
      by_cases hk : k' = key
      · subst hk
        simp only [setIn, if_true, List.map_cons, List.nodup_cons]
        exact h
      · simp only [setIn, hk, if_false, List.map_cons, List.nodup_cons]
        refine ⟨fun hm => ?_, ih h.2⟩
        rcases (mem_keys_setIn key value rest k').1 hm with h' | h'
        · exact hk h'
        · exact h.1 h'

def set (table : Table κ α) (key : κ) (value : α) : Table κ α :=
  ⟨setIn key value table.entries, nodup_setIn key value _ table.nodup⟩

theorem lookup_cons_eq_ite (k k' : κ) (v : α) (rest : List (κ × α)) :
    ((k', v) :: rest).lookup k = if k = k' then some v else rest.lookup k := by
  by_cases h : k = k'
  · simp [h]
  · have : (k == k') = false := beq_false_of_ne h
    simp [List.lookup_cons, this, h]

theorem lookup_setIn (key : κ) (value : α) (entries : List (κ × α)) (k : κ) :
    (setIn key value entries).lookup k = if k = key then some value else entries.lookup k := by
  induction entries with
  | nil => simp [setIn, lookup_cons_eq_ite]
  | cons entry rest ih =>
      obtain ⟨k', v'⟩ := entry
      by_cases hk : k' = key
      · by_cases h : k = key <;> simp [setIn, lookup_cons_eq_ite, hk, h]
      · simp only [setIn, hk, if_false, lookup_cons_eq_ite, ih]
        by_cases h : k = k' <;> simp [h, hk]

@[simp]
theorem get?_empty (key : κ) : (empty : Table κ α).get? key = none := rfl

/-- After a key is set it has the new value, and every other key the one that it had. -/
@[simp]
theorem get?_set (table : Table κ α) (key : κ) (value : α) (k : κ) :
    (table.set key value).get? k = if k = key then some value else table.get? k :=
  lookup_setIn key value table.entries k

def setNew (table : Table κ α) (key : κ) (value : α) : Table κ α :=
  if table.contains key then table else table.set key value

def setAll (table : Table κ α) (entries : List (κ × α)) : Table κ α :=
  entries.foldl (fun table entry => table.set entry.1 entry.2) table

/-- The last value of a key counts and its first place. -/
def ofList (entries : List (κ × α)) : Table κ α := empty.setAll entries

def erase (table : Table κ α) (key : κ) : Table κ α := table.filter (· ≠ key)

def sorted (table : Table String α) : Table String α :=
  ⟨table.entries.mergeSort (fun a b => decide (a.1 ≤ b.1)),
    ((List.mergeSort_perm table.entries _).map _).nodup_iff.2 table.nodup⟩

end Table

end NativeVariants
