import NativeVariants.FileTree

set_option autoImplicit false

/-!
Where paths lead. No place is reached by a link, so a path that leads anywhere leads to the location
that its parts spell out (`FileTree.locate_eq_ok`), whatever the files are.
-/

namespace NativeVariants

/-- Whatever is decided about places is decided by this comparison. -/
instance : LawfulBEq Location := inferInstance

namespace Path

@[simp]
theorem follow_nil (start : Location) : follow start [] = start := rfl

@[simp]
theorem follow_cons (start : Location) (part : String) (rest : List String) :
    follow start (part :: rest) =
      follow (if part = upward then start.dropLast else start ++ [part]) rest := rfl

theorem follow_append (start : Location) (parts more : List String) :
    follow start (parts ++ more) = follow (follow start parts) more := List.foldl_append

/-- A location that names no parent stays where it is. -/
theorem follow_append_of_not_mem {start parts : List String} (plain : upward ∉ parts) :
    follow start parts = start ++ parts := by
  induction parts generalizing start with
  | nil => simp
  | cons part rest ih =>
      have here : part ≠ upward := fun same => plain (by simp [same])
      have later : upward ∉ rest := fun inRest => plain (by simp [inRest])
      rw [follow_cons, if_neg here, ih later, List.append_assoc, List.singleton_append]

theorem not_mem_follow {start parts : List String} (plain : upward ∉ start) :
    upward ∉ follow start parts := by
  induction parts generalizing start with
  | nil => exact plain
  | cons part rest ih =>
      rw [follow_cons]
      split
      · exact ih fun inside => plain ((List.dropLast_sublist start).subset inside)
      · rename_i here
        apply ih
        simp only [List.mem_append, List.mem_singleton, not_or]
        exact ⟨plain, fun same => here same.symm⟩

theorem ofLocation_resolve_resolve {workingDir : Location} (plain : upward ∉ workingDir)
    (p : Path) (other : Location) :
    (ofLocation (p.resolve workingDir)).resolve other = p.resolve workingDir := by
  have start : upward ∉ (if p.anchor = .here then workingDir else []) := by
    split
    · exact plain
    · simp
  have resolved : upward ∉ p.resolve workingDir := not_mem_follow start
  calc (ofLocation (p.resolve workingDir)).resolve other
      = follow [] (p.resolve workingDir) := rfl
    _ = p.resolve workingDir := by rw [follow_append_of_not_mem resolved, List.nil_append]

/-- The path that leads from the root to where a path leads from a directory. -/
def absolute (workingDir : Location) (p : Path) : Path := .ofLocation (p.resolve workingDir)

end Path

namespace FileTree

theorem walk_eq_ok {tree : FileTree} {start location : Location} {parts : List String}
    (reached : tree.walk start parts = .ok location) : location = Path.follow start parts := by
  induction parts generalizing start with
  | nil =>
      simp only [walk, Except.ok.injEq] at reached
      exact reached.symm
  | cons part rest ih =>
      simp only [walk] at reached
      split at reached
      · cases reached
      · cases reached
      · exact ih reached

theorem locate_eq_ok {tree : FileTree} {workingDir location : Location} {p : Path}
    (reached : tree.locate workingDir p = .ok location) : location = p.resolve workingDir :=
  walk_eq_ok reached

end FileTree

end NativeVariants
