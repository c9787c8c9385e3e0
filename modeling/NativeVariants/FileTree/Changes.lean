import NativeVariants.FileTree

set_option autoImplicit false

/-!
The difference between two states of the files below a directory.
-/

namespace NativeVariants

/-- Places are named from the directory on, in order. -/
structure Changes where
  /-- Files that are new or have another content. -/
  written : List (String × Content)
  /-- New directories. -/
  made : List String
  /-- Files that are gone. -/
  removed : List String
  deriving DecidableEq, Repr

namespace FileTree

def below (tree : FileTree) (root : Location) : List (String × Location) :=
  let inside := tree.entries.keys.filter fun l => root.isPrefixOf l && l ≠ root
  (inside.map fun l => ("/".intercalate (l.drop root.length), l)).mergeSort
    fun a b => decide (a.1 ≤ b.1)

def file? (tree : FileTree) (location : Location) : Option Content :=
  match tree.entry? location with
  | some (.file content) => some content
  | _ => none

def changes (old new : FileTree) (root : Location) : Changes where
  written := (new.below root).filterMap fun (name, l) =>
    match new.file? l with
    | some content => if old.file? l = some content then none else some (name, content)
    | none => none
  made := (new.below root).filterMap fun (name, l) =>
    if new.entry? l = some .directory && old.entry? l ≠ some .directory then some name else none
  removed := (old.below root).filterMap fun (name, l) =>
    if (old.file? l).isSome && (new.file? l).isNone then some name else none

end FileTree

end NativeVariants
