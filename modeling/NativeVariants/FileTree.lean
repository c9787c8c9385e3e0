import NativeVariants.Failure
import NativeVariants.Path

set_option autoImplicit false

/-!
Files and directories by their location. A location that is reached through a path lies in a
directory: every step on the way has to lead through one.
-/

namespace NativeVariants

inductive Content where
  | text (text : String)
  /-- Bytes that are no text. -/
  | raw (bytes : List UInt8)
  deriving DecidableEq, Repr

def Content.ofBytes (bytes : List UInt8) : Content :=
  match String.fromUTF8? ⟨bytes.toArray⟩ with
  | some s => .text s
  | none => .raw bytes

inductive Entry where
  | directory
  | file (content : Content)
  deriving DecidableEq, Repr

structure FileTree where
  entries : Table Location Entry
  deriving DecidableEq, Repr

namespace FileTree

def empty : FileTree := ⟨∅⟩

instance : Inhabited FileTree := ⟨empty⟩

/-- What is at a location. The root is always a directory. -/
def entry? (tree : FileTree) (location : Location) : Option Entry :=
  if location = [] then some .directory else tree.entries.get? location

def set (tree : FileTree) (location : Location) (entry : Entry) : FileTree :=
  ⟨tree.entries.set location entry⟩

def remove (tree : FileTree) (location : Location) : FileTree :=
  ⟨tree.entries.filter fun other => !location.isPrefixOf other⟩

/-- Where parts lead from a location. All but the last step have to lead through directories. -/
def walk (tree : FileTree) (location : Location) : List String → Except FileFault Location
  | [] => .ok location
  | part :: rest =>
      match tree.entry? location with
      | none => .error .notFound
      | some (.file _) => .error .notDirectory
      | some .directory =>
          walk tree (if part = Path.upward then location.dropLast else location ++ [part]) rest

def locate (tree : FileTree) (workingDir : Location) (p : Path) : Except FileFault Location :=
  tree.walk (if p.anchor = .here then workingDir else []) p.parts

/-- What a path leads to; nothing if it leads nowhere. -/
def find? (tree : FileTree) (workingDir : Location) (p : Path) : Option Entry :=
  if p.isNameable then
    match tree.locate workingDir p with
    | .ok location => tree.entry? location
    | .error _ => none
  else none

def read (tree : FileTree) (location : Location) : Except FileFault Content :=
  match tree.entry? location with
  | none => .error .notFound
  | some .directory => .error .isDirectory
  | some (.file content) => .ok content

def write (tree : FileTree) (location : Location) (content : Content) :
    Except FileFault FileTree :=
  match tree.entry? location.dropLast, tree.entry? location with
  | _, some .directory => .error .isDirectory
  | none, _ => .error .notFound
  | some (.file _), _ => .error .notDirectory
  | some .directory, _ => .ok (tree.set location (.file content))

def makeDirectory (tree : FileTree) (location : Location) : Except FileFault FileTree :=
  match tree.entry? location.dropLast, tree.entry? location with
  | _, some _ => .error .alreadyExists
  | none, _ => .error .notFound
  | some (.file _), _ => .error .notDirectory
  | some .directory, none => .ok (tree.set location .directory)

/-- A file takes the place of another one, or a free place. -/
def move (tree : FileTree) (source target : Location) : Except FileFault FileTree := do
  let content ← tree.read source
  if tree.entry? target = some .directory then throw .isDirectory
  return (tree.remove source).set target (.file content)

def names (tree : FileTree) (location : Location) : List String :=
  let inside := tree.entries.keys.filter fun other =>
    other ≠ [] && other.dropLast = location
  (inside.map fun other => other.getLastD "").mergeSort fun a b => decide (a ≤ b)

/-- The tree in which all directories on the way to a location exist; files in the way stay. -/
def withParents (tree : FileTree) (location : Location) : FileTree :=
  (List.range location.length).foldl
    (fun tree n =>
      if (tree.entry? (location.take n)).isNone then tree.set (location.take n) .directory
      else tree)
    tree

end FileTree

end NativeVariants
