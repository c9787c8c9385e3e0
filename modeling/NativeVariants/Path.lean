import NativeVariants.Text.Digit

set_option autoImplicit false

/-!
Paths as texts name them: perhaps anchored at the root, and a list of parts. Empty parts and single
dots vanish when a path is read; double dots stay until the path is resolved.
-/

namespace NativeVariants

/-- Where a path begins. Two leading slashes are kept apart from one. -/
inductive PathAnchor where
  | here
  | root
  | doubleRoot
  deriving DecidableEq, Repr

def PathAnchor.display : PathAnchor → String
  | .here => ""
  | .root => "/"
  | .doubleRoot => "//"

/-- The names that lead from the root to a file or directory. -/
abbrev Location := List String

structure Path where
  anchor : PathAnchor
  parts : List String
  deriving DecidableEq, Repr

namespace Path

/-- The part that leads back to the parent directory. -/
def upward : String := ".."

/-- The parts of a text that are neither empty nor a single dot. -/
def partsOf (text : List Char) : List String :=
  ((text.splitOn '/').map String.ofList).filter fun part => part ≠ "" && part ≠ "."

def anchorOf (text : List Char) : PathAnchor :=
  match (text.takeWhile (· = '/')).length with
  | 0 => .here
  | 2 => .doubleRoot
  | _ => .root

def ofText (text : String) : Path := ⟨anchorOf text.toList, partsOf text.toList⟩

def ofLocation (location : Location) : Path := ⟨.root, location⟩

def display (p : Path) : String :=
  if p.anchor = .here && p.parts.isEmpty then "."
  else p.anchor.display ++ "/".intercalate p.parts

/-- A path seen from another one. An anchored path stands alone. -/
def join (p q : Path) : Path :=
  if q.anchor = .here then ⟨p.anchor, p.parts ++ q.parts⟩ else q

def child (p : Path) (text : String) : Path := p.join (ofText text)

def parent (p : Path) : Path := ⟨p.anchor, p.parts.dropLast⟩

/-- The last part; empty if there is none. -/
def name (p : Path) : String := p.parts.getLastD ""

def withName (p : Path) (name : String) : Path := ⟨p.anchor, p.parts.dropLast ++ [name]⟩

/-- Follows parts one by one; double dots lead to the parent, and the root is its own parent. -/
def follow (start : Location) (parts : List String) : Location :=
  parts.foldl (fun location part => if part = upward then location.dropLast else location ++ [part]) start

/-- The location that a path names when seen from a directory, whether it exists or not. -/
def resolve (workingDir : Location) (p : Path) : Location :=
  follow (if p.anchor = .here then workingDir else []) p.parts

/-- Whether no part holds a NUL character, which no file system accepts. -/
def isNameable (p : Path) : Bool := p.parts.all fun part => !part.toList.contains '\x00'

end Path

end NativeVariants
