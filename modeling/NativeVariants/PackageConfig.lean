import NativeVariants.Feature
import NativeVariants.Pattern.Template
import NativeVariants.Variant

set_option autoImplicit false

/-!
The installed package configuration. Its library names are replaced by those of a variant, so that
the namespaced files are found. Imported targets such as `ggml::ggml-base` keep their names: they
are put out of sight behind numbered marks first and put back afterwards.
-/

namespace NativeVariants.PackageConfig
open Pattern Text

inductive Fault where
  | badTemplate (fault : TemplateFault)
  /-- A numbered mark without a target. -/
  | missingTarget
  | numeralTooLong
  deriving DecidableEq, Repr

def primary : List Char := defaultBasename.toList

def targetLead : List Char := primary ++ "::".toList

def isTargetChar (c : Char) : Bool := c.isAlphanum || c = '_' || c = '-'

/-- A part of the text: one character, or an imported target. -/
inductive Segment where
  | char (c : Char)
  | target (name : List Char)
  deriving DecidableEq, Repr

/-- The length of the imported target at the head of the text; zero if there is none. -/
def targetLength (text : List Char) : Nat :=
  if targetLead.isPrefixOf text then
    match ((text.drop targetLead.length).takeWhile isTargetChar).length with
    | 0 => 0
    | n + 1 => targetLead.length + (n + 1)
  else 0

/-- The text cut at its imported targets, leftmost first and each as long as possible. -/
def segments : List Char → List Segment
  | [] => []
  | c :: rest =>
      match targetLength (c :: rest) with
      | 0 => .char c :: segments rest
      | n + 1 => .target ((c :: rest).take (n + 1)) :: segments (rest.drop n)
termination_by text => text.length
decreasing_by
  all_goals
    simp only [List.length_cons, List.length_drop]
    omega

def targets (parts : List Segment) : List (List Char) :=
  parts.filterMap fun part =>
    match part with
    | .target name => some name
    | .char _ => none

def mark (index : Nat) : List Char := '\x00' :: (toString index).toList ++ ['\x00']

def hide (index : Nat) : List Segment → List Char
  | [] => []
  | .char c :: rest => c :: hide index rest
  | .target _ :: rest => mark index ++ hide (index + 1) rest

/-- Modules that a build may produce: the core ones, then those of the backends in order. -/
def modules : List String :=
  coreModules ++ (Backend.all.map (·.suffix)).mergeSort (fun a b => decide (a ≤ b))

def isWordChar (c : Char) : Bool := c.isAlphanum || c = '_'

def endsWord : List Char → Bool
  | [] => true
  | c :: _ => !isWordChar c

/-- The module whose library name stands at the head of the text and is not part of a longer
word. -/
def moduleAt? (text : List Char) : Option String :=
  if (primary ++ ['-']).isPrefixOf text then
    modules.find? fun m =>
      let name := primary ++ '-' :: m.toList
      name.isPrefixOf text && endsWord (text.drop name.length)
  else none

/-- Library names of modules under another basename. -/
def renameModules (basename : List Char) : List Char → List Char
  | [] => []
  | c :: rest =>
      match moduleAt? (c :: rest) with
      | none => c :: renameModules basename rest
      | some m =>
          basename ++ '-' :: m.toList ++
            renameModules basename (rest.drop (primary.length + m.length))
termination_by text => text.length
decreasing_by
  all_goals
    simp only [List.length_cons, List.length_drop]
    omega

/-- Whether the primary library name stands at the head of the text as a whole argument. -/
def isPrimaryAt (before? : Option Char) (text : List Char) : Bool :=
  (match before? with
    | some c => isBlank c
    | none => false) &&
  primary.isPrefixOf text &&
  (match text.drop primary.length with
    | c :: _ => isBlank c || c = ')'
    | [] => false)

/-- The primary library name, where it is a whole argument, replaced. -/
def renamePrimary (replacement : List Char) (before? : Option Char) : List Char → List Char
  | [] => []
  | c :: rest =>
      if isPrimaryAt before? (c :: rest) then
        replacement ++
          renamePrimary replacement primary.getLast? (rest.drop (primary.length - 1))
      else c :: renamePrimary replacement (some c) rest
termination_by text => text.length
decreasing_by
  all_goals
    simp only [List.length_cons, List.length_drop]
    omega

/-- The digits between two marks at the head of the text. -/
def markAt? : List Char → Option (List Char)
  | '\x00' :: rest =>
      let digits := rest.takeWhile isDecimal
      if !digits.isEmpty && (rest.drop digits.length).head? = some '\x00' then some digits
      else none
  | _ => none

def restore (names : List (List Char)) : List Char → Except Fault (List Char)
  | [] => .ok []
  | c :: rest =>
      match markAt? (c :: rest) with
      | none => do return c :: (← restore names rest)
      | some digits =>
          match readNat? 10 digits with
          | none => .error .numeralTooLong
          | some index =>
              match names[index]? with
              | none => .error .missingTarget
              | some name => do
                  return name ++ (← restore names (rest.drop (digits.length + 1)))
termination_by text => text.length
decreasing_by
  all_goals
    simp only [List.length_cons, List.length_drop]
    omega

/-- The configuration with the library names of the given basename. The basename is taken as a
template where it replaces the primary library name. -/
def rename (text basename : String) : Except Fault String := do
  let parts := segments text.toList
  let renamed := renameModules basename.toList (hide 0 parts)
  let template ← (Template.read basename).mapError .badTemplate
  let renamed := renamePrimary (template.expand primary) none renamed
  return String.ofList (← restore (targets parts) renamed)

end NativeVariants.PackageConfig
