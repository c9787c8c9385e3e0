import NativeVariants.Table
import NativeVariants.Text.Blank
import NativeVariants.Text.Case

set_option autoImplicit false

/-!
The environment of a run: texts under names. Names of packages and variants are brought into the
form in which they can be part of such a name.
-/

namespace NativeVariants
open Text

abbrev Environ := Table String String

def runsOf (p : Char → Bool) : List Char → List (List Char)
  | [] => []
  | c :: rest =>
      if p c then
        match rest with
        | [] => [[c]]
        | d :: _ =>
            if p d then
              match runsOf p rest with
              | run :: runs => (c :: run) :: runs
              | [] => [[c]]
            else [c] :: runsOf p rest
      else runsOf p rest

/-- One mark in place of every stretch of characters without the property. -/
def squeeze (p : Char → Bool) (mark : Char) : List Char → List Char
  | [] => []
  | c :: rest =>
      if p c then c :: squeeze p mark rest
      else if rest.head?.all p then mark :: squeeze p mark rest
      else squeeze p mark rest

def trim (mark : Char) (text : List Char) : List Char :=
  ((text.dropWhile (· = mark)).reverse.dropWhile (· = mark)).reverse

def envKey (name : String) : String :=
  upper (String.ofList (trim '_' (squeeze Char.isAlphanum '_' name.toList)))

/-- The items of a list that is separated by commas and blanks. -/
def splitList (text : String) : List String :=
  (runsOf (fun c => !(c = ',' || isBlank c)) text.toList).map String.ofList

namespace Environ

def flag (environ : Environ) (key : String) : Bool :=
  match environ.get? key with
  | none => false
  | some value => lower (strip value) ∈ ["1", "true", "yes", "on"]

/-- The first of the variables that is set, be it to the empty text. -/
def firstPresent? (environ : Environ) (keys : List String) : Option String :=
  keys.find? environ.contains

def nonEmpty? (environ : Environ) (key : String) : Option String :=
  (environ.get? key).filter (· ≠ "")

/-- The variables that stop a run after the bindings, such as on a documentation host. -/
def docsSignals : List String := ["READTHEDOCS", "GGML_TOOLING_DOCS_ONLY"]

def docsSignal? (environ : Environ) : Option String := environ.firstPresent? docsSignals

end Environ

end NativeVariants
