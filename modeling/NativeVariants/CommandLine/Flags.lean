import NativeVariants.Failure

set_option autoImplicit false

/-!
Flags with a value among other arguments. A flag takes the argument after it, whatever that looks
like; all else, and a flag without a value at the end, is left over.
-/

namespace NativeVariants

structure Flag (α : Type) where
  key : String
  spelling : String
  default : α
  read : String → Except Failure α

namespace Flag

def split (isFlag : String → Bool) : List String → List (String × String) × List String
  | [] => ([], [])
  | [arg] => ([], [arg])
  | arg :: value :: rest =>
      if isFlag arg then
        let (taken, left) := split isFlag rest
        ((arg, value) :: taken, left)
      else
        let (taken, left) := split isFlag (value :: rest)
        (taken, arg :: left)

variable {α : Type}

def find? (flags : List (Flag α)) (spelling : String) : Option (Flag α) :=
  flags.reverse.find? (·.spelling = spelling)

def defaults (flags : List (Flag α)) : Table String α :=
  Table.ofList (flags.map fun flag => (flag.key, flag.default))

def assign (flags : List (Flag α)) (values : Table String α) (taken : String × String) :
    Except Failure (Table String α) :=
  match find? flags taken.1 with
  | none => .ok values
  | some flag => do return values.set flag.key (← flag.read taken.2)

/-- The values of all flags, and the arguments that are left over. The last value of a flag
counts. -/
def parse (flags : List (Flag α)) (args : List String) :
    Except Failure (Table String α × List String) := do
  let (taken, left) := split (fun arg => (find? flags arg).isSome) args
  return (← taken.foldlM (assign flags) (defaults flags), left)

end Flag

end NativeVariants
