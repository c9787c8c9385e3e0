import NativeVariants.Pattern.Basic

set_option autoImplicit false

/-!
Matching a pattern. A match goes from one place of the text to another and is continued by what has
to match afterwards; when the continuation fails, the next alternative is tried.
-/

namespace NativeVariants.Pattern

structure Place where
  position : Nat
  groups : List (Nat × Nat × Nat)
  deriving DecidableEq, Repr

abbrev Continuation := Place → Option Place

namespace Anchor

def isWordAt (text : Array Char) (scope : Scope) (position : Nat) : Bool :=
  match text[position]? with
  | some c => Category.word.holds scope c
  | none => false

def holds (text : Array Char) (position : Nat) : Anchor → Bool
  | .textStart => position = 0
  | .textEnd => position = text.size
  | .lineStart => position = 0 || text[position - 1]? = some '\n'
  | .lineEnd => position = text.size || text[position]? = some '\n'
  | .lastLineEnd =>
      position = text.size || (position + 1 = text.size && text[position]? = some '\n')
  | .boundary scope negated =>
      let before := position ≠ 0 && isWordAt text scope (position - 1)
      let after := isWordAt text scope position
      text.size ≠ 0 && ((before != after) != negated)

end Anchor

/-- Repeats a step up to `most?` times, at least `least` times. An optional round that passes no
character is the last one. `fuel` bounds the rounds. -/
def repeatStep (step : Continuation → Continuation) (mode : Mode) (next : Continuation) :
    Nat → Nat → Option Nat → Continuation
  | 0, _, _, place => next place
  | fuel + 1, least, most?, place =>
      let fewer := most?.map (· - 1)
      if 0 < least then
        match mode with
        | .possessive =>
            (step some place).bind (repeatStep step mode next fuel (least - 1) fewer)
        | _ => step (repeatStep step mode next fuel (least - 1) fewer) place
      else if most? = some 0 then next place
      else
        let again (after : Place) : Option Place :=
          if after.position = place.position then next after
          else repeatStep step mode next fuel 0 fewer after
        match mode with
        | .greedy => (step again place).or (next place)
        | .lazy => (next place).or (step again place)
        | .possessive =>
            match step some place with
            | some after => again after
            | none => next place

/-- The same characters again, up to the folding. -/
def repeats (text : Array Char) (folding : Folding) (start stop position : Nat) : Bool :=
  (List.range (stop - start)).all fun offset =>
    match text[start + offset]?, text[position + offset]? with
    | some a, some b => foldChar folding a = foldChar folding b
    | _, _ => false

/-- The place after a match of the pattern that its continuation accepts. -/
def go (text : Array Char) : Pattern → Continuation → Continuation
  | .empty, next, place => next place
  | .char k, next, place =>
      match text[place.position]? with
      | some c => if k.holds c then next { place with position := place.position + 1 } else none
      | none => none
  | .seq a b, next, place => go text a (go text b next) place
  | .alt a b, next, place => (go text a next place).or (go text b next place)
  | .group index body, next, place =>
      go text body (fun after =>
        next { after with
          groups := (index, place.position, after.position) :: after.groups }) place
  | .atomic body, next, place => (go text body some place).bind next
  | .repetition least most? mode body, next, place =>
      repeatStep (go text body) mode next (least + (text.size - place.position) + 1) least most?
        place
  | .anchor a, next, place => if a.holds text place.position then next place else none
  | .backReference index folding, next, place =>
      match place.groups.lookup index with
      | some (start, stop) =>
          if repeats text folding start stop place.position then
            next { place with position := place.position + (stop - start) }
          else none
      | none => none
  | .lookahead negated body, next, place =>
      match go text body some place with
      | some after =>
          if negated then none else next { after with position := place.position }
      | none => if negated then next place else none
  | .lookbehind negated width body, next, place =>
      if place.position < width then if negated then next place else none
      else
        match go text body some { place with position := place.position - width } with
        | some after =>
            if negated then none else next { after with position := place.position }
        | none => if negated then next place else none
  | .conditional index present absent, next, place =>
      match place.groups.lookup index with
      | some _ => go text present next place
      | none => go text absent next place

def matchesAll (p : Pattern) (text : String) : Bool :=
  let text := text.toList.toArray
  (go text p (fun place => if place.position = text.size then some place else none)
    ⟨0, []⟩).isSome

end NativeVariants.Pattern
