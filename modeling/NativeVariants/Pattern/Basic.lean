import NativeVariants.Text.Case
import NativeVariants.Text.Digit
import NativeVariants.Text.Word

set_option autoImplicit false

/-!
Patterns for names. A pattern is a tree of single-character classes, sequences, alternatives,
repetitions, groups and assertions; switches such as ignoring case are already part of its leaves.
-/

namespace NativeVariants.Pattern

/-- How far classes such as "word character" reach. -/
inductive Scope where
  | ascii
  | all
  deriving DecidableEq, Repr

/-- Which characters count as the same. -/
inductive Folding where
  | exact
  | ascii
  | all
  deriving DecidableEq, Repr

inductive Category where
  | digit
  | blank
  | word
  deriving DecidableEq, Repr

/-- One member of a character class. Codes may lie outside the characters, where they match
nothing. -/
inductive ClassItem where
  | range (lo hi : Nat)
  | category (kind : Category) (scope : Scope) (negated : Bool)
  deriving DecidableEq, Repr

structure CharClass where
  items : List ClassItem
  negated : Bool
  folding : Folding
  deriving DecidableEq, Repr

inductive Anchor where
  | textStart
  | textEnd
  | lineStart
  | lineEnd
  /-- The end of the text or the place before a final line break. -/
  | lastLineEnd
  | boundary (scope : Scope) (negated : Bool)
  deriving DecidableEq, Repr

inductive Mode where
  | greedy
  | lazy
  /-- Greedy, and never taken back. -/
  | possessive
  deriving DecidableEq, Repr

end NativeVariants.Pattern

namespace NativeVariants
open Pattern Text

inductive Pattern where
  | empty
  | char (c : CharClass)
  | seq (first second : Pattern)
  | alt (first second : Pattern)
  | group (index : Nat) (body : Pattern)
  | atomic (body : Pattern)
  | repetition (least : Nat) (most? : Option Nat) (mode : Mode) (body : Pattern)
  | anchor (a : Anchor)
  | backReference (index : Nat) (folding : Folding)
  /-- Asserts what follows without passing it. -/
  | lookahead (negated : Bool) (body : Pattern)
  /-- Asserts what the given number of characters before are. -/
  | lookbehind (negated : Bool) (width : Nat) (body : Pattern)
  /-- The first branch if the group has matched, otherwise the second one. -/
  | conditional (index : Nat) (present absent : Pattern)
  deriving DecidableEq, Repr, Inhabited

namespace Pattern

/-- Lower-case characters that have the same upper-case form as the given one. -/
def caseSiblings : List (Nat × List Nat) := [
  (0x69, [0x131]), (0x73, [0x17f]), (0xb5, [0x3bc]), (0x131, [0x69]),
  (0x17f, [0x73]), (0x345, [0x3b9, 0x1fbe]), (0x390, [0x1fd3]), (0x3b0, [0x1fe3]),
  (0x3b2, [0x3d0]), (0x3b5, [0x3f5]), (0x3b8, [0x3d1]), (0x3b9, [0x345, 0x1fbe]),
  (0x3ba, [0x3f0]), (0x3bc, [0xb5]), (0x3c0, [0x3d6]), (0x3c1, [0x3f1]),
  (0x3c2, [0x3c3]), (0x3c3, [0x3c2]), (0x3c6, [0x3d5]), (0x3d0, [0x3b2]),
  (0x3d1, [0x3b8]), (0x3d5, [0x3c6]), (0x3d6, [0x3c0]), (0x3f0, [0x3ba]),
  (0x3f1, [0x3c1]), (0x3f5, [0x3b5]), (0x432, [0x1c80]), (0x434, [0x1c81]),
  (0x43e, [0x1c82]), (0x441, [0x1c83]), (0x442, [0x1c84, 0x1c85]), (0x44a, [0x1c86]),
  (0x463, [0x1c87]), (0x1c80, [0x432]), (0x1c81, [0x434]), (0x1c82, [0x43e]),
  (0x1c83, [0x441]), (0x1c84, [0x442, 0x1c85]), (0x1c85, [0x442, 0x1c84]), (0x1c86, [0x44a]),
  (0x1c87, [0x463]), (0x1c88, [0xa64b]), (0x1e61, [0x1e9b]), (0x1e9b, [0x1e61]),
  (0x1fbe, [0x345, 0x3b9]), (0x1fd3, [0x390]), (0x1fe3, [0x3b0]), (0xa64b, [0x1c88]),
  (0xfb05, [0xfb06]), (0xfb06, [0xfb05])]

def movedTo (runs : CaseRuns) (code : Nat) : List Nat :=
  runs.filterMap fun (first, last, step, image) =>
    if image ≤ code && code - image ≤ last - first && (code - image) % step = 0 then
      some (first + (code - image))
    else none

def lowerCode (code : Nat) : Nat :=
  if code = 0x130 then 0x69 else moveCase lowerRuns code

def withLower (code : Nat) : List Nat :=
  (if lowerCode code = code then [code] else []) ++ movedTo lowerRuns code ++
    (if code = 0x69 then [0x130] else [])

def asciiLower (code : Nat) : Nat := if 65 ≤ code && code ≤ 90 then code + 32 else code

def folded : Folding → Nat → List Nat
  | .exact, code => [code]
  | .ascii, code =>
      let low := asciiLower code
      if 97 ≤ low && low ≤ 122 then [low, low - 32] else [low]
  | .all, code =>
      let low := lowerCode code
      (low :: (caseSiblings.lookup low).getD []).flatMap withLower

def isAsciiWord (c : Char) : Bool := c.isAlphanum || c = '_'

def Category.holds : Category → Scope → Char → Bool
  | .digit, .ascii, c => c.isDigit
  | .digit, .all, c => isDecimal c
  | .blank, .ascii, c => c = ' ' || (9 ≤ c.toNat && c.toNat ≤ 13)
  | .blank, .all, c => isBlank c
  | .word, .ascii, c => isAsciiWord c
  | .word, .all, c => isWord c

def foldChar : Folding → Char → Char
  | .exact, c => c
  | .ascii, c => Char.ofNat (asciiLower c.toNat)
  | .all, c => Char.ofNat (lowerCode c.toNat)

def ClassItem.holds (folding : Folding) (c : Char) : ClassItem → Bool
  | .range lo hi => (folded folding c.toNat).any fun code => lo ≤ code && code ≤ hi
  | .category kind scope negated => kind.holds scope (foldChar folding c) != negated

def CharClass.holds (k : CharClass) (c : Char) : Bool :=
  k.items.any (·.holds k.folding c) != k.negated

/-- The least and the greatest number of characters that a pattern passes; none: no bound. The
widths of groups are given. -/
structure Width where
  least : Nat
  most? : Option Nat
  deriving DecidableEq, Repr

namespace Width

def zero : Width := ⟨0, some 0⟩

def one : Width := ⟨1, some 1⟩

def add (a b : Width) : Width :=
  ⟨a.least + b.least, do return (← a.most?) + (← b.most?)⟩

def union (a b : Width) : Width :=
  ⟨min a.least b.least, do return max (← a.most?) (← b.most?)⟩

def times (w : Width) (least : Nat) (most? : Option Nat) : Width :=
  ⟨w.least * least,
    if w.most? = some 0 || most? = some 0 then some 0 else do return (← w.most?) * (← most?)⟩

end Width

def width (groups : Nat → Width) : Pattern → Width
  | .empty => .zero
  | .char _ => .one
  | .seq a b => (width groups a).add (width groups b)
  | .alt a b => (width groups a).union (width groups b)
  | .group _ body => width groups body
  | .atomic body => width groups body
  | .repetition least most? _ body => (width groups body).times least most?
  | .anchor _ => .zero
  | .backReference index _ => groups index
  | .lookahead _ _ => .zero
  | .lookbehind _ _ _ => .zero
  | .conditional _ a b => (width groups a).union (width groups b)

end Pattern

end NativeVariants
