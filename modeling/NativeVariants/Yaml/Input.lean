set_option autoImplicit false

/-!
The characters of a document that are still to be read, with the place that has been reached. The
end of the text reads as the null character, which no document may contain.
-/

namespace NativeVariants.Yaml

/-- What can be wrong with a document. Everything but `malformed` arises from a scalar whose tag
promises more than its text holds. -/
inductive Fault where
  | malformed
  | badValue
  | outOfRange
  | unknownWord
  | emptyNumeral
  | noMatch
  deriving DecidableEq, Repr

structure Input where
  rest : List Char
  index : Nat
  line : Nat
  column : Nat
  deriving Repr, Inhabited

def isBreak (c : Char) : Bool :=
  c = '\n' || c = '\r' || c = '\x85' || c = '\u2028' || c = '\u2029'

def isBreakOrEnd (c : Char) : Bool := c = '\x00' || isBreak c

def isSpaceOrEnd (c : Char) : Bool := c = ' ' || isBreakOrEnd c

/-- A space, a tab, a line break or the end. -/
def isGapOrEnd (c : Char) : Bool := c = '\t' || isSpaceOrEnd c

/-- Characters of anchors and of the names of directives and tag handles. -/
def isNameChar (c : Char) : Bool := c.isAlphanum || c = '-' || c = '_'

/-- Characters that a document may contain. -/
def isAllowed (c : Char) : Bool :=
  let n := c.toNat
  n = 0x9 || n = 0xa || n = 0xd || (0x20 ≤ n && n ≤ 0x7e) || n = 0x85 ||
    (0xa0 ≤ n && n ≤ 0xd7ff) || (0xe000 ≤ n && n ≤ 0xfffd) || 0x10000 ≤ n

namespace Input

def ofText (text : List Char) : Input := ⟨text, 0, 0, 0⟩

def peekAt (i : Input) (offset : Nat) : Char := (i.rest[offset]?).getD '\x00'

def peek (i : Input) : Char := i.peekAt 0

/-- One character further. A line break starts a new line; a byte-order mark takes no column. -/
def next (i : Input) : Input :=
  match i.rest with
  | [] => i
  | c :: rest =>
      if isBreak c && !(c = '\r' && rest.head? = some '\n') then
        ⟨rest, i.index + 1, i.line + 1, 0⟩
      else if c = '\ufeff' then ⟨rest, i.index + 1, i.line, i.column⟩
      else ⟨rest, i.index + 1, i.line, i.column + 1⟩

def forward (i : Input) : Nat → Input
  | 0 => i
  | count + 1 => i.next.forward count

/-- The longest run of characters that satisfy the test, and what follows. -/
def span (i : Input) (test : Char → Bool) : List Char × Input :=
  let run := i.rest.takeWhile test
  (run, i.forward run.length)

def skipWhile (i : Input) (test : Char → Bool) : Input := (i.span test).2

/-- A line break, read as a line feed unless it is one of the two separators. -/
def lineBreak (i : Input) : List Char × Input :=
  let c := i.peek
  if c = '\r' && i.peekAt 1 = '\n' then (['\n'], i.forward 2)
  else if c = '\r' || c = '\n' || c = '\x85' then (['\n'], i.next)
  else if c = '\u2028' || c = '\u2029' then ([c], i.next)
  else ([], i)

/-- Whether a document marker of three equal characters stands here. -/
def isMarker (i : Input) (c : Char) : Bool :=
  i.rest.take 3 = [c, c, c] && isGapOrEnd (i.peekAt 3)

def isSeparator (i : Input) : Bool := i.isMarker '-' || i.isMarker '.'

end Input

end NativeVariants.Yaml
