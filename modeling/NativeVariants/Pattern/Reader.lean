import NativeVariants.Number.Reading
import NativeVariants.Pattern.Basic

set_option autoImplicit false

/-!
Reading a pattern from its text. The text is cut into pieces first: a backslash and the character
behind it are one piece wherever they stand.
-/

namespace NativeVariants.Pattern
open Text

inductive Fault where
  | malformed
  /-- A repetition count beyond the greatest one. -/
  | tooMany
  deriving DecidableEq, Repr

inductive Piece where
  | plain (c : Char)
  | escaped (c : Char)
  deriving DecidableEq, Repr

/-- The pieces of a text; a backslash at the end is a fault. -/
def pieces : List Char → Except Fault (List Piece)
  | [] => .ok []
  | ['\\'] => .error .malformed
  | '\\' :: c :: rest => do return .escaped c :: (← pieces rest)
  | c :: rest => do return .plain c :: (← pieces rest)

structure Switches where
  ignoreCase : Bool := false
  multiline : Bool := false
  dotAll : Bool := false
  verbose : Bool := false
  ascii : Bool := false
  deriving DecidableEq, Repr, Inhabited

namespace Switches

def scope (s : Switches) : Scope := if s.ascii then .ascii else .all

def folding (s : Switches) : Folding :=
  if s.ignoreCase then if s.ascii then .ascii else .all else .exact

end Switches

/-- What may be repeated: an assertion of a place may not, nor may a repetition. -/
inductive ItemKind where
  | anchor
  | repetition
  | other
  deriving DecidableEq, Repr

structure Item where
  pattern : Pattern
  kind : ItemKind

structure State where
  pieces : List Piece
  /-- The number of groups that have been opened. -/
  opened : Nat
  names : List (String × Nat)
  /-- The widths of the groups that have been closed. -/
  closed : List (Nat × Width)
  /-- Inside a lookbehind: the number of groups that were opened before it. -/
  lookbehind? : Option Nat
  /-- Groups that conditionals ask for; in the end they must exist. -/
  asked : List Nat

abbrev Reader (α : Type) := StateT State (Except Fault) α

namespace Reader

def malformed {α : Type} : Reader α := throw .malformed

def peek? : Reader (Option Piece) := do return (← get).pieces.head?

def drop : Reader Unit := modify fun s => { s with pieces := s.pieces.tail }

def next : Reader Piece := do
  match (← get).pieces with
  | [] => malformed
  | piece :: rest =>
      modify fun s => { s with pieces := rest }
      return piece

def take (c : Char) : Reader Bool := do
  if (← peek?) = some (.plain c) then
    drop
    return true
  else return false

def takeWhile (test : Char → Bool) : Nat → Reader (List Char)
  | 0 => return []
  | most + 1 => do
      match ← peek? with
      | some (.plain c) =>
          if test c then
            drop
            return c :: (← takeWhile test most)
          else return []
      | _ => return []

def pieceChars : Piece → List Char
  | .plain c => [c]
  | .escaped c => ['\\', c]

/-- The text up to the terminator, which is passed. It is not empty. -/
def takeUntil (terminator : Char) : Reader (List Char) := do
  let all := (← get).pieces
  let before := all.takeWhile (· ≠ .plain terminator)
  match all.drop before.length with
  | [] => malformed
  | _ :: rest =>
      modify fun s => { s with pieces := rest }
      if before.isEmpty then malformed else return before.flatMap pieceChars

end Reader

open Reader

def isOctal (c : Char) : Bool := '0' ≤ c && c ≤ '7'

def isAsciiDigit (c : Char) : Bool := '0' ≤ c && c ≤ '9'

def isHexDigit (c : Char) : Bool :=
  isAsciiDigit c || ('a' ≤ c && c ≤ 'f') || ('A' ≤ c && c ≤ 'F')

def inBase (base : Nat) (digits : List Char) : Nat :=
  ofDigits base (digits.filterMap asciiDigit?)

/-- The codes of escapes that stand for one character, with and outside classes. -/
def controlEscapes : List (Char × Nat) :=
  [('a', 7), ('f', 12), ('n', 10), ('r', 13), ('t', 9), ('v', 11), ('\\', 92)]

def categoryEscape? (scope : Scope) : Char → Option ClassItem
  | 'd' => some (.category .digit scope false)
  | 'D' => some (.category .digit scope true)
  | 's' => some (.category .blank scope false)
  | 'S' => some (.category .blank scope true)
  | 'w' => some (.category .word scope false)
  | 'W' => some (.category .word scope true)
  | _ => none

/-- An escape with a fixed number of hexadecimal digits. -/
def hexEscape (length : Nat) : Reader Nat := do
  let digits ← takeWhile isHexDigit length
  if digits.length ≠ length then malformed
  else
    let code := inBase 16 digits
    if code < 0x110000 then return code else malformed

/-- An octal escape of at most three digits, up to 255. -/
def octalEscape (first : Char) : Reader Nat := do
  let digits := first :: (← takeWhile isOctal 2)
  let code := inBase 8 digits
  if code ≤ 255 then return code else malformed

def classEscape (switches : Switches) (c : Char) : Reader ClassItem := do
  let single (code : Nat) : ClassItem := .range code code
  match controlEscapes.lookup c, categoryEscape? switches.scope c with
  | some code, _ => return single code
  | none, some item => return item
  | none, none =>
      if c = 'b' then return single 8
      else if c = 'x' then return single (← hexEscape 2)
      else if c = 'u' then return single (← hexEscape 4)
      else if c = 'U' then return single (← hexEscape 8)
      else if isOctal c then return single (← octalEscape c)
      else if c.isAlphanum then malformed
      else return single c.toNat

def single (switches : Switches) (code : Nat) : Pattern :=
  .char ⟨[.range code code], false, switches.folding⟩

/-- Refuses a group that is still open, and inside a lookbehind one that belongs to it. -/
def checkReference (index : Nat) (mayBeOpen : Bool) : Reader Unit := do
  let s ← get
  let isClosed := (s.closed.lookup index).isSome
  if !mayBeOpen && !isClosed then malformed
  match s.lookbehind? with
  | none => return
  | some before => if !isClosed || before < index then malformed

def backReferenceTo (switches : Switches) (index : Nat) : Reader Pattern := do
  checkReference index false
  return .backReference index switches.folding

/-- A group number of one or two digits, or an octal escape of three. -/
def numberEscape (switches : Switches) (first : Char) : Reader Pattern := do
  match ← takeWhile isAsciiDigit 1 with
  | [second] =>
      match ← (if isOctal first && isOctal second then takeWhile isOctal 1 else pure []) with
      | [third] =>
          let code := inBase 8 [first, second, third]
          if code ≤ 255 then return single switches code else malformed
      | _ => reference [first, second]
  | _ => reference [first]
where
  reference (digits : List Char) : Reader Pattern := do
    let index := inBase 10 digits
    if index ≤ (← get).opened then backReferenceTo switches index else malformed

def anchorEscape? (scope : Scope) : Char → Option Anchor
  | 'A' => some .textStart
  | 'b' => some (.boundary scope false)
  | 'B' => some (.boundary scope true)
  | 'Z' => some .textEnd
  | _ => none

def escape (switches : Switches) (c : Char) : Reader Item := do
  match anchorEscape? switches.scope c, categoryEscape? switches.scope c,
      controlEscapes.lookup c with
  | some a, _, _ => return ⟨.anchor a, .anchor⟩
  | none, some item, _ => return ⟨.char ⟨[item], false, switches.folding⟩, .other⟩
  | none, none, some code => return ⟨single switches code, .other⟩
  | none, none, none =>
      let pattern ←
        if c = 'x' then pure (single switches (← hexEscape 2))
        else if c = 'u' then pure (single switches (← hexEscape 4))
        else if c = 'U' then pure (single switches (← hexEscape 8))
        else if c = '0' then
          let digits ← takeWhile isOctal 2
          pure (single switches (inBase 8 digits))
        else if isAsciiDigit c then numberEscape switches c
        else if c.isAlpha then malformed
        else pure (single switches c.toNat)
      return ⟨pattern, .other⟩

def classMember (switches : Switches) : Piece → Reader ClassItem
  | .plain c => return .range c.toNat c.toNat
  | .escaped c => classEscape switches c

def singleCode? : ClassItem → Option Nat
  | .range lo hi => if lo = hi then some lo else none
  | .category _ _ _ => none

/-- The members of a class up to the closing bracket, which is a member at the first place. -/
def classItems (switches : Switches) : Nat → List ClassItem → Reader (List ClassItem)
  | 0, _ => malformed
  | fuel + 1, items => do
      let piece ← next
      if piece = .plain ']' && !items.isEmpty then return items
      else
        let lo ← classMember switches piece
        if ← take '-' then
          let piece ← next
          if piece = .plain ']' then return items ++ [lo, .range 45 45]
          else
            let hi ← classMember switches piece
            match singleCode? lo, singleCode? hi with
            | some lo, some hi =>
                if hi < lo then malformed
                else classItems switches fuel (items ++ [.range lo hi])
            | _, _ => malformed
        else classItems switches fuel (items ++ [lo])

def charClass (switches : Switches) : Reader Pattern := do
  let negated ← take '^'
  let items ← classItems switches ((← get).pieces.length + 1) []
  return .char ⟨items, negated, switches.folding⟩

def maxRepetitions : Nat := 4294967295

/-- The bounds of a repetition in braces. None: the brace stands for itself. -/
def bracedBounds? : Reader (Option (Nat × Option Nat)) := do
  let start := (← get).pieces
  if (← peek?) = some (.plain '\x7d') then return none
  else
    let least ← takeWhile isAsciiDigit start.length
    let most ← if ← take ',' then takeWhile isAsciiDigit start.length else pure least
    if ← take '\x7d' then
      let lo := inBase 10 least
      let hi := inBase 10 most
      if maxRepetitions ≤ lo || maxRepetitions ≤ hi then throw .tooMany
      else if most.isEmpty then return some (lo, none)
      else if hi < lo then malformed
      else return some (lo, some hi)
    else
      modify fun s => { s with pieces := start }
      return none

def repetitionBounds? (c : Char) : Reader (Option (Nat × Option Nat)) :=
  if c = '?' then return some (0, some 1)
  else if c = '*' then return some (0, none)
  else if c = '+' then return some (1, none)
  else bracedBounds?

def repetitionMode : Reader Mode := do
  if ← take '?' then return .lazy
  if ← take '+' then return .possessive
  return .greedy

def repeatLast (items : List Item) (least : Nat) (most? : Option Nat) : Reader (List Item) := do
  match items.getLast? with
  | none => malformed
  | some last =>
      if last.kind ≠ .other then malformed
      else
        let mode ← repetitionMode
        return items.dropLast ++ [⟨.repetition least most? mode last.pattern, .repetition⟩]

def sequenceOf : List Pattern → Pattern
  | [] => .empty
  | [p] => p
  | p :: rest => .seq p (sequenceOf rest)

def isSwitch (c : Char) : Bool := "aimsxuL".toList.contains c

/-- Turns switches on. The three scopes exclude each other, and one of them is not available. -/
def switchOn (switches : Switches) (chars : List Char) : Reader Switches := do
  if chars.contains 'L' || (chars.contains 'a' && chars.contains 'u') then malformed
  else
    return { ignoreCase := switches.ignoreCase || chars.contains 'i'
             multiline := switches.multiline || chars.contains 'm'
             dotAll := switches.dotAll || chars.contains 's'
             verbose := switches.verbose || chars.contains 'x'
             ascii := chars.contains 'a' || (switches.ascii && !chars.contains 'u') }

def switchOff (switches : Switches) (chars : List Char) : Reader Switches := do
  if chars.any fun c => c = 'a' || c = 'u' || c = 'L' then malformed
  else
    return { switches with
      ignoreCase := switches.ignoreCase && !chars.contains 'i'
      multiline := switches.multiline && !chars.contains 'm'
      dotAll := switches.dotAll && !chars.contains 's'
      verbose := switches.verbose && !chars.contains 'x' }

/-- The switches of a group, from behind the question mark on, up to the colon. -/
def groupSwitches (switches : Switches) : Reader Switches := do
  let count := (← get).pieces.length
  let on ← takeWhile isSwitch count
  let switches ← switchOn switches on
  if ← take '-' then
    let off ← takeWhile isSwitch count
    if off.isEmpty || on.any off.contains then malformed
    let switches ← switchOff switches off
    if ← take ':' then return switches else malformed
  else if ← take ':' then return switches
  else malformed

def groupName : Reader String := do
  let name ← takeUntil '>'
  if isName name then return String.ofList name else malformed

def openGroup (name? : Option String) : Reader Nat := do
  let s ← get
  let index := s.opened + 1
  match name? with
  | none => set { s with opened := index }
  | some name =>
      if (s.names.lookup name).isSome then malformed
      else set { s with opened := index, names := (name, index) :: s.names }
  return index

def currentWidth (p : Pattern) : Reader Width := do
  let closed := (← get).closed
  return p.width fun index => (closed.lookup index).getD .zero

def closeGroup (index : Nat) (body : Pattern) : Reader Unit := do
  let w ← currentWidth body
  modify fun s => { s with closed := (index, w) :: s.closed }

def conditionGroup : Reader Nat := do
  let name ← takeUntil ')'
  let index ←
    if isName name then
      match (← get).names.lookup (String.ofList name) with
      | some index => pure index
      | none => malformed
    else
      match readInt? 10 name with
      | some n => if 0 < n then pure n.toNat else malformed
      | none => malformed
  modify fun s => { s with asked := index :: s.asked }
  checkReference index true
  return index

def isVerboseBlank (c : Char) : Bool :=
  c = ' ' || c = '\t' || c = '\n' || c = '\r' || c = '\x0b' || c = '\x0c'

/-- Passes the rest of a comment in a verbose pattern. -/
def dropLine : Reader Unit :=
  modify fun s => { s with pieces := (s.pieces.dropWhile (· ≠ .plain '\n')).tail }

def dropComment : Reader Unit := do
  let rest := (← get).pieces.dropWhile (· ≠ .plain ')')
  if rest.isEmpty then malformed
  else modify fun s => { s with pieces := rest.tail }

def closing : Reader Unit := do
  if !(← take ')') then malformed

mutual

/-- Alternatives up to the end or a closing parenthesis. -/
def readAlternatives (switches : Switches) : Nat → Reader Pattern
  | 0 => malformed
  | fuel + 1 => do
      let first ← readItems switches fuel []
      if ← take '|' then return .alt first (← readAlternatives switches fuel) else return first

/-- Items up to the end, a bar or a closing parenthesis. -/
def readItems (switches : Switches) : Nat → List Item → Reader Pattern
  | 0, _ => malformed
  | fuel + 1, found => do
      let finish : Reader Pattern := return sequenceOf (found.map (·.pattern))
      let add (p : Pattern) : Reader Pattern := readItems switches fuel (found ++ [⟨p, .other⟩])
      match ← peek? with
      | none => finish
      | some (.escaped c) =>
          drop
          let item ← escape switches c
          readItems switches fuel (found ++ [item])
      | some (.plain c) =>
          if c = '|' || c = ')' then finish
          else
            drop
            if switches.verbose && isVerboseBlank c then readItems switches fuel found
            else if switches.verbose && c = '#' then
              dropLine
              readItems switches fuel found
            else if c = '[' then add (← charClass switches)
            else if c = '.' then
              add (.char
                ⟨if switches.dotAll then [] else [.range 10 10], true, .exact⟩)
            else if c = '^' then
              let a : Anchor := if switches.multiline then .lineStart else .textStart
              readItems switches fuel (found ++ [⟨.anchor a, .anchor⟩])
            else if c = '$' then
              let a : Anchor := if switches.multiline then .lineEnd else .lastLineEnd
              readItems switches fuel (found ++ [⟨.anchor a, .anchor⟩])
            else if c = '(' then
              match ← readGroup switches fuel with
              | none => readItems switches fuel found
              | some p => add p
            else if c = '*' || c = '+' || c = '?' || c = '\x7b' then
              match ← repetitionBounds? c with
              | none => add (single switches c.toNat)
              | some (least, most?) =>
                  readItems switches fuel (← repeatLast found least most?)
            else add (single switches c.toNat)

/-- A group, from behind its opening parenthesis on. A comment is no item. -/
def readGroup (switches : Switches) : Nat → Reader (Option Pattern)
  | 0 => malformed
  | fuel + 1 => do
      if ← take '?' then
        match ← next with
        | .escaped _ => malformed
        | .plain c =>
            if c = 'P' then
              if ← take '<' then
                let name ← groupName
                readCapturing switches (some name) fuel
              else if ← take '=' then
                let name ← takeUntil ')'
                match (← get).names.lookup (String.ofList name) with
                | some index =>
                    if isName name then return some (← backReferenceTo switches index)
                    else malformed
                | none => malformed
              else malformed
            else if c = ':' then
              let body ← readAlternatives switches fuel
              closing
              return some body
            else if c = '#' then
              dropComment
              return none
            else if c = '=' || c = '!' then
              let body ← readAlternatives switches fuel
              closing
              return some (.lookahead (c = '!') body)
            else if c = '<' then
              if ← take '=' then readLookbehind switches false fuel
              else if ← take '!' then readLookbehind switches true fuel
              else malformed
            else if c = '(' then
              let index ← conditionGroup
              let present ← readItems switches fuel []
              let absent ← if ← take '|' then readItems switches fuel [] else pure .empty
              closing
              return some (.conditional index present absent)
            else if c = '>' then
              let body ← readAlternatives switches fuel
              closing
              return some (.atomic body)
            else if isSwitch c || c = '-' then
              modify fun s => { s with pieces := .plain c :: s.pieces }
              let inner ← groupSwitches switches
              let body ← readAlternatives inner fuel
              closing
              return some body
            else malformed
      else readCapturing switches none fuel

/-- A lookbehind, from behind its sign on. Everything inside must have one fixed width. -/
def readLookbehind (switches : Switches) (negated : Bool) : Nat → Reader (Option Pattern)
  | 0 => malformed
  | fuel + 1 => do
      let outer := (← get).lookbehind?
      modify fun s => { s with lookbehind? := some (outer.getD s.opened) }
      let body ← readAlternatives switches fuel
      modify fun s => { s with lookbehind? := outer }
      closing
      let w ← currentWidth body
      if w.most? = some w.least && w.least ≤ maxRepetitions then
        return some (.lookbehind negated w.least body)
      else malformed

def readCapturing (switches : Switches) (name? : Option String) : Nat → Reader (Option Pattern)
  | 0 => malformed
  | fuel + 1 => do
      let index ← openGroup name?
      let body ← readAlternatives switches fuel
      closing
      closeGroup index body
      return some (.group index body)

end

/-- Switches of the whole pattern; they stand at its very start. -/
def leadingSwitches : Nat → Switches → List Piece → Except Fault (Switches × List Piece)
  | 0, switches, rest => .ok (switches, rest)
  | fuel + 1, switches, rest =>
      match rest with
      | .plain '(' :: .plain '?' :: .plain '#' :: after =>
          match after.dropWhile (· ≠ .plain ')') with
          | [] => .error .malformed
          | _ :: after => leadingSwitches fuel switches after
      | .plain '(' :: .plain '?' :: after =>
          let chars := (after.flatMap Reader.pieceChars).takeWhile isSwitch
          match after.drop chars.length with
          | .plain ')' :: after =>
              if chars.isEmpty then .ok (switches, rest)
              else do
                let (switches, _) ← (switchOn switches chars).run ⟨[], 0, [], [], none, []⟩
                leadingSwitches fuel switches after
          | _ => .ok (switches, rest)
      | .plain c :: after =>
          if switches.verbose && isVerboseBlank c then leadingSwitches fuel switches after
          else if switches.verbose && c = '#' then
            leadingSwitches fuel switches (after.dropWhile (· ≠ .plain '\n')).tail
          else .ok (switches, rest)
      | _ => .ok (switches, rest)

def read (text : String) : Except Fault Pattern := do
  let all ← pieces text.toList
  let (switches, rest) ← leadingSwitches (all.length + 1) {} all
  let fuel := 4 * rest.length + 8
  let (pattern, s) ← (readAlternatives switches fuel).run ⟨rest, 0, [], [], none, []⟩
  if s.pieces.isEmpty && s.asked.all (· ≤ s.opened) then return pattern else .error .malformed

end NativeVariants.Pattern
