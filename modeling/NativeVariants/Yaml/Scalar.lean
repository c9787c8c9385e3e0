import NativeVariants.Yaml.Input

set_option autoImplicit false

/-!
The texts of scalars: plain, quoted and block. Line breaks inside a plain or quoted scalar fold
into a space, and blank lines into breaks.
-/

namespace NativeVariants.Yaml

def isHex (c : Char) : Bool :=
  ('0' ≤ c && c ≤ '9') || ('a' ≤ c && c ≤ 'f') || ('A' ≤ c && c ≤ 'F')

def hexValue (digits : List Char) : Nat :=
  digits.foldl (fun value c =>
    16 * value + (if c ≤ '9' then c.toNat - 48 else if c ≤ 'F' then c.toNat - 55 else c.toNat - 87)) 0

/-- The character of a code. Codes beyond the last plane are faults; a surrogate is no character
and becomes the replacement character. -/
def ofCode (code : Nat) : Except Fault Char :=
  if code.isValidChar then .ok (Char.ofNat code)
  else if code < 0x110000 then .ok '\ufffd'
  else if code < 0x80000000 then .error .badValue
  else .error .outOfRange

def escapes : List (Char × Char) :=
  [('0', '\x00'), ('a', '\x07'), ('b', '\x08'), ('t', '\t'), ('\t', '\t'), ('n', '\n'),
    ('v', '\x0b'), ('f', '\x0c'), ('r', '\r'), ('e', '\x1b'), (' ', ' '), ('"', '"'),
    ('\\', '\\'), ('/', '/'), ('N', '\x85'), ('_', '\xa0'), ('L', '\u2028'), ('P', '\u2029')]

/-- How many hexadecimal digits follow an escape. -/
def codeLengths : List (Char × Nat) := [('x', 2), ('u', 4), ('U', 8)]

def quotedBreaks : Nat → Input → Except Fault (List Char × Input)
  | 0, _ => .error .malformed
  | fuel + 1, i =>
      if i.isSeparator then .error .malformed
      else
        let i := i.skipWhile fun c => c = ' ' || c = '\t'
        if isBreak i.peek then do
          let (first, i) := i.lineBreak
          let (breaks, i) ← quotedBreaks fuel i
          return (first ++ breaks, i)
        else .ok ([], i)

def isQuotedPlain (c : Char) : Bool :=
  !(c = '\'' || c = '"' || c = '\\' || isGapOrEnd c)

/-- The part of a quoted scalar up to a gap or the closing quote. -/
def quotedWord (double : Bool) : Nat → Input → Except Fault (List Char × Input)
  | 0, _ => .error .malformed
  | fuel + 1, i => do
      let (run, i) := i.span isQuotedPlain
      let c := i.peek
      let continued (text : List Char) (i : Input) : Except Fault (List Char × Input) := do
        let (rest, i) ← quotedWord double fuel i
        return (run ++ text ++ rest, i)
      if !double && c = '\'' && i.peekAt 1 = '\'' then continued ['\''] (i.forward 2)
      else if (double && c = '\'') || (!double && (c = '"' || c = '\\')) then
        continued [c] i.next
      else if double && c = '\\' then
        let i := i.next
        let c := i.peek
        match escapes.lookup c, codeLengths.lookup c with
        | some replacement, _ => continued [replacement] i.next
        | none, some length =>
            let i := i.next
            let digits := i.rest.take length
            if digits.length = length && digits.all isHex then
              let c ← ofCode (hexValue digits)
              continued [c] (i.forward length)
            else .error .malformed
        | none, none =>
            if isBreak c then
              let (breaks, i) ← quotedBreaks (i.rest.length + 1) i.lineBreak.2
              continued breaks i
            else .error .malformed
      else return (run, i)

/-- Blanks and line breaks between two words of a quoted scalar. -/
def quotedGap (i : Input) : Except Fault (List Char × Input) := do
  let (blanks, i) := i.span fun c => c = ' ' || c = '\t'
  if i.peek = '\x00' then .error .malformed
  else if isBreak i.peek then
    let (first, i) := i.lineBreak
    let (breaks, i) ← quotedBreaks (i.rest.length + 1) i
    if first ≠ ['\n'] then return (first ++ breaks, i)
    else if breaks.isEmpty then return ([' '], i)
    else return (breaks, i)
  else return (blanks, i)

def quotedBody (double : Bool) : Nat → Input → Except Fault (List Char × Input)
  | 0, _ => .error .malformed
  | fuel + 1, i => do
      let (word, i) ← quotedWord double (i.rest.length + 1) i
      if i.peek = (if double then '"' else '\'') then return (word, i.next)
      else
        let (gap, i) ← quotedGap i
        let (rest, i) ← quotedBody double fuel i
        return (word ++ gap ++ rest, i)

def quotedScalar (i : Input) : Except Fault (List Char × Input) :=
  quotedBody (i.peek = '"') (i.rest.length + 1) i.next

/-- The length of the piece of a plain scalar at the head of the text. -/
def plainRun (flow : Bool) : List Char → Nat
  | [] => 0
  | c :: rest =>
      let next := rest.head?.getD '\x00'
      if isGapOrEnd c then 0
      else if c = ':' && (isGapOrEnd next || (flow && ",[]\x7b\x7d".toList.contains next)) then 0
      else if flow && ",?[]\x7b\x7d".toList.contains c then 0
      else plainRun flow rest + 1

/-- Spaces and blank lines behind the first break of a plain scalar. None: a document marker. -/
def plainBreaks : Nat → Input → Option (List Char) × Input
  | 0, i => (some [], i)
  | fuel + 1, i =>
      if i.peek = ' ' then plainBreaks fuel i.next
      else if isBreak i.peek then
        let (first, i) := i.lineBreak
        if i.isSeparator then (none, i)
        else
          match plainBreaks fuel i with
          | (some breaks, i) => (some (first ++ breaks), i)
          | (none, i) => (none, i)
      else (some [], i)

/-- The gap behind a piece of a plain scalar, and whether it held a line break. No text means that
the scalar ends here. -/
def plainGap (i : Input) : List Char × Bool × Input :=
  let (spaces, i) := i.span (· = ' ')
  if isBreak i.peek then
    let (first, i) := i.lineBreak
    if i.isSeparator then ([], true, i)
    else
      match plainBreaks (i.rest.length + 1) i with
      | (none, i) => ([], true, i)
      | (some breaks, i) =>
          if first ≠ ['\n'] then (first ++ breaks, true, i)
          else if breaks.isEmpty then ([' '], true, i)
          else (breaks, true, i)
  else (spaces, false, i)

/-- Pieces of a plain scalar. `gap` is what stands before the next piece. The answer tells whether
the last gap held a line break. -/
def plainPieces (flow : Bool) (indent : Nat) :
    Nat → List Char → Bool → Input → List Char × Bool × Input
  | 0, _, broken, i => ([], broken, i)
  | fuel + 1, gap, broken, i =>
      if i.peek = '#' then ([], broken, i)
      else
        let length := plainRun flow i.rest
        if length = 0 then ([], broken, i)
        else
          let piece := i.rest.take length
          let (gap', broken, i) := plainGap (i.forward length)
          if gap'.isEmpty || i.peek = '#' || (!flow && i.column < indent) then
            (gap ++ piece, broken, i)
          else
            let (rest, broken, i) := plainPieces flow indent fuel gap' broken i
            (gap ++ piece ++ rest, broken, i)

/-- A plain scalar. In block context its lines are indented at least as far as `indent`. -/
def plainScalar (flow : Bool) (indent : Nat) (i : Input) : List Char × Bool × Input :=
  plainPieces flow indent (i.rest.length + 1) [] false i

/-- What happens to the line breaks at the end of a block scalar. -/
inductive Chomping where
  | clip
  | strip
  | keep
  deriving DecidableEq, Repr

def chomping? (c : Char) : Option Chomping :=
  if c = '+' then some .keep else if c = '-' then some .strip else none

def increment? (c : Char) : Option Nat :=
  if '1' ≤ c && c ≤ '9' then some (c.toNat - 48) else none

/-- Up to two indicators: chomping and indentation in either order. -/
def blockHeader (i : Input) : Except Fault (Chomping × Option Nat × Input) := do
  let (chomping, increment, i) :=
    match chomping? i.peek, increment? i.peek with
    | some chomping, _ =>
        match increment? i.next.peek with
        | some n => (chomping, some n, i.next.next)
        | none => (chomping, none, i.next)
    | none, some n =>
        match chomping? i.next.peek with
        | some chomping => (chomping, some n, i.next.next)
        | none => (.clip, some n, i.next)
    | none, none => (.clip, none, i)
  if isSpaceOrEnd i.peek then return (chomping, increment, i) else .error .malformed

/-- The rest of a line that may hold spaces and a comment. -/
def ignoredLine (i : Input) : Except Fault Input :=
  let i := i.skipWhile (· = ' ')
  let i := if i.peek = '#' then i.skipWhile (!isBreakOrEnd ·) else i
  if isBreakOrEnd i.peek then .ok i.lineBreak.2 else .error .malformed

/-- Blank lines before the first line of a block scalar, and the greatest indentation seen. -/
def leadingBreaks : Nat → Nat → Input → List Char × Nat × Input
  | 0, widest, i => ([], widest, i)
  | fuel + 1, widest, i =>
      if i.peek = ' ' then
        let i := i.next
        leadingBreaks fuel (max widest i.column) i
      else if isBreak i.peek then
        let (first, i) := i.lineBreak
        let (breaks, widest, i) := leadingBreaks fuel widest i
        (first ++ breaks, widest, i)
      else ([], widest, i)

def skipIndent (indent : Nat) : Nat → Input → Input
  | 0, i => i
  | fuel + 1, i => if i.column < indent && i.peek = ' ' then skipIndent indent fuel i.next else i

/-- Blank lines between two lines of a block scalar. -/
def blockBreaks (indent : Nat) : Nat → Input → List Char × Input
  | 0, i => ([], i)
  | fuel + 1, i =>
      let i := skipIndent indent i.rest.length i
      if isBreak i.peek then
        let (first, i) := i.lineBreak
        let (breaks, i) := blockBreaks indent fuel i
        (first ++ breaks, i)
      else ([], i)

def isSpaceOrTab (c : Char) : Bool := c = ' ' || c = '\t'

/-- The lines of a block scalar. The answer holds the text without the last break, that break, and
the blank lines behind it. -/
def blockLines (folded : Bool) (indent : Nat) :
    Nat → List Char → Input → List Char × List Char × List Char × Input
  | 0, breaks, i => ([], [], breaks, i)
  | fuel + 1, breaks, i =>
      if i.column = indent && i.peek ≠ '\x00' then
        let flush := !isSpaceOrTab i.peek
        let (line, i) := i.span (!isBreakOrEnd ·)
        let (lineBreak, i) := i.lineBreak
        let (breaks', i) := blockBreaks indent (i.rest.length + 1) i
        if i.column = indent && i.peek ≠ '\x00' then
          let joint :=
            if folded && lineBreak = ['\n'] && flush && !isSpaceOrTab i.peek then
              if breaks'.isEmpty then [' '] else []
            else lineBreak
          let (rest, last, tail, i) := blockLines folded indent fuel breaks' i
          (breaks ++ line ++ joint ++ rest, last, tail, i)
        else (breaks ++ line, lineBreak, breaks', i)
      else ([], [], breaks, i)

/-- A block scalar, from its indicator on. `parent` is the indentation around it. -/
def blockScalar (parent : Int) (i : Input) : Except Fault (List Char × Input) := do
  let folded := i.peek = '>'
  let (chomping, increment?, i) ← blockHeader i.next
  let i ← ignoredLine i
  let least := (max (parent + 1) 1).toNat
  let (breaks, indent, i) :=
    match increment? with
    | none =>
        let (breaks, widest, i) := leadingBreaks (i.rest.length + 1) 0 i
        (breaks, max least widest, i)
    | some n =>
        let indent := least + n - 1
        let (breaks, i) := blockBreaks indent (i.rest.length + 1) i
        (breaks, indent, i)
  let (text, last, tail, i) := blockLines folded indent (i.rest.length + 1) breaks i
  match chomping with
  | .strip => return (text, i)
  | .clip => return (text ++ last, i)
  | .keep => return (text ++ last ++ tail, i)

end NativeVariants.Yaml
