import NativeVariants.Yaml.Scalar
import NativeVariants.Yaml.Token

set_option autoImplicit false

/-!
From characters to tokens. Whether a scalar is a key is known only at the colon behind it, so the
lexer remembers where a key may have begun and puts the key token there afterwards.
-/

namespace NativeVariants.Yaml

/-- A place where a simple key may begin. A required one must turn out to be a key. -/
structure Candidate where
  token : Nat
  required : Bool
  index : Nat
  line : Nat
  column : Nat
  deriving Repr

structure Lexer where
  input : Input
  tokens : Array Token
  flowLevel : Nat
  indent : Int
  indents : List Int
  allowKey : Bool
  /-- At most one candidate for each flow level. -/
  candidates : List (Nat × Candidate)
  deriving Inhabited

namespace Lexer

def start (text : List Char) : Lexer :=
  let input := Input.ofText text
  let input := if input.peek = '\ufeff' then input.next else input
  { input, tokens := #[], flowLevel := 0, indent := -1, indents := [], allowKey := true,
    candidates := [] }

def emit (l : Lexer) (token : Token) : Lexer := { l with tokens := l.tokens.push token }

def advance (l : Lexer) (count : Nat) : Lexer := { l with input := l.input.forward count }

/-- Spaces, comments and line breaks before the next token. A new line in block context allows a
key again. -/
def skipGaps : Nat → Lexer → Lexer
  | 0, l => l
  | fuel + 1, l =>
      let input := l.input.skipWhile (· = ' ')
      let input := if input.peek = '#' then input.skipWhile (!isBreakOrEnd ·) else input
      if isBreak input.peek then
        skipGaps fuel { l with
          input := input.lineBreak.2
          allowKey := l.allowKey || l.flowLevel = 0 }
      else { l with input }

/-- A candidate is out of date on the next line and after 1024 characters. -/
def dropStale (l : Lexer) : Except Fault Lexer :=
  let stale (c : Candidate) : Bool :=
    c.line ≠ l.input.line || c.index + 1024 < l.input.index
  if l.candidates.any fun (_, c) => stale c && c.required then .error .malformed
  else .ok { l with candidates := l.candidates.filter fun (_, c) => !stale c }

def candidate? (l : Lexer) : Option Candidate := l.candidates.lookup l.flowLevel

def dropCandidate (l : Lexer) : Except Fault Lexer :=
  match l.candidate? with
  | none => .ok l
  | some c =>
      if c.required then .error .malformed
      else .ok { l with candidates := l.candidates.filter (·.1 ≠ l.flowLevel) }

def saveCandidate (l : Lexer) : Except Fault Lexer :=
  if l.allowKey then do
    let required := l.flowLevel = 0 && l.indent = l.input.column
    let l ← l.dropCandidate
    let c : Candidate :=
      ⟨l.tokens.size, required, l.input.index, l.input.line, l.input.column⟩
    return { l with candidates := (l.flowLevel, c) :: l.candidates }
  else .ok l

def unwind (column : Int) : List Int → Lexer → Lexer
  | [], l => l
  | outer :: rest, l =>
      if column < l.indent then
        unwind column rest { l.emit .blockEnd with indent := outer, indents := rest }
      else l

def unwindTo (l : Lexer) (column : Int) : Lexer :=
  if l.flowLevel = 0 then unwind column l.indents l else l

def openBlock (l : Lexer) (column : Nat) (at? : Option Nat) (token : Token) : Lexer :=
  if l.indent < column then
    { l with
      indents := l.indent :: l.indents
      indent := column
      tokens := match at? with
        | none => l.tokens.push token
        | some position => l.tokens.insertIdxIfInBounds position token }
  else l

def readName (i : Input) : Except Fault (String × Input) :=
  let (name, i) := i.span isNameChar
  if name.isEmpty then .error .malformed else .ok (String.ofList name, i)

def readNumber (i : Input) : Except Fault (Nat × Input) :=
  let (digits, i) := i.span Char.isDigit
  if digits.isEmpty then .error .malformed else .ok (hexValueDecimal digits, i)
where
  hexValueDecimal (digits : List Char) : Nat :=
    digits.foldl (fun value c => 10 * value + (c.toNat - 48)) 0

def isUriChar (c : Char) : Bool :=
  c.isAlphanum || "-;/?:@&=+$,_.!~*'()[]%".toList.contains c

/-- A run of bytes written as percent signs with two digits each. -/
def readEscapedBytes : Nat → Input → Except Fault (List UInt8 × Input)
  | 0, i => .ok ([], i)
  | fuel + 1, i =>
      if i.peek = '%' then
        if isHex (i.peekAt 1) && isHex (i.peekAt 2) then do
          let byte := UInt8.ofNat (hexValue [i.peekAt 1, i.peekAt 2])
          let (bytes, i) ← readEscapedBytes fuel (i.forward 3)
          return (byte :: bytes, i)
        else .error .malformed
      else .ok ([], i)

def readUri : Nat → Input → Except Fault (List Char × Input)
  | 0, i => .ok ([], i)
  | fuel + 1, i =>
      if i.peek = '%' then do
        let (bytes, i) ← readEscapedBytes (i.rest.length + 1) i
        match String.fromUTF8? ⟨bytes.toArray⟩ with
        | none => .error .malformed
        | some text =>
            let (rest, i) ← readUri fuel i
            return (text.toList ++ rest, i)
      else if isUriChar i.peek then do
        let (rest, i') ← readUri fuel i.next
        return (i.peek :: rest, i')
      else .ok ([], i)

def readTagUri (i : Input) : Except Fault (String × Input) := do
  let (uri, i) ← readUri (i.rest.length + 1) i
  if uri.isEmpty then .error .malformed else return (String.ofList uri, i)

def readHandle (i : Input) : Except Fault (String × Input) :=
  if i.peek ≠ '!' then .error .malformed
  else if i.peekAt 1 = ' ' then .ok ("!", i.next)
  else
    let (name, i) := i.next.span isNameChar
    if i.peek = '!' then .ok ("!" ++ String.ofList name ++ "!", i.next) else .error .malformed

def readDirective (i : Input) : Except Fault (Directive × Input) := do
  let (name, i) ← readName i.next
  if !isSpaceOrEnd i.peek then .error .malformed
  else
    let (directive, i) ← (
      if name = "YAML" then do
        let (major, i) ← readNumber (i.skipWhile (· = ' '))
        if i.peek ≠ '.' then .error .malformed
        else
          let (minor, i) ← readNumber i.next
          if isSpaceOrEnd i.peek then return (.version major minor, i) else .error .malformed
      else if name = "TAG" then do
        let (handle, i) ← readHandle (i.skipWhile (· = ' '))
        if i.peek ≠ ' ' then .error .malformed
        else
          let (lead, i) ← readTagUri (i.skipWhile (· = ' '))
          if isSpaceOrEnd i.peek then return (.tag handle lead, i) else .error .malformed
      else return (Directive.other, i.skipWhile (!isBreakOrEnd ·)) :
        Except Fault (Directive × Input))
    let i ← ignoredLine i
    return (directive, i)

def readAnchor (i : Input) : Except Fault (String × Input) := do
  let (name, i) ← readName i.next
  if isGapOrEnd i.peek || "?:,]\x7d%@\x60".toList.contains i.peek then return (name, i)
  else .error .malformed

/-- Whether an exclamation mark ends the handle of the tag that begins before the text. -/
def hasHandle (text : List Char) : Bool :=
  (text.takeWhile (!isSpaceOrEnd ·)).contains '!'

def readTag (i : Input) : Except Fault (Token × Input) := do
  let c := i.peekAt 1
  let (token, i) ← (
    if c = '<' then do
      let (suffix, i) ← readTagUri (i.forward 2)
      if i.peek = '>' then return (Token.tag none suffix, i.next) else .error .malformed
    else if isGapOrEnd c then .ok (Token.tag none "!", i.next)
    else do
      let (handle, i) ← if hasHandle i.next.rest then readHandle i else .ok ("!", i.next)
      let (suffix, i) ← readTagUri i
      return (Token.tag (some handle) suffix, i) :
        Except Fault (Token × Input))
  if isSpaceOrEnd i.peek then return (token, i) else .error .malformed

def openFlow (l : Lexer) (token : Token) : Except Fault Lexer := do
  let l ← l.saveCandidate
  return { (l.emit token).advance 1 with flowLevel := l.flowLevel + 1, allowKey := true }

def closeFlow (l : Lexer) (token : Token) : Except Fault Lexer := do
  let l ← l.dropCandidate
  if l.flowLevel = 0 then .error .malformed
  else return { (l.emit token).advance 1 with flowLevel := l.flowLevel - 1, allowKey := false }

def fetchMarker (l : Lexer) (token : Token) : Except Fault Lexer := do
  let l ← (l.unwindTo (-1)).dropCandidate
  return { (l.emit token).advance 3 with allowKey := false }

def fetchBlockEntry (l : Lexer) : Except Fault Lexer := do
  if l.flowLevel = 0 && !l.allowKey then .error .malformed
  else
    let l := if l.flowLevel = 0 then l.openBlock l.input.column none .blockSequenceStart else l
    let l ← { l with allowKey := true }.dropCandidate
    return (l.emit .blockEntry).advance 1

def fetchKey (l : Lexer) : Except Fault Lexer := do
  if l.flowLevel = 0 && !l.allowKey then .error .malformed
  else
    let l := if l.flowLevel = 0 then l.openBlock l.input.column none .blockMappingStart else l
    let l ← { l with allowKey := l.flowLevel = 0 }.dropCandidate
    return (l.emit .key).advance 1

def fetchValue (l : Lexer) : Except Fault Lexer := do
  match l.candidate? with
  | some c =>
      let l := { l with
        candidates := l.candidates.filter (·.1 ≠ l.flowLevel)
        tokens := l.tokens.insertIdxIfInBounds c.token .key
        allowKey := false }
      let l :=
        if l.flowLevel = 0 then l.openBlock c.column (some c.token) .blockMappingStart else l
      return (l.emit .value).advance 1
  | none =>
      if l.flowLevel = 0 && !l.allowKey then .error .malformed
      else
        let l := if l.flowLevel = 0 then l.openBlock l.input.column none .blockMappingStart else l
        let l ← { l with allowKey := l.flowLevel = 0 }.dropCandidate
        return (l.emit .value).advance 1

/-- A token that may begin a key, read by the given reader. -/
def fetchNode (l : Lexer) (reader : Input → Except Fault (Token × Input)) :
    Except Fault Lexer := do
  let l ← l.saveCandidate
  let (token, input) ← reader l.input
  return { l.emit token with input, allowKey := false }

def fetchPlain (l : Lexer) : Except Fault Lexer := do
  let l ← l.saveCandidate
  let (text, broken, input) := plainScalar (l.flowLevel ≠ 0) (l.indent + 1).toNat l.input
  return { l.emit (.scalar (String.ofList text) true) with input, allowKey := broken }

def fetchBlockScalar (l : Lexer) : Except Fault Lexer := do
  let l ← { l with allowKey := true }.dropCandidate
  let (text, input) ← blockScalar l.indent l.input
  return { l.emit (.scalar (String.ofList text) false) with input }

def startsPlain (l : Lexer) : Bool :=
  let c := l.input.peek
  let next := l.input.peekAt 1
  !(isGapOrEnd c || "-?:,[]\x7b\x7d#&*!|>'\"%@\x60".toList.contains c) ||
    (!isGapOrEnd next && (c = '-' || (l.flowLevel = 0 && (c = '?' || c = ':'))))

/-- Moves to the next token and closes what its column closes. -/
def prepare (l : Lexer) : Except Fault Lexer := do
  let l ← (l.skipGaps (l.input.rest.length + 1)).dropStale
  return l.unwindTo l.input.column

/-- The token that begins at the current character, and the tokens that its place brings with
it. -/
def fetch (l : Lexer) : Except Fault Lexer :=
  let i := l.input
  let c := i.peek
  let indicator := isGapOrEnd (i.peekAt 1)
  if c = '%' && i.column = 0 then do
    let l ← (l.unwindTo (-1)).dropCandidate
    let (directive, input) ← readDirective l.input
    return { l.emit (.directive directive) with input, allowKey := false }
  else if c = '-' && i.column = 0 && i.isMarker '-' then l.fetchMarker .documentStart
  else if c = '.' && i.column = 0 && i.isMarker '.' then l.fetchMarker .documentEnd
  else if c = '[' then l.openFlow .flowSequenceStart
  else if c = '\x7b' then l.openFlow .flowMappingStart
  else if c = ']' then l.closeFlow .flowSequenceEnd
  else if c = '\x7d' then l.closeFlow .flowMappingEnd
  else if c = ',' then do
    let l ← { l with allowKey := true }.dropCandidate
    return (l.emit .flowEntry).advance 1
  else if c = '-' && indicator then l.fetchBlockEntry
  else if c = '?' && (l.flowLevel ≠ 0 || indicator) then l.fetchKey
  else if c = ':' && (l.flowLevel ≠ 0 || indicator) then l.fetchValue
  else if c = '*' then
    l.fetchNode fun i => do
      let (name, i) ← readAnchor i
      return (.alias name, i)
  else if c = '&' then
    l.fetchNode fun i => do
      let (name, i) ← readAnchor i
      return (.anchor name, i)
  else if c = '!' then l.fetchNode readTag
  else if (c = '|' || c = '>') && l.flowLevel = 0 then l.fetchBlockScalar
  else if c = '\'' || c = '"' then
    l.fetchNode fun i => do
      let (text, i) ← quotedScalar i
      return (.scalar (String.ofList text) false, i)
  else if l.startsPlain then l.fetchPlain
  else .error .malformed

/-- All tokens. Every step passes a character. -/
def run : Nat → Lexer → Except Fault (Array Token)
  | 0, _ => .error .malformed
  | fuel + 1, l => do
      let l ← l.prepare
      if l.input.peek = '\x00' then
        let l ← (l.unwindTo (-1)).dropCandidate
        return (l.emit .streamEnd).tokens
      else run fuel (← l.fetch)

end Lexer

def tokens (text : List Char) : Except Fault (List Token) :=
  if text.all isAllowed then do
    let tokens ← (Lexer.start text).run (text.length + 2)
    return tokens.toList
  else .error .malformed

end NativeVariants.Yaml
