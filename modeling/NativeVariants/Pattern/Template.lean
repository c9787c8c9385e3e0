import NativeVariants.Pattern.Reader

set_option autoImplicit false

/-!
Replacement templates: texts in which escapes stand for characters and for the whole match. A
template belongs to a pattern without groups, so no other group can be asked for.
-/

namespace NativeVariants.Pattern
open Text

inductive TemplateFault where
  | malformed
  /-- A well-formed name of a group; there are no named groups. -/
  | unknownName
  deriving DecidableEq, Repr

inductive TemplatePart where
  | char (c : Char)
  | wholeMatch
  deriving DecidableEq, Repr

abbrev Template := List TemplatePart

namespace Template

/-- The text up to the closing angle bracket, which is passed. -/
def groupName : List Piece → Option (List Char × List Piece)
  | pieces =>
      let before := pieces.takeWhile (· ≠ .plain '>')
      match before, pieces.drop before.length with
      | _ :: _, _ :: rest => some (before.flatMap Reader.pieceChars, rest)
      | _, _ => none

/-- The group that is asked for by name or number: only the whole match exists. -/
def groupPart (name : List Char) : Except TemplateFault TemplatePart :=
  if isName name then .error .unknownName
  else
    match readInt? 10 name with
    | some 0 => .ok .wholeMatch
    | _ => .error .malformed

def octalDigits (most : Nat) (pieces : List Piece) : List Char :=
  ((pieces.take most).takeWhile fun piece =>
    match piece with
    | .plain c => isOctal c
    | .escaped _ => false).flatMap Reader.pieceChars

def codePart (code : Nat) : TemplatePart := .char (Char.ofNat code)

/-- What an escape that is neither a group nor a number stands for. -/
def simpleEscape (c : Char) : Except TemplateFault Template :=
  match controlEscapes.lookup c with
  | some code => .ok [codePart code]
  | none =>
      if c = 'b' then .ok [codePart 8]
      else if c.isAlpha then .error .malformed
      else .ok [.char '\\', .char c]

/-- A digit other than zero begins an octal escape of three digits, or a group number; but no
numbered group exists. -/
def octalEscape (c : Char) (pieces : List Piece) : Except TemplateFault TemplatePart :=
  let digits := octalDigits 2 pieces
  if isOctal c && digits.length = 2 && inBase 8 (c :: digits) ≤ 255 then
    .ok (codePart (inBase 8 (c :: digits)))
  else .error .malformed

def ofPieces : Nat → List Piece → Except TemplateFault Template
  | 0, _ => .ok []
  | _, [] => .ok []
  | fuel + 1, .plain c :: rest => do return .char c :: (← ofPieces fuel rest)
  | fuel + 1, .escaped c :: rest => do
      if c = 'g' then
        match rest with
        | .plain '<' :: rest =>
            match groupName rest with
            | none => .error .malformed
            | some (name, rest) =>
                let part ← groupPart name
                return part :: (← ofPieces fuel rest)
        | _ => .error .malformed
      else if c = '0' then
        let digits := octalDigits 2 rest
        return codePart (inBase 8 digits % 256) :: (← ofPieces fuel (rest.drop digits.length))
      else if isAsciiDigit c then
        let part ← octalEscape c rest
        return part :: (← ofPieces fuel (rest.drop 2))
      else
        let parts ← simpleEscape c
        return parts ++ (← ofPieces fuel rest)

def read (text : String) : Except TemplateFault Template :=
  match pieces text.toList with
  | .error _ => .error .malformed
  | .ok pieces => ofPieces (pieces.length + 1) pieces

def expand (template : Template) (matched : List Char) : List Char :=
  template.flatMap fun part =>
    match part with
    | .char c => [c]
    | .wholeMatch => matched

end Template

end NativeVariants.Pattern
