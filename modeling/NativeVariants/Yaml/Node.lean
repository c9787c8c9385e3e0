import NativeVariants.Yaml.Lexer
import NativeVariants.Yaml.Tag

set_option autoImplicit false

/-!
From tokens to the nodes of one document. An alias stands for the node of its anchor; inside that
very node it is a loop.
-/

namespace NativeVariants.Yaml

inductive Node where
  | scalar (tag : Tag) (text : String)
  | sequence (tag : Tag) (items : List Node)
  | mapping (tag : Tag) (entries : List (Node × Node))
  /-- A collection inside itself. -/
  | loop (isMapping : Bool)
  deriving Inhabited

namespace Node

/-- The tokens still to be read, the anchors seen so far, and the handles of tags. The node of an
anchor is not known before it ends; until then only its kind is. -/
structure State where
  tokens : List Token
  anchors : List (String × Node)
  handles : List (String × String)

abbrev Reader (α : Type) := StateT State (Except Fault) α

def defaultHandles : List (String × String) := [("!", "!"), ("!!", coreLead)]

def peek : Reader Token := do
  return (← get).tokens.head?.getD .streamEnd

def drop : Reader Unit := modify fun s => { s with tokens := s.tokens.tail }

def malformed {α : Type} : Reader α := throw .malformed

def take (token : Token) : Reader Bool := do
  if (← peek) = token then
    drop
    return true
  else return false

def empty : Node := .scalar .null ""

def bind (anchor? : Option String) (node : Node) : Reader Unit :=
  match anchor? with
  | none => return
  | some name => modify fun s => { s with anchors := (name, node) :: s.anchors }

/-- The anchor and the tag before a node, in either order, each at most once. -/
def properties : Reader (Option String × Option (Option String × String)) := do
  match ← peek with
  | .anchor name =>
      drop
      match ← peek with
      | .tag handle suffix =>
          drop
          return (some name, some (handle, suffix))
      | _ => return (some name, none)
  | .tag handle suffix =>
      drop
      match ← peek with
      | .anchor name =>
          drop
          return (some name, some (handle, suffix))
      | _ => return (none, some (handle, suffix))
  | _ => return (none, none)

def tagName : Option (Option String × String) → Reader (Option String)
  | none => return none
  | some (none, suffix) => return some suffix
  | some (some handle, suffix) => do
      match (← get).handles.lookup handle with
      | none => malformed
      | some lead => return some (lead ++ suffix)

/-- The tag of a collection; the bare exclamation mark leaves it open. -/
def collectionTag (tag? : Option String) (default : Tag) : Tag :=
  match tag? with
  | none => default
  | some name => if name = "!" then default else Tag.ofName name

/-- The tag of a scalar. The bare exclamation mark has it decided by the text. -/
def scalarTag (tag? : Option String) (plain : Bool) (text : String) : Tag :=
  match tag? with
  | none => if plain then Tag.ofPlain text.toList else .text
  | some name => if name = "!" then Tag.ofPlain text.toList else Tag.ofName name

def close (anchor? : Option String) (result : Node) : Reader Node := do
  bind anchor? result
  return result

def isOneOf (tokens : List Token) : Reader Bool := do
  return tokens.contains (← peek)

mutual

/-- One node. In block context block collections may begin here; after a key or a colon a sequence
may do without further indentation. -/
def node (block indentless : Bool) : Nat → Reader Node
  | 0 => malformed
  | fuel + 1 => do
      if let .alias name ← peek then
        drop
        match (← get).anchors.lookup name with
        | none => malformed
        | some target => return target
      else
        let (anchor?, tagged) ← properties
        let tag? ← tagName tagged
        if let some name := anchor? then
          if ((← get).anchors.lookup name).isSome then malformed
        let token ← peek
        if indentless && token = .blockEntry then
          bind anchor? (.loop false)
          let items ← indentlessItems fuel
          close anchor? (.sequence (collectionTag tag? .sequence) items)
        else
          match token with
          | .scalar text plain =>
              drop
              close anchor? (.scalar (scalarTag tag? plain text) text)
          | .flowSequenceStart =>
              drop
              bind anchor? (.loop false)
              let items ← flowItems true fuel
              close anchor? (.sequence (collectionTag tag? .sequence) items)
          | .flowMappingStart =>
              drop
              bind anchor? (.loop true)
              let entries ← flowEntries true fuel
              close anchor? (.mapping (collectionTag tag? .mapping) entries)
          | _ =>
              if block && token = .blockSequenceStart then
                drop
                bind anchor? (.loop false)
                let items ← blockItems fuel
                close anchor? (.sequence (collectionTag tag? .sequence) items)
              else if block && token = .blockMappingStart then
                drop
                bind anchor? (.loop true)
                let entries ← blockEntries fuel
                close anchor? (.mapping (collectionTag tag? .mapping) entries)
              else if anchor?.isSome || tag?.isSome then
                close anchor? (.scalar (scalarTag tag? true "") "")
              else malformed

def nodeUnless (stops : List Token) (block indentless : Bool) : Nat → Reader Node
  | 0 => malformed
  | fuel + 1 => do
      if ← isOneOf stops then return empty else node block indentless fuel

def blockItems : Nat → Reader (List Node)
  | 0 => malformed
  | fuel + 1 => do
      if ← take .blockEntry then
        let item ← nodeUnless [.blockEntry, .blockEnd] true false fuel
        return item :: (← blockItems fuel)
      else if ← take .blockEnd then return []
      else malformed

def indentlessItems : Nat → Reader (List Node)
  | 0 => malformed
  | fuel + 1 => do
      if ← take .blockEntry then
        let item ← nodeUnless [.blockEntry, .key, .value, .blockEnd] true false fuel
        return item :: (← indentlessItems fuel)
      else return []

def blockEntries : Nat → Reader (List (Node × Node))
  | 0 => malformed
  | fuel + 1 => do
      if ← take .key then
        let key ← nodeUnless [.key, .value, .blockEnd] true true fuel
        let value ←
          if ← take .value then nodeUnless [.key, .value, .blockEnd] true true fuel
          else pure empty
        return (key, value) :: (← blockEntries fuel)
      else if ← take .blockEnd then return []
      else malformed

/-- Items of a flow sequence; a key makes a mapping of one entry. -/
def flowItems (first : Bool) : Nat → Reader (List Node)
  | 0 => malformed
  | fuel + 1 => do
      if ← take .flowSequenceEnd then return []
      else
        if !first then
          if !(← take .flowEntry) then malformed
        if ← take .key then
          let key ← nodeUnless [.value, .flowEntry, .flowSequenceEnd] false false fuel
          let value ←
            if ← take .value then
              nodeUnless [.flowEntry, .flowSequenceEnd] false false fuel
            else pure empty
          return .mapping .mapping [(key, value)] :: (← flowItems false fuel)
        else if ← take .flowSequenceEnd then return []
        else
          let item ← node false false fuel
          return item :: (← flowItems false fuel)

def flowEntries (first : Bool) : Nat → Reader (List (Node × Node))
  | 0 => malformed
  | fuel + 1 => do
      if ← take .flowMappingEnd then return []
      else
        if !first then
          if !(← take .flowEntry) then malformed
        if ← take .key then
          let key ← nodeUnless [.value, .flowEntry, .flowMappingEnd] false false fuel
          let value ←
            if ← take .value then
              nodeUnless [.flowEntry, .flowMappingEnd] false false fuel
            else pure empty
          return (key, value) :: (← flowEntries false fuel)
        else if ← take .flowMappingEnd then return []
        else
          let key ← node false false fuel
          return (key, empty) :: (← flowEntries false fuel)

end

/-- The directives before a document: at most one version, which begins with one, and at most one
tag directive for a handle. -/
def directives : Nat → Bool → List (String × String) → Reader (List (String × String))
  | 0, _, _ => malformed
  | fuel + 1, versioned, handles => do
      match ← peek with
      | .directive (.version major _) =>
          if versioned || major ≠ 1 then malformed
          else
            drop
            directives fuel true handles
      | .directive (.tag handle lead) =>
          if (handles.lookup handle).isSome then malformed
          else
            drop
            directives fuel versioned ((handle, lead) :: handles)
      | .directive .other =>
          drop
          directives fuel versioned handles
      | _ => return handles

def skipEnds : Nat → Reader Unit
  | 0 => return
  | fuel + 1 => do
      if ← take .documentEnd then skipEnds fuel

def document (fuel : Nat) : Reader (Option Node) := do
  match ← peek with
  | .streamEnd => return none
  | .directive _ => explicit
  | .documentStart => explicit
  | _ =>
      let root ← node true false fuel
      finish
      return some root
where
  explicit : Reader (Option Node) := do
    let handles ← directives fuel false []
    modify fun s => { s with handles := handles ++ defaultHandles }
    if !(← take .documentStart) then malformed
    let stop ← match ← peek with
      | .directive _ => pure true
      | .documentStart => pure true
      | .documentEnd => pure true
      | .streamEnd => pure true
      | _ => pure false
    let root ← if stop then pure empty else node true false fuel
    finish
    return some root
  finish : Reader Unit := do
    skipEnds fuel
    if (← peek) ≠ .streamEnd then malformed

end Node

def Node.ofText (text : String) : Except Fault (Option Node) := do
  let tokens ← tokens text.toList
  let fuel := 6 * tokens.length + 12
  let (root, _) ← (Node.document fuel).run
    { tokens, anchors := [], handles := Node.defaultHandles }
  return root

end NativeVariants.Yaml
