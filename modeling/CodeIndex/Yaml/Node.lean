import CodeIndex.Yaml.Kind
import CodeIndex.Yaml.Layout

/-! The nodes of a YAML document, read from its tokens. -/
namespace CodeIndex.Yaml

/-- A node. An alias is the node that it names; an alias of a collection that it stands in is known
by the shape of that collection only. -/
inductive Node where
  | scalar (kind : Kind) (content : ScalarText)
  | sequence (kind : Kind) (items : List Node)
  | mapping (kind : Kind) (entries : List (Node × Node))
  | enclosing (isMapping : Bool)
  deriving Repr, Inhabited

/-- The tokens that are left, what the handles of tags stand for, and the nodes that have names. -/
structure Stream where
  tokens : List Token
  handles : List (String × String) := []
  anchors : List (String × Node) := []

/-- Reading nodes from tokens. -/
abbrev Composing := StateT Stream (Except Failure)

namespace Composing

/-- The stream is not well-formed. -/
def refuse {α : Type} : Composing α := throw .malformedYaml

/-- The next token. -/
def peek? : Composing (Option Token) := return (← get).tokens.head?

/-- Whether the next token is one of some. -/
def nextIsIn (tokens : List Token) : Composing Bool := return (← peek?).any tokens.contains

/-- Passes over the next token. -/
def skip : Composing Unit := modify fun stream => { stream with tokens := stream.tokens.tail }

/-- Passes over the next token if it is the given one. -/
def accept (token : Token) : Composing Bool := do
  if (← peek?) = some token then
    skip
    return true
  else return false

/-- The next token must be the given one. -/
def expect (token : Token) : Composing Unit := do
  unless ← accept token do refuse

/-- The anchor before a node, if there is one. -/
def anchor? : Composing (Option String) := do
  match ← peek? with
  | some (.anchor name) =>
    skip
    return some name
  | _ => return none

/-- The full tag before a node, if there is one. -/
def tag? : Composing (Option String) := do
  match ← peek? with
  | some (.tag handle suffix) =>
    skip
    match handle with
    | none => return some suffix
    | some handle =>
      match (← get).handles.lookup handle with
      | some content => return some (content ++ suffix)
      | none => refuse
  | _ => return none

/-- The anchor and the tag before a node, in either order. -/
def properties : Composing (Option String × Option String) := do
  let first ← anchor?
  let tag ← tag?
  let second ← if first.isNone && tag.isSome then anchor? else pure first
  return (second, tag)

/-- Names a node. -/
def name (anchor : Option String) (node : Node) : Composing Unit :=
  match anchor with
  | none => return
  | some anchor => modify fun stream => { stream with
      anchors := (anchor, node) :: stream.anchors.filter fun (other, _) => other ≠ anchor }

/-- A node that holds others. It can be named in them. -/
def collection (anchor : Option String) (isMapping : Bool) (body : Composing Node) :
    Composing Node := do
  name anchor (.enclosing isMapping)
  let node ← body
  name anchor node
  return node

/-- The kind of a node with a tag or without one. -/
def kindOf (tag : Option String) (without : Kind) : Kind :=
  match tag with
  | none => without
  | some tag => if tag = "!" then without else .ofTag tag

/-- A node for text. -/
def scalarNode (tag : Option String) (content : ScalarText) (isPlain : Bool) : Node :=
  let implied := if isPlain || tag = some "!" then Kind.implied content.chars else .text
  .scalar (kindOf tag implied) content

/-- The node where nothing is written. -/
def emptyNode : Node := .scalar .null {}

end Composing

open Composing

/-- Which collections are possible at a place: flow collections only, those in blocks too, or also
sequences that are indented no further than the mapping around them. -/
inductive Place where
  | flow
  | block
  | blockValue
  deriving DecidableEq, Repr

mutual

/-- A node. -/
def node : (fuel : Nat) → Place → Composing Node
  | 0, _ => refuse
  | fuel + 1, place => do
    match ← peek? with
    | some (.alias target) =>
      skip
      match (← get).anchors.lookup target with
      | some node => return node
      | none => refuse
    | _ =>
      let (anchor, tag) ← properties
      let known := (← get).anchors
      if anchor.any fun anchor => (known.lookup anchor).isSome then refuse
      let kind := kindOf tag
      match ← peek? with
      | some (.scalar content isPlain) =>
        skip
        let node := scalarNode tag content isPlain
        name anchor node
        return node
      | some .flowSequenceStart =>
        skip
        collection anchor false (return .sequence (kind .sequence) (← flowItems fuel true))
      | some .flowMappingStart =>
        skip
        collection anchor true (return .mapping (kind .mapping) (← flowEntries fuel true))
      | some token =>
        if token = .blockEntry && place = .blockValue then
          collection anchor false (return .sequence (kind .sequence) (← openItems fuel))
        else if token = .blockSequenceStart && place ≠ .flow then
          skip
          collection anchor false (return .sequence (kind .sequence) (← blockItems fuel))
        else if token = .blockMappingStart && place ≠ .flow then
          skip
          collection anchor true (return .mapping (kind .mapping) (← blockEntries fuel))
        else if anchor.isSome || tag.isSome then
          let node := scalarNode tag {} true
          name anchor node
          return node
        else refuse
      | none => refuse

/-- A node, or the empty one before certain tokens. -/
def nodeUnless : (fuel : Nat) → Place → List Token → Composing Node
  | 0, _, _ => refuse
  | fuel + 1, place, ends => do
    if ← nextIsIn ends then return emptyNode else node fuel place

/-- The items of a sequence in a block up to its end. -/
def blockItems : (fuel : Nat) → Composing (List Node)
  | 0 => refuse
  | fuel + 1 => do
    if ← accept .blockEntry then
      let item ← nodeUnless fuel .block [.blockEntry, .blockEnd]
      return item :: (← blockItems fuel)
    else
      expect .blockEnd
      return []

/-- The items of a sequence that is indented no further than the mapping around it. -/
def openItems : (fuel : Nat) → Composing (List Node)
  | 0 => refuse
  | fuel + 1 => do
    if ← accept .blockEntry then
      let item ← nodeUnless fuel .block [.blockEntry, .key, .value, .blockEnd]
      return item :: (← openItems fuel)
    else return []

/-- The entries of a mapping in a block up to its end. -/
def blockEntries : (fuel : Nat) → Composing (List (Node × Node))
  | 0 => refuse
  | fuel + 1 => do
    let ends : List Token := [.key, .value, .blockEnd]
    if ← accept .key then
      let key ← nodeUnless fuel .blockValue ends
      let value ← if ← accept .value then nodeUnless fuel .blockValue ends else pure emptyNode
      return (key, value) :: (← blockEntries fuel)
    else
      expect .blockEnd
      return []

/-- The items of a sequence in brackets up to its end. A key makes a mapping of one entry. -/
def flowItems : (fuel : Nat) → (isFirst : Bool) → Composing (List Node)
  | 0, _ => refuse
  | fuel + 1, isFirst => do
    if ← accept .flowSequenceEnd then return []
    unless isFirst do expect .flowEntry
    if ← accept .key then
      let key ← nodeUnless fuel .flow [.value, .flowEntry, .flowSequenceEnd]
      let value ← if ← accept .value then nodeUnless fuel .flow [.flowEntry, .flowSequenceEnd]
        else pure emptyNode
      return .mapping .mapping [(key, value)] :: (← flowItems fuel false)
    else if ← accept .flowSequenceEnd then return []
    else
      let item ← node fuel .flow
      return item :: (← flowItems fuel false)

/-- The entries of a mapping in braces up to its end. -/
def flowEntries : (fuel : Nat) → (isFirst : Bool) → Composing (List (Node × Node))
  | 0, _ => refuse
  | fuel + 1, isFirst => do
    if ← accept .flowMappingEnd then return []
    unless isFirst do expect .flowEntry
    if ← accept .key then
      let key ← nodeUnless fuel .flow [.value, .flowEntry, .flowMappingEnd]
      let value ← if ← accept .value then nodeUnless fuel .flow [.flowEntry, .flowMappingEnd]
        else pure emptyNode
      return (key, value) :: (← flowEntries fuel false)
    else if ← accept .flowMappingEnd then return []
    else
      let key ← node fuel .flow
      return (key, emptyNode) :: (← flowEntries fuel false)

end

/-- The handles that need no directive. -/
def commonHandles : List (String × String) := [("!", "!"), ("!!", Kind.commonTag)]

/-- The directives before a document. Only versions that start with one are known. -/
def directives : (fuel : Nat) → (hasVersion : Bool) → Composing Unit
  | 0, _ => refuse
  | fuel + 1, hasVersion => do
    match ← peek? with
    | some (.version major) =>
      if hasVersion || major ≠ 1 then refuse
      skip
      directives fuel true
    | some (.tagDirective handle content) =>
      if ((← get).handles.lookup handle).isSome then refuse
      skip
      modify fun stream => { stream with handles := (handle, content) :: stream.handles }
      directives fuel hasVersion
    | some .otherDirective =>
      skip
      directives fuel hasVersion
    | _ => return

/-- Passes over the markers for the end of a document. -/
def skipDocumentEnds : (fuel : Nat) → Composing Unit
  | 0 => return
  | fuel + 1 => do
    if ← accept .documentEnd then skipDocumentEnds fuel

/-- Whether a directive comes next. -/
def nextIsDirective : Composing Bool := do
  match ← peek? with
  | some (.version _) | some (.tagDirective _ _) | some .otherDirective => return true
  | _ => return false

/-- The single document of a stream, if there is one. -/
def document : Composing (Option Node) := do
  let fuel := 4 * (← get).tokens.length + 4
  if ← accept .finish then return none
  let isMarked := (← nextIsDirective) || (← peek?) = some .documentStart
  let found ←
    if isMarked then do
      directives fuel false
      expect .documentStart
      modify fun stream => { stream with handles := stream.handles ++ commonHandles }
      let isEmpty := (← nextIsDirective)
        || (← nextIsIn [.documentStart, .documentEnd, .finish])
      if isEmpty then pure emptyNode else node fuel .block
    else do
      modify fun stream => { stream with handles := commonHandles }
      node fuel .block
  skipDocumentEnds fuel
  expect .finish
  return some found

/-- The single document of a text, if there is one. -/
def Node.ofText (text : List Char) : Except Failure (Option Node) := do
  let (found, _) ← document { tokens := ← tokens text }
  return found

end CodeIndex.Yaml
