import GuardedDispatch.Yaml.Node
import GuardedDispatch.Yaml.Tag.Implicit
import GuardedDispatch.Yaml.Token.Lexer

/-! # Reading nodes

The graph of nodes that tokens spell. In front of a node its tag and an anchor may stand, in either
order; an anchor may be used once, and a reference stands for the node behind the anchor, even
inside that node. Where a node is expected and nothing is written there is an empty node. Sequences
and mappings nest only so deep (`depthLimit`).

A text holds one document at most (`readDocument`). The bound on the number of steps comes from the
number of tokens: between any two tokens there are few. -/

namespace GuardedDispatch.Yaml

/-- What is left to **parse**, and what was found: the tokens, the nodes, the nodes behind anchors,
the handles of tags, the sequences and mappings around, and whether one of them is referred to. -/
structure Remaining where
  tokens : List Token
  graph : Graph := {}
  anchors : List (String × NodeRef) := []
  handles : List (String × String) := []
  around : List NodeRef := []
  knotted : Bool := false

/-- Reading from tokens. -/
abbrev Parsing := StateT Remaining Reading

namespace Parsing

/-- Fail because the tokens spell nothing. -/
def refuse : Parsing α := throw .malformed

/-- The next token; where tokens break off, so does parsing. -/
def peek? : Parsing (Option Token) := do
  match (← get).tokens with
  | [] => return none
  | .broken fault :: _ => throw fault
  | token :: _ => return token

/-- Pass over the next token. -/
def drop : Parsing Unit := modify fun state => { state with tokens := state.tokens.tail }

/-- Pass over the next token if it is the given one; the answer tells whether it was. -/
def dropIf (token : Token) : Parsing Bool := do
  if (← peek?) = some token then
    drop
    return true
  else return false

/-- Pass over the comma that has to come next. -/
def dropComma : Parsing Unit := do
  unless ← dropIf .comma do refuse

/-- Whether the next token is one of some. -/
def atOneOf (tokens : List Token) : Parsing Bool := return (← peek?).any tokens.contains

/-- The name that an anchor in front of a node gives it. -/
def anchor? : Parsing (Option String) := do
  match ← peek? with
  | some (.anchor name) =>
    drop
    return some name
  | _ => return none

/-- The name of the tag in front of a node. -/
def tagName? : Parsing (Option String) := do
  match ← peek? with
  | some (.tag none suffix) =>
    drop
    return some suffix
  | some (.tag (some handle) suffix) =>
    drop
    match (← get).handles.find? (·.1 == handle) with
    | some (_, beginning) => return some (beginning ++ suffix)
    | none => refuse
  | _ => return none

/-- The anchor and the tag in front of a node. -/
def properties : Parsing (Option String × Option String) := do
  match ← anchor? with
  | some name => return (some name, ← tagName?)
  | none =>
    let tag ← tagName?
    return (← if tag.isSome then anchor? else pure none, tag)

/-- Add a node. -/
def add (node : Node) : Parsing NodeRef := do
  let state ← get
  let (ref, graph) := state.graph.add node
  set { state with graph }
  return ref

/-- Put a node behind an anchor. -/
def bind (anchor : Option String) (ref : NodeRef) : Parsing Unit :=
  match anchor with
  | none => return ()
  | some name => modify fun state => { state with anchors := (name, ref) :: state.anchors }

/-- Refuse an anchor that is in use. -/
def refuseUsed (anchor : Option String) : Parsing Unit := do
  let used := (← get).anchors.map (·.1)
  if anchor.any used.contains then refuse

/-- The node behind the anchor of a name. -/
def referred (name : String) : Parsing NodeRef := do
  let state ← get
  match state.anchors.find? (·.1 == name) with
  | some (_, ref) =>
    if state.around.contains ref then set { state with knotted := true }
    return ref
  | none => refuse

/-- The tag of a collection. -/
def collectionTag (name : Option String) (default : Tag) : Tag :=
  match name with
  | none | some "!" => default
  | some name => .ofName name

/-- The tag of a text: a mark on its own asks for the implicit one. -/
def textTag (name : Option String) (text : String) (plain : Bool) : Tag :=
  match name with
  | none => if plain then .implicit text else .str
  | some "!" => .implicit text
  | some name => .ofName name

/-- The tag of a text that is not plain and that no implicit tag fits. -/
def codesTag (name : Option String) : Tag :=
  match name with
  | none | some "!" => .str
  | some name => .ofName name

/-- How many sequences and mappings may nest. -/
def depthLimit : Nat := 485

/-- Read a collection and add its node; while its members are read, the node is there without them.
-/
def collection (anchor : Option String) (tag : Tag) (build : List α → Content)
    (members : Parsing (List α)) : Parsing NodeRef := do
  let around := (← get).around
  if depthLimit ≤ around.length then throw (.unsuitable .tooDeep)
  let ref ← add ⟨tag, build []⟩
  bind anchor ref
  modify fun state => { state with around := ref :: around }
  let members ← members
  modify fun state =>
    { state with around, graph := state.graph.setNode ref ⟨tag, build members⟩ }
  return ref

/-- Add a node without members. -/
def leaf (anchor : Option String) (tag : Tag) (content : Content) : Parsing NodeRef := do
  let ref ← add ⟨tag, content⟩
  bind anchor ref
  return ref

/-- Add an empty node. -/
def nothing : Parsing NodeRef := add .empty

mutual

/-- Read a **node**. Outside brackets it may be a block, and where it is the value of a field the
items of a block may stand without indentation. -/
def node : Nat → Bool → Bool → Parsing NodeRef
  | 0, _, _ => refuse
  | fuel + 1, block, unindented => do
    match ← peek? with
    | some (.reference name) =>
      drop
      referred name
    | _ =>
      let (anchor, name) ← properties
      refuseUsed anchor
      let sequence := collection anchor (collectionTag name .seq) .sequence
      let mapping := collection anchor (collectionTag name .map) .mapping
      match ← peek? with
      | some (.scalar text plain) =>
        drop
        leaf anchor (textTag name text plain) (.text text)
      | some (.codes points) =>
        drop
        leaf anchor (codesTag name) (.codes points)
      | some .bracketOpen =>
        drop
        sequence (flowItems fuel true)
      | some .braceOpen =>
        drop
        mapping (flowFields fuel true)
      | next =>
        if unindented && next = some .item then sequence (unindentedItems fuel)
        else if block && next = some .itemsStart then
          drop
          sequence (blockItems fuel)
        else if block && next = some .fieldsStart then
          drop
          mapping (blockFields fuel)
        else if anchor.isSome || name.isSome then leaf anchor (textTag name "" true) (.text "")
        else refuse

/-- Read a node, or an empty one before some tokens. -/
def nodeUnless : Nat → Bool → Bool → List Token → Parsing NodeRef
  | 0, _, _, _ => refuse
  | fuel + 1, block, unindented, ends => do
    if ← atOneOf ends then nothing else node fuel block unindented

/-- Read the **items of a block**. -/
def blockItems : Nat → Parsing (List NodeRef)
  | 0 => refuse
  | fuel + 1 => do
    if ← dropIf .item then
      let first ← nodeUnless fuel true false [.item, .blockEnd]
      return first :: (← blockItems fuel)
    else if ← dropIf .blockEnd then return []
    else refuse

/-- Read items that are not indented; no token marks their end. -/
def unindentedItems : Nat → Parsing (List NodeRef)
  | 0 => refuse
  | fuel + 1 => do
    if ← dropIf .item then
      let first ← nodeUnless fuel true false [.item, .key, .value, .blockEnd]
      return first :: (← unindentedItems fuel)
    else return []

/-- Read the **fields of a block**. -/
def blockFields : Nat → Parsing (List (NodeRef × NodeRef))
  | 0 => refuse
  | fuel + 1 => do
    if ← dropIf .key then
      let ends := [.key, .value, .blockEnd]
      let key ← nodeUnless fuel true true ends
      let value ← if ← dropIf .value then nodeUnless fuel true true ends else nothing
      return (key, value) :: (← blockFields fuel)
    else if ← dropIf .blockEnd then return []
    else refuse

/-- Read the **items in brackets**; one with a key is a mapping with this one field. -/
def flowItems : Nat → Bool → Parsing (List NodeRef)
  | 0, _ => refuse
  | fuel + 1, first => do
    if ← dropIf .bracketClose then return []
    unless first do dropComma
    if ← dropIf .key then
      let item ← collection none .map .mapping (flowField fuel [.comma, .bracketClose])
      return item :: (← flowItems fuel false)
    else if ← dropIf .bracketClose then return []
    else
      let item ← node fuel false false
      return item :: (← flowItems fuel false)

/-- Read a field in brackets or braces behind the mark of its key. -/
def flowField : Nat → List Token → Parsing (List (NodeRef × NodeRef))
  | 0, _ => refuse
  | fuel + 1, ends => do
    let key ← nodeUnless fuel false false (.value :: ends)
    let value ← if ← dropIf .value then nodeUnless fuel false false ends else nothing
    return [(key, value)]

/-- Read the **fields in braces**; one without a mark for its key has an empty value. -/
def flowFields : Nat → Bool → Parsing (List (NodeRef × NodeRef))
  | 0, _ => refuse
  | fuel + 1, first => do
    if ← dropIf .braceClose then return []
    unless first do dropComma
    if ← dropIf .key then
      let field ← flowField fuel [.comma, .braceClose]
      return field ++ (← flowFields fuel false)
    else if ← dropIf .braceClose then return []
    else
      let key ← node fuel false false
      let value ← nothing
      return (key, value) :: (← flowFields fuel false)

end

/-- Pass over the marks behind a document. -/
def dropEnds : Parsing Unit :=
  modify fun state => { state with tokens := state.tokens.dropWhile (· = .documentEnd) }

/-- The handles that always stand for the beginning of a tag. -/
def standardHandles : List (String × String) := [("!", "!"), ("!!", Tag.beginning)]

/-- Read the **instructions** before a document: at most one version, which must be a first one, and
handles, each once. -/
def instructions : Nat → Bool → List (String × String) → Parsing (List (String × String))
  | 0, _, _ => refuse
  | fuel + 1, versioned, handles => do
    match ← peek? with
    | some (.version major) =>
      drop
      if versioned || major ≠ 1 then refuse else instructions fuel true handles
    | some (.handle name beginning) =>
      drop
      if handles.any (·.1 == name) then refuse
      else instructions fuel versioned (handles ++ [(name, beginning)])
    | some .instruction =>
      drop
      instructions fuel versioned handles
    | _ => return handles

/-- Whether the next token belongs to the start of a document that is marked. -/
def atMarkedStart : Parsing Bool := do
  match ← peek? with
  | none | some .documentStart | some .instruction | some (.version _) | some (.handle ..) =>
    return true
  | _ => return false

/-- Whether nothing is written between the marks of a document. -/
def atNothing : Parsing Bool := do
  return (← atMarkedStart) || (← peek?) = some .documentEnd

/-- Read the document that starts with a mark, if there is one. -/
def markedDocument (fuel : Nat) : Parsing (Option NodeRef) := do
  if (← peek?).isNone then return none
  let handles ← instructions fuel false []
  modify fun state => { state with handles := handles ++ standardHandles }
  if ← dropIf .documentStart then
    if ← atNothing then return some (← nothing) else return some (← node fuel true false)
  else refuse

/-- Refuse a further document, whose instructions and mark are read first. -/
def refuseFurther (fuel : Nat) : Parsing Unit := do
  discard (instructions fuel false [])
  discard peek?
  refuse

/-- Read the only **document**, if there is one. -/
def document (fuel : Nat) : Parsing (Option Document) := do
  let found ←
    if ← atMarkedStart then markedDocument fuel
    else do
      modify fun state => { state with handles := standardHandles }
      some <$> node fuel true false
  dropEnds
  if (← peek?).isSome then refuseFurther fuel
  let state ← get
  return found.map fun root => ⟨state.graph, root, state.knotted⟩

end Parsing

/-- The **document** that a source spells, if it is not empty. -/
def readDocument (source : Source) : Reading (Option Document) :=
  let tokens := tokens source
  (Parsing.document (4 * tokens.length + 8)).run' { tokens }

end GuardedDispatch.Yaml
