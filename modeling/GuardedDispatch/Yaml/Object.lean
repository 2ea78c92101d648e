import GuardedDispatch.Value.Equality
import GuardedDispatch.Yaml.Merge
import GuardedDispatch.Yaml.Schema

/-! # Objects

What the nodes of a document stand for. Each node stands for one object, which other objects refer
to by the place of the node; so objects may contain themselves.

A list, map or set is first made empty and put into a queue, and filled when its turn comes
(`Building.fill`). That is why a document with several faults has the one nearest to its root, and
of those the first. A mapping is flattened when it is filled; of several values of a key the last
counts, in the place of the first. -/

namespace GuardedDispatch.Yaml

/-- An **object**. -/
inductive Object where
  /-- A value without other objects in it. -/
  | plain (v : Value)
  /-- A list. -/
  | list (items : List NodeRef)
  /-- A list of pairs. -/
  | pairs (items : NodeFields)
  /-- A map. -/
  | map (fields : List (Value × NodeRef))

instance : Inhabited Object := ⟨.plain .null⟩

namespace Object

/-- The objects that an object refers to. -/
def parts : Object → List NodeRef
  | plain _ => []
  | list items => items
  | pairs items => items.flatMap fun item => [item.1, item.2]
  | map fields => fields.map (·.2)

/-- Whether an object is a map. -/
def isMap : Object → Bool
  | map _ => true
  | _ => false

end Object

/-- What is **built** of a document: its nodes, the objects of some of them, and the nodes whose
objects are to be filled, the last first. -/
structure Builder where
  graph : Graph
  objects : Array (Option Object)
  waiting : List NodeRef := []

/-- Building objects. -/
abbrev Building := StateT Builder Reading

namespace Building

/-- Flatten a mapping. -/
def flatten (ref : NodeRef) : Building Unit := do
  let builder ← get
  let ((), graph) ← liftM ((Graph.flatten ref).run builder.graph)
  set { builder with graph }

/-- Put an object at the place of its node. -/
def put (ref : NodeRef) (object : Object) : Building Unit :=
  modify fun builder => { builder with objects := builder.objects.setIfInBounds ref (some object) }

/-- Make an object that is to be filled. -/
def defer (ref : NodeRef) (object : Object) : Building Unit := do
  put ref object
  modify fun builder => { builder with waiting := ref :: builder.waiting }

/-- The text of a node: its own, or that of the value that stands for a mapping. A mapping that
stands for itself has no end. -/
def spelling (graph : Graph) : Nat → NodeRef → Reading Content
  | 0, _ => unsuitable .tooDeep
  | fuel + 1, ref =>
    match (graph.node ref).content with
    | .sequence _ => malformed
    | .mapping fields =>
      match fields.find? fun field => graph.tagOf field.1 = .value with
      | some (_, value) => spelling graph fuel value
      | none => malformed
    | content => .ok content

/-- Whether a node is a text itself. -/
def isDirect : Content → Bool
  | .text _ | .codes _ => true
  | _ => false

/-- The value of a node under a tag of texts. -/
def plainValue (graph : Graph) (ref : NodeRef) (tag : Tag) : Reading Value := do
  let direct := isDirect (graph.node ref).content
  match ← spelling graph (graph.size + 1) ref with
  | .text text => valueOfText tag ref direct text
  | .codes points => valueOfCodes tag ref direct points
  | _ => malformed

/-- Make the object of a node, unless it is made. -/
def make (ref : NodeRef) : Building Unit := do
  let builder ← get
  match builder.objects[ref]?.join with
  | some _ => return ()
  | none =>
    match builder.graph.tagOf ref with
    | .seq => defer ref (.list [])
    | .orderedMap | .pairs => defer ref (.pairs [])
    | .map => defer ref (.map [])
    | .set => defer ref (.plain (.set []))
    | .merge | .value | .other _ => throw .malformed
    | tag => put ref (.plain (← liftM (plainValue builder.graph ref tag)))

/-- The value of a node that is a key. A collection is no key. -/
def key (ref : NodeRef) : Building Value := do
  make ref
  let builder ← get
  if (builder.graph.tagOf ref).isCollection then throw .malformed
  match builder.objects[ref]?.join with
  | some (.plain v) => return v
  | _ => throw .malformed

/-- The keys of a flattened mapping, and the places of their values. -/
def fields (ref : NodeRef) : Building (List (Value × NodeRef)) := do
  flatten ref
  match ((← get).graph.node ref).content with
  | .mapping inner =>
    inner.foldlM (fun found field => do
      let key ← key field.1
      make field.2
      return putField key field.2 found) []
  | _ => throw .malformed

/-- The only field of a mapping. -/
def onlyField (ref : NodeRef) : Building (NodeRef × NodeRef) := do
  match ((← get).graph.node ref).content with
  | .mapping [field] =>
    make field.1
    make field.2
    return field
  | _ => throw .malformed

/-- The items of a sequence. -/
def items (ref : NodeRef) : Building (List NodeRef) := do
  match ((← get).graph.node ref).content with
  | .sequence items => return items
  | _ => throw .malformed

/-- **Fill** the object of a node. -/
def fill (ref : NodeRef) : Building Unit := do
  match (← get).graph.tagOf ref with
  | .seq =>
    let items ← items ref
    items.forM make
    put ref (.list items)
  | .orderedMap | .pairs => put ref (.pairs (← (← items ref).mapM onlyField))
  | .map => put ref (.map (← fields ref))
  | .set => put ref (.plain (.set ((← fields ref).map (·.1))))
  | _ => throw .malformed

/-- Fill all objects that wait, and those that wait then, at most `fuel` rounds. -/
def fillAll : Nat → Building Unit
  | 0 => return ()
  | fuel + 1 => do
    match (← get).waiting with
    | [] => return ()
    | waiting =>
      modify fun builder => { builder with waiting := [] }
      waiting.reverse.forM fill
      fillAll fuel

end Building

/-- The **objects** of a document, by the places of their nodes. -/
def Document.objects (document : Document) : Reading (Array (Option Object)) := do
  let graph := document.graph
  let builder : Builder := { graph, objects := .replicate graph.size none }
  let ((), built) ← (do
    Building.make document.root
    Building.fillAll (graph.size + 1) : Building Unit).run builder
  return built.objects

end GuardedDispatch.Yaml
