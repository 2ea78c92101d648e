import GuardedDispatch.Yaml.Tag

/-! # Nodes

What a document spells: texts, sequences and mappings, each with its tag. A reference in a document
stands for the very node that was anchored, so that nodes share others and may even contain
themselves: they form a graph, in which a node is named by its place (`NodeRef`). -/

namespace GuardedDispatch.Yaml

/-- The **place** of a node in its graph. -/
abbrev NodeRef := Nat

/-- What a node is made of. -/
inductive Content where
  /-- A text. -/
  | text (s : String)
  /-- A text with code points that are no characters. -/
  | codes (points : List Nat)
  /-- A sequence of nodes. -/
  | sequence (items : List NodeRef)
  /-- A mapping from nodes to nodes. -/
  | mapping (fields : List (NodeRef × NodeRef))
  deriving DecidableEq, Repr

/-- A **node**. -/
structure Node where
  tag : Tag
  content : Content
  deriving DecidableEq, Repr

/-- The node where nothing is written. -/
def Node.empty : Node := ⟨.null, .text ""⟩

instance : Inhabited Node := ⟨.empty⟩

/-- A **graph** of nodes. -/
structure Graph where
  nodes : Array Node := #[]

namespace Graph

/-- The node at a place. -/
def node (graph : Graph) (ref : NodeRef) : Node := graph.nodes[ref]?.getD .empty

/-- Replace the node at a place. -/
def setNode (graph : Graph) (ref : NodeRef) (node : Node) : Graph :=
  ⟨graph.nodes.setIfInBounds ref node⟩

/-- Add a node; the answer holds its place. -/
def add (graph : Graph) (node : Node) : NodeRef × Graph :=
  (graph.nodes.size, ⟨graph.nodes.push node⟩)

/-- How many nodes there are. -/
def size (graph : Graph) : Nat := graph.nodes.size

/-- The fields of a mapping, none for any other node. -/
def fieldsOf (graph : Graph) (ref : NodeRef) : List (NodeRef × NodeRef) :=
  match (graph.node ref).content with
  | .mapping fields => fields
  | _ => []

/-- The tag of a node. -/
def tagOf (graph : Graph) (ref : NodeRef) : Tag := (graph.node ref).tag

/-- Give a node another tag. -/
def retag (graph : Graph) (ref : NodeRef) (tag : Tag) : Graph :=
  graph.setNode ref { graph.node ref with tag }

/-- Give a mapping other fields. -/
def setFields (graph : Graph) (ref : NodeRef) (fields : List (NodeRef × NodeRef)) : Graph :=
  graph.setNode ref { graph.node ref with content := .mapping fields }

@[simp] theorem node_add_self (graph : Graph) (node : Node) :
    (graph.add node).2.node (graph.add node).1 = node := by simp [add, Graph.node]

@[simp] theorem size_setNode (graph : Graph) (ref : NodeRef) (node : Node) :
    (graph.setNode ref node).size = graph.size := by simp [setNode, size]

end Graph

/-- A **document**: its root among nodes, and whether one of them contains itself. -/
structure Document where
  graph : Graph
  root : NodeRef
  knotted : Bool

end GuardedDispatch.Yaml
