import GuardedDispatch.Yaml.Cursor
import GuardedDispatch.Yaml.Node

/-! # Merge keys

A mapping takes over the fields of the mappings under its merge keys, in front of its own
(`Graph.flatten`). These mappings are flattened first, and a mapping may even be under a merge key
of its own: each merge key is removed before what stands under it is looked at, so that there are
fewer of them at each step. -/

namespace GuardedDispatch.Yaml

/-- Fields of a mapping, by places. -/
abbrev NodeFields := List (NodeRef × NodeRef)

namespace Graph

/-- What stands under the first merge key of some fields, and the fields without it. -/
def takeMerge? (graph : Graph) : NodeFields → Option (NodeRef × NodeFields)
  | [] => none
  | (key, value) :: rest =>
    if graph.tagOf key = .merge then some (value, rest)
    else (graph.takeMerge? rest).map fun (source, fields) => (source, (key, value) :: fields)

/-- How many merge keys some fields have. -/
def mergesIn (graph : Graph) (fields : NodeFields) : Nat :=
  (fields.filter fun field => graph.tagOf field.1 = .merge).length

/-- How many merge keys there are. -/
def mergeCount (graph : Graph) : Nat :=
  graph.nodes.toList.foldl (fun count node =>
    match node.content with
    | .mapping fields => count + graph.mergesIn fields
    | _ => count) 0

/-- A graph in which the keys that stand for a mapping are texts, as far as they are among some
fields. -/
def spellKeys (graph : Graph) (fields : NodeFields) : Graph :=
  fields.foldl (fun graph (key, _) =>
    if graph.tagOf key = .value then graph.retag key .str else graph) graph

mutual

/-- Flatten a mapping that has taken over some fields before. -/
def flattenFrom : Nat → NodeFields → NodeRef → StateT Graph Reading Unit
  | 0, _, _ => return ()
  | fuel + 1, taken, ref => do
    let graph ← get
    match graph.takeMerge? (graph.fieldsOf ref) with
    | none =>
      let fields := graph.fieldsOf ref
      set ((graph.spellKeys fields).setFields ref (taken ++ fields))
    | some (source, fields) =>
      set (graph.setFields ref fields)
      let more ← match (graph.node source).content with
        | .mapping _ => flattened fuel source
        | .sequence items => do pure (← items.mapM (flattened fuel)).reverse.flatten
        | _ => throw .malformed
      flattenFrom fuel (taken ++ more) ref

/-- The fields of a mapping that was flattened. -/
def flattened : Nat → NodeRef → StateT Graph Reading NodeFields
  | 0, _ => return []
  | fuel + 1, ref => do
    match ((← get).node ref).content with
    | .mapping _ =>
      flattenFrom fuel [] ref
      return (← get).fieldsOf ref
    | _ => throw .malformed

end

/-- **Flatten** a mapping; any other node stays as it is. -/
def flatten (ref : NodeRef) : StateT Graph Reading Unit := do
  let graph ← get
  match (graph.node ref).content with
  | .mapping _ => flattenFrom (2 * graph.mergeCount + 2) [] ref
  | _ => return ()

end Graph

end GuardedDispatch.Yaml
