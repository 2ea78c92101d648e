import GuardedDispatch.Yaml.Node.Parser
import GuardedDispatch.Yaml.Object

/-! # Documents

Reading a document from a text or from octets. A text without a document has the absent value.

The objects of a document are unfolded to a value from the root on (`Unfolding.value`). A list or
map that contains itself becomes a knot, whose label is the place of its node. What is outside all
knots is unfolded once, however often it is referred to. -/

namespace GuardedDispatch.Yaml

/-- Objects to **unfold**, and which of them contain themselves. -/
structure Unfolding where
  objects : Array (Option Object)
  knots : Array Bool

namespace Unfolding

/-- The object at a place. -/
def object (unfolding : Unfolding) (ref : NodeRef) : Object :=
  (unfolding.objects[ref]?.join).getD default

/-- Mark all that some places lead to, at most `fuel` places further. -/
def mark (below : NodeRef → List NodeRef) : Nat → List NodeRef → List NodeRef → List NodeRef
  | 0, marked, _ => marked
  | _, marked, [] => marked
  | fuel + 1, marked, ref :: work =>
    let fresh := ((below ref).filter fun next => !marked.contains next).eraseDups
    mark below fuel (fresh ++ marked) (fresh ++ work)

/-- Whether an object contains itself. -/
def isKnot (objects : Array (Option Object)) (ref : NodeRef) : Bool :=
  let below := fun ref => ((objects[ref]?.join).map Object.parts).getD []
  !(below ref).isEmpty && (mark below (objects.size + 1) [] [ref]).contains ref

/-- The objects of a document, with their knots marked. -/
def ofObjects (objects : Array (Option Object)) (knotted : Bool) : Unfolding :=
  ⟨objects, if knotted then .ofFn fun i : Fin objects.size => isKnot objects i else #[]⟩

/-- Values that were unfolded outside all knots, by place. -/
abbrev Unfolded := Array (Option Value)

/-- The **value** of the object at a place inside some knots, at most `fuel` objects deep. -/
def value (unfolding : Unfolding) : Nat → List NodeRef → NodeRef → StateM Unfolded Value
  | 0, _, _ => return .null
  | fuel + 1, around, ref => do
    match (← get)[ref]?.join with
    | some v => return v
    | none =>
      let object := unfolding.object ref
      if around.contains ref then return .again ref object.isMap
      let knotted := unfolding.knots[ref]?.getD false
      let part := value unfolding fuel (if knotted then ref :: around else around)
      let body ← match object with
        | .plain v => pure v
        | .list items => Value.list <$> items.mapM part
        | .pairs items => Value.list <$> items.mapM fun item => do
          let first ← part item.1
          let second ← part item.2
          return .tuple [first, second]
        | .map fields => Value.map <$> fields.mapM fun field => do
          return (field.1, ← part field.2)
      let v := if knotted then .knot ref body else body
      if around.isEmpty then modify fun unfolded => unfolded.setIfInBounds ref (some v)
      return v

end Unfolding

/-- The **value** of a document. -/
def Document.value (document : Document) : Reading Value := do
  let objects ← document.objects
  let unfolding := Unfolding.ofObjects objects document.knotted
  let unfold := unfolding.value (objects.size + 1) [] document.root
  return (Id.run (unfold.run (.replicate objects.size none))).1

/-- The value of the document that a source spells. -/
def readSource (source : Source) : Reading Value := do
  match ← readDocument source with
  | none => return .null
  | some document => document.value

/-- The value of the document that a **text** spells. -/
def read (text : String) : Reading Value := readSource (.ofText text)

/-- The value of the document that **octets** spell in UTF-8. -/
def readOctets (octets : List UInt8) : Reading Value := readSource (.ofOctets octets)

end GuardedDispatch.Yaml
