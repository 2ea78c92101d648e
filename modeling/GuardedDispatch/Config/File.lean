import GuardedDispatch.Config.Blueprint
import GuardedDispatch.Yaml.Document

/-! # Configuration files

Blueprints from the content of a file. An empty document, and any value that does not count as true,
describes what an empty map does. -/

namespace GuardedDispatch

/-- The document that the content of a file holds; `path` is the name of the file. -/
def documentOfFile (path : String) (octets : List UInt8) : Except Failure Value :=
  match Yaml.readOctets octets with
  | .ok document => .ok (if document.truthy then document else .map [])
  | .error .malformed | .error .cutOff => .error (.configuration (.malformed path))
  | .error (.unsuitable cause) => .error cause

/-- The **blueprint** in the file of a path, if there is such a file. -/
def Blueprint.ofFile (settings : Settings) (registry : Registry) (path : String)
    (content : Option (List UInt8)) : Except Failure Blueprint := do
  match content with
  | none => throw (.configuration (.notFound path))
  | some octets => Blueprint.ofDocument settings registry (← documentOfFile path octets)

end GuardedDispatch
