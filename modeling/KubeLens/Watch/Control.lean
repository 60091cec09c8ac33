import KubeLens.Json.Reader
import KubeLens.Watch.Descriptor

/-!
# Control messages

What the peer of a session may ask for: to watch one object or exactly the objects of a list,
to stop watching one, and to use another context from now on.  A message is an object with its
kind under `type`, or an array that starts with its kind.
-/

namespace KubeLens
namespace Watch

/-- A control message. -/
inductive Control
  | subscribe (resource? : Option Descriptor) (resources? : Option (List Descriptor))
  | unsubscribe (resource? : Option Descriptor)
  | setContext (context : String)
  deriving DecidableEq, Repr

namespace Control

/-- The kind of a message and its other parts. -/
def split? : Json → Option (String × Json)
  | .obj members =>
    match members.filter fun member => member.1 == "type" with
    | [(_, .str tag)] => some (tag, .obj (members.filter fun member => member.1 != "type"))
    | _ => none
  | .arr (.str tag :: rest) => some (tag, .arr rest)
  | _ => none

/-- Reads a list of descriptors. -/
def descriptors? (value : Json) : Option (List Descriptor) := do
  let items ← value.asArr?
  items.mapM Descriptor.ofJson?

/-- Reads a message. -/
def ofJson? (value : Json) : Option Control := do
  let (tag, body) ← split? value
  match tag with
  | "subscribe" =>
    let record ← body.record? ["resource", "resources"]
    let resource? ← record.optional "resource" Descriptor.ofJson?
    let resources? ← record.optional "resources" descriptors?
    some (.subscribe resource? resources?)
  | "unsubscribe" =>
    let record ← body.record? ["resource"]
    let resource? ← record.optional "resource" Descriptor.ofJson?
    some (.unsubscribe resource?)
  | "setContext" =>
    let record ← body.record? ["context"]
    let context ← record.text "context"
    some (.setContext context)
  | _ => none

/-- Reads the text of a message. -/
def read? (text : String) : Option Control :=
  (Json.read? text).bind ofJson?

end Control
end Watch
end KubeLens
