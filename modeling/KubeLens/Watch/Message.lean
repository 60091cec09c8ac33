import KubeLens.Json.Basic

/-!
# Messages of a watch

What a session sends to its peer: the document of an object that is new or changed, the stub of
an object that is gone, or an error.
-/

namespace KubeLens
namespace Watch

/-- A message to the peer of a session. -/
inductive Message
  | updated (resource : Json)
  | deleted (resource : Json)
  | error (text : String)
  deriving Inhabited

/-- What happened to a watched object. -/
inductive Change
  /-- Its first state that the watch sees. -/
  | added (document : Json)
  | updated (document : Json)
  | deleted (stub : Json)
  deriving Inhabited

/-- The message about a change; a first state is told like any other. -/
def Change.message : Change → Message
  | added document | updated document => .updated document
  | deleted stub => .deleted stub

/-- A message as JSON. -/
def Message.toJson : Message → Json
  | updated resource => .obj [("type", .str "updated"), ("resource", resource)]
  | deleted resource => .obj [("type", .str "deleted"), ("resource", resource)]
  | error text => .obj [("type", .str "error"), ("error", .str text)]

end Watch
end KubeLens
