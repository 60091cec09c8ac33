import KubeLens.Api.Page
import KubeLens.Api.ResourceType
import KubeLens.Remote.Metadata

/-!
# Objects and lists

What is kept of the objects and lists that a cluster answers with.  An object of any type keeps
everything but the unknown parts of its metadata; an object of a kind with a form of its own keeps
what belongs to this form.
-/

namespace KubeLens
namespace Remote

/-- The members that name the type of an object. -/
def headingKeys : List String :=
  ["apiVersion", "kind"]

/-- Takes the heading out of the members of an object: its texts, unless one of them is not a
text or occurs again, and the members that are left over. -/
def takeHeading (found : Assoc String String) :
    List (String × Json) → Option (Assoc String String) × List (String × Json)
  | [] => (some found, [])
  | (key, value) :: rest =>
    if headingKeys.contains key then
      match value, found.get? key with
      | .str text, none => takeHeading (found.put key text) rest
      | _, _ => (none, rest)
    else
      let (heading, left) := takeHeading found rest
      (heading, (key, value) :: left)

/-- The members of a heading, if it is whole. -/
def headingMembers (heading : Option (Assoc String String)) : List (String × Json) :=
  match heading with
  | none => []
  | some found =>
    if headingKeys.all found.has then
      headingKeys.map fun key => (key, .str ((found.get? key).getD ""))
    else []

/-- The value of a member that occurs at most once: none when it occurs again. -/
def single? (members : Assoc String Json) (key : String) : Option (Option Json) :=
  match members.filter (·.1 == key) with
  | [] => some none
  | [member] => some (some member.2)
  | _ => none

/-- The metadata in the members of an object or a list. -/
def metadata? (type : Typed) (members : Assoc String Json) : Option Json := do
  match ← single? members "metadata" with
  | none => some (.obj [])
  | some value => type value

/-- Objects of any type. -/
def anyObject : Typed
  | .obj members => do
    let metadata ← metadata? Metadata.ofObject members
    let (heading, rest) := takeHeading [] (members.filter (·.1 != "metadata"))
    let rest := Json.lastWins (Json.normalizeMembers rest)
    some (.obj (headingMembers heading ++ ("metadata", metadata) :: rest))
  | _ => none

mutual

/-- A part of an object without the members that are null. -/
def withoutNulls : Json → Json
  | .obj members => .obj (withoutNullMembers members)
  | .arr items => .arr (withoutNullsAll items)
  | value => value

/-- `withoutNulls` on the items of an array. -/
def withoutNullsAll : List Json → List Json
  | [] => []
  | item :: rest => withoutNulls item :: withoutNullsAll rest

/-- `withoutNulls` on the values of members. -/
def withoutNullMembers : List (String × Json) → List (String × Json)
  | [] => []
  | (_, .null) :: rest => withoutNullMembers rest
  | (key, value) :: rest => (key, withoutNulls value) :: withoutNullMembers rest

end

/-- Parts of an object. -/
def part : Typed
  | .obj members => some (withoutNulls (Json.normalize (.obj members)))
  | _ => none

/-- A kind whose objects have a form of their own. -/
structure TypedKind where
  /-- Where the objects are kept, and what they say they are. -/
  type : ResourceType
  /-- What an object has besides its heading and its metadata. -/
  parts : List Typed.Member

namespace TypedKind

/-- A kind whose objects have a specification and a status. -/
def specified (type : ResourceType) : TypedKind :=
  { type, parts := [{ key := "spec", type := part }, { key := "status", type := part }] }

/-- The kinds that can be fetched in their own form. -/
def pod : TypedKind := .specified ⟨"", "v1", "Pod", "pods"⟩

@[inherit_doc pod]
def service : TypedKind := .specified ⟨"", "v1", "Service", "services"⟩

@[inherit_doc pod]
def configMap : TypedKind where
  type := ⟨"", "v1", "ConfigMap", "configmaps"⟩
  parts :=
    [{ key := "binaryData", type := .dictOf .octets }, { key := "data", type := .dictOf .text },
      { key := "immutable", type := .flag }]

@[inherit_doc pod]
def secret : TypedKind where
  type := ⟨"", "v1", "Secret", "secrets"⟩
  parts :=
    [{ key := "data", type := .dictOf .octets }, { key := "immutable", type := .flag },
      { key := "stringData", type := .dictOf .text }, { key := "type", type := .text }]

@[inherit_doc pod]
def namespaceObject : TypedKind := .specified ⟨"", "v1", "Namespace", "namespaces"⟩

@[inherit_doc pod]
def node : TypedKind := .specified ⟨"", "v1", "Node", "nodes"⟩

@[inherit_doc pod]
def persistentVolume : TypedKind :=
  .specified ⟨"", "v1", "PersistentVolume", "persistentvolumes"⟩

@[inherit_doc pod]
def deployment : TypedKind := .specified ⟨"apps", "v1", "Deployment", "deployments"⟩

@[inherit_doc pod]
def statefulSet : TypedKind := .specified ⟨"apps", "v1", "StatefulSet", "statefulsets"⟩

@[inherit_doc pod]
def daemonSet : TypedKind := .specified ⟨"apps", "v1", "DaemonSet", "daemonsets"⟩

@[inherit_doc pod]
def replicaSet : TypedKind := .specified ⟨"apps", "v1", "ReplicaSet", "replicasets"⟩

/-- Objects of a kind: one that names another type does not belong to it. -/
def object (kind : TypedKind) : Typed
  | .obj members => do
    let heading := [("apiVersion", Json.str kind.type.apiVersion), ("kind", .str kind.type.kind)]
    let agrees (member : String × Json) : Bool :=
      match Assoc.get? heading member.1 with
      | some (.str expected) => member.2.asStr? == some expected
      | _ => true
    let metadata : Typed.Member :=
      { key := "metadata", type := Metadata.ofObject, default? := some (.obj []) }
    match Typed.record (metadata :: kind.parts) (.obj members) with
    | some (.obj kept) => if members.all agrees then some (.obj (heading ++ kept)) else none
    | _ => none
  | _ => none

end TypedKind

/-- A list as a cluster answers it. -/
structure ListReply where
  items : List Json
  /-- The state of the cluster that the list shows. -/
  version? : Option String
  continueToken? : Option String
  remaining? : Option Int

namespace ListReply

/-- Reads a list of objects of a type.  The items must be there, but may be null. -/
def ofJson? (type : Typed) (body : Json) : Option ListReply := do
  let members ← body.asObj?
  let metadata ← metadata? Metadata.ofList members
  let items ←
    match ← single? members "items" with
    | some .null => some []
    | some (.arr items) => items.mapM type
    | _ => none
  let filled (key : String) : Option String :=
    (metadata.memberStr? key).filter (!·.isEmpty)
  let remaining? :=
    match metadata.member? "remainingItemCount" with
    | some (.int count) => some count
    | _ => none
  some
    { items, version? := filled "resourceVersion", continueToken? := filled "continue"
      remaining? }

/-- The page that a list is for its reader. -/
def page (reply : ListReply) : ObjectPage :=
  { items := reply.items, continueToken := reply.continueToken?, remaining := reply.remaining? }

end ListReply
end Remote
end KubeLens
