import KubeLens.Api.ResourceType
import KubeLens.Remote.Status
import KubeLens.Text.Address
import KubeLens.Text.FormQuery

/-!
# The wire

Requests to a cluster and the replies to them.  A wire holds the replies that are still to come
and the requests that were sent; a request that finds no reply left is sent and never answered.
-/

namespace KubeLens
namespace Remote

/-- A request to read. -/
structure Request where
  path : String
  query : List (String × String) := []
  deriving DecidableEq, Repr

/-- The path under which the objects of a type are listed. -/
def collectionPath (type : ResourceType) (space : Option String) : String :=
  let root := if type.group.isEmpty then "/api/" else "/apis/"
  let place := (space.map fun space => "namespaces/" ++ space ++ "/").getD ""
  root ++ type.apiVersion ++ "/" ++ place ++ type.plural

/-- The path of an object; there is none without a name. -/
def objectPath? (type : ResourceType) (space : Option String) (name : String) : Option String :=
  if name.isEmpty then none else some (collectionPath type space ++ "/" ++ name)

namespace Request

/-- The request for a path with a query.  A question mark in the path starts the query early,
a number sign ends the request there.  None when a character may not stand in a request. -/
def ofPath? (path : String) (query : List (String × String)) : Option Request :=
  let cs := path.toList
  let (front, early?) := Text.splitPath cs
  if Text.isPathText cs then
    some
      { path := String.ofList front
        query := ((early?.map fun early => Text.formPairs (String.ofList early)).getD []) ++
          if cs.contains '#' then [] else query }
  else none

/-- The request for an object. -/
def get? (type : ResourceType) (space : Option String) (name : String) : Option Request :=
  (objectPath? type space name).bind (ofPath? · [])

end Request

/-- A reply to a request. -/
structure Reply where
  status : Nat
  body : String
  deriving DecidableEq, Repr

namespace Reply

/-- Whether a reply is a refusal. -/
def isRefusal (reply : Reply) : Bool :=
  400 ≤ reply.status

/-- Reads a reply.  A refusal is read as a status. -/
def decode {α : Type} (reply : Reply) (read : Json → Option α) : Except ClusterError α :=
  if reply.isRefusal then .error (Status.ofReply reply.status reply.body).toError
  else
    match (Json.read? reply.body).bind read with
    | some answer => .ok answer
    | none => .error .transport

end Reply

/-- A connection that carries requests and replies. -/
structure Wire where
  /-- The replies that are still to come. -/
  replies : List Reply
  /-- The requests that were sent, oldest first. -/
  sent : List Request := []
  deriving DecidableEq, Repr

namespace Wire

/-- Sends a request: its reply, if there ever is one. -/
def send (wire : Wire) (request : Request) : Option Reply × Wire :=
  (wire.replies.head?, { replies := wire.replies.tail, sent := wire.sent ++ [request] })

/-- Sends a request and reads the reply; none when there is never one.  A request that cannot be
written is an error, and nothing is sent. -/
def exchange {α : Type} (wire : Wire) (request? : Option Request) (read : Json → Option α) :
    Option (Except ClusterError α) × Wire :=
  match request? with
  | none => (some (.error .transport), wire)
  | some request =>
    let (reply?, wire) := wire.send request
    (reply?.map fun reply => reply.decode read, wire)

end Wire
end Remote
end KubeLens
