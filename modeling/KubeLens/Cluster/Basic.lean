import KubeLens.Api.ResourceType
import KubeLens.Cluster.Feed
import KubeLens.Cluster.Selector

/-!
# Clusters in memory

A cluster knows resource types and keeps the objects of each on a shelf, in the order of their
namespaces and names.  It answers the calls of a client, records them, and can be made to fail
in several ways.  A type that it does not know cannot be listed.
-/

namespace KubeLens

/-- What an object of a type is found by. -/
structure ObjectKey where
  space : Option String
  name : String
  deriving DecidableEq, Repr

namespace ObjectKey

/-- The order of namespaces, with none in front. -/
def spaceBefore : Option String → Option String → Bool
  | none, some _ => true
  | some a, some b => decide (a < b)
  | _, none => false

/-- The order of a shelf. -/
def before (a b : ObjectKey) : Bool :=
  spaceBefore a.space b.space || (a.space == b.space && decide (a.name < b.name))

/-- The key that a document says it has. -/
def ofDocument (document : Json) : ObjectKey :=
  ⟨document.objectNamespace?, document.objectName?.getD ""⟩

end ObjectKey

/-- The objects of a type, in the order of their keys. -/
abbrev Shelf := List (ObjectKey × Json)

namespace Shelf

/-- Puts an object in its place; one with the same key is replaced. -/
def insert (key : ObjectKey) (document : Json) : Shelf → Shelf
  | [] => [(key, document)]
  | entry :: rest =>
    if entry.1 = key then (key, document) :: rest
    else if key.before entry.1 then (key, document) :: entry :: rest
    else entry :: insert key document rest

/-- The objects of a namespace, or all of them, that satisfy a selector. -/
def select (shelf : Shelf) (space selector : Option String) : List Json :=
  (shelf.filter fun entry =>
    (space.isNone || entry.1.space == space) &&
      selector.all (Selector.holds entry.2)).map (·.2)

end Shelf

/-- What a shelf is found by: the kind of a type does not count. -/
structure ShelfKey where
  group : String
  version : String
  plural : String
  deriving DecidableEq, Repr

/-- The shelf of a type. -/
def ResourceType.shelfKey (type : ResourceType) : ShelfKey :=
  ⟨type.group, type.version, type.plural⟩

/-- The calls that a client can make, apart from watches. -/
inductive Call
  | list
  | get
  | getBuiltin
  | probe
  deriving DecidableEq, Repr

/-- The calls that a cluster received, oldest first. -/
structure CallLog where
  lists : List String := []
  gets : List String := []
  builtins : List BuiltinKind := []
  probes : Nat := 0
  deriving DecidableEq, Repr

/-- A cluster. -/
structure Cluster where
  /-- The types that can be listed. -/
  types : List ShelfKey := []
  shelves : Assoc ShelfKey Shelf := []
  /-- The plurals whose lists fail, each with a message. -/
  listFailures : Assoc String String := []
  probeFailure : Option String := none
  /-- How long a probe takes. -/
  probeDelay : Nat := 0
  /-- Whether gets by type are never answered. -/
  isStalled : Bool := false
  /-- Parts of selectors that are not supported. -/
  rejectedFields : List String := []
  /-- Calls on a plural that are refused before they reach the cluster. -/
  refusals : Assoc (Call × String) ClusterError := []
  calls : CallLog := {}
  feeds : Feeds := []
  deriving Inhabited

namespace Cluster

/-- The objects of a type. -/
def shelf (cluster : Cluster) (type : ResourceType) : Shelf :=
  (cluster.shelves.get? type.shelfKey).getD []

/-- The object of a type with a key. -/
def object? (cluster : Cluster) (type : ResourceType) (key : ObjectKey) : Option Json :=
  Assoc.get? (cluster.shelf type) key

/-- Makes a type known. -/
def register (cluster : Cluster) (type : ResourceType) : Cluster :=
  if type.shelfKey ∈ cluster.types then cluster
  else { cluster with types := cluster.types ++ [type.shelfKey] }

/-- Stores an object under the key that it says it has. -/
def insert (cluster : Cluster) (type : ResourceType) (document : Json) : Cluster :=
  let cluster := cluster.register type
  { cluster with
    shelves := cluster.shelves.put type.shelfKey
      ((cluster.shelf type).insert (.ofDocument document) document) }

/-- Drops an object. -/
def remove (cluster : Cluster) (type : ResourceType) (key : ObjectKey) : Cluster :=
  match cluster.shelves.get? type.shelfKey with
  | some shelf =>
    { cluster with shelves := cluster.shelves.put type.shelfKey (Assoc.erase shelf key) }
  | none => cluster

/-- The error for an object that is not there. -/
def objectMissing (type : ResourceType) (name : String) : ClusterError :=
  .notFound (type.plural ++ " \"" ++ name ++ "\" not found")

/-- The error for a type that is not there. -/
def typeMissing : ClusterError :=
  .notFound "the server could not find the requested resource"

/-- The page that starts at the token of a query and has at most as many items as it asks
for. -/
def page (documents : List Json) (query : ListQuery) : ObjectPage :=
  let total := documents.length
  let start := query.continueToken.bind fun token => (Text.readNumeral (Nat.pow 2 64) token).toOption
  let start := min (start.getD 0) total
  let stop := (query.limit.map fun limit => min (start + limit) total).getD total
  let more := decide (stop < total)
  { items := (documents.take stop).drop start
    continueToken := if more then some (toString stop) else none
    remaining := if more then some ((total - stop : Nat) : Int) else none }

/-- The unsupported part of a selector. -/
def rejected? (cluster : Cluster) (selector : Option String) : Option String :=
  selector.bind fun text => cluster.rejectedFields.find? (Text.contains text ·)

/-- The answer to a list call. -/
def listAnswer (cluster : Cluster) (type : ResourceType) (space : Option String)
    (query : ListQuery) : Except ClusterError ObjectPage :=
  match cluster.listFailures.get? type.plural with
  | some message => .error (.api 500 message)
  | none =>
    match cluster.rejected? query.fieldSelector with
    | some field => .error (.api 400 ("field label not supported: " ++ field))
    | none =>
      if type.shelfKey ∈ cluster.types then
        .ok (page ((cluster.shelf type).select space query.fieldSelector) query)
      else .error typeMissing

/-- Lists objects of a type, in one namespace or in all. -/
def list (cluster : Cluster) (type : ResourceType) (space : Option String) (query : ListQuery) :
    Except ClusterError ObjectPage × Cluster :=
  (cluster.listAnswer type space query,
    { cluster with calls.lists := cluster.calls.lists ++ [type.plural] })

/-- The answer to a get of an object. -/
def getAnswer (cluster : Cluster) (type : ResourceType) (space : Option String) (name : String) :
    Except ClusterError Json :=
  match cluster.object? type ⟨space, name⟩ with
  | some document => .ok document
  | none => .error (objectMissing type name)

/-- Gets an object of a type; none when there is never an answer. -/
def get (cluster : Cluster) (type : ResourceType) (space : Option String) (name : String) :
    Option (Except ClusterError Json) × Cluster :=
  (if cluster.isStalled then none else some (cluster.getAnswer type space name),
    { cluster with calls.gets := cluster.calls.gets ++ [type.plural] })

/-- The answer to a get of an object of a builtin kind. -/
def builtinAnswer (cluster : Cluster) (kind : BuiltinKind) (space : Option String)
    (name : String) : Except ClusterError Json :=
  if kind.isNamespaced && space.isNone then
    .error (.invalidRequest (kind.name ++ " requires a namespace"))
  else cluster.getAnswer kind.resourceType space name

/-- Gets an object of a builtin kind. -/
def getBuiltin (cluster : Cluster) (kind : BuiltinKind) (space : Option String) (name : String) :
    Except ClusterError Json × Cluster :=
  (cluster.builtinAnswer kind space name,
    { cluster with calls.builtins := cluster.calls.builtins ++ [kind] })

/-- The answer to a probe. -/
def probeAnswer (cluster : Cluster) : Except ClusterError Unit :=
  match cluster.probeFailure with
  | some message => .error (.config message)
  | none => .ok ()

/-- Probes the cluster.  The answer comes after `probeDelay`. -/
def probe (cluster : Cluster) : Except ClusterError Unit × Cluster :=
  (cluster.probeAnswer, { cluster with calls.probes := cluster.calls.probes + 1 })

/-- Opens a feed for an object: its place, and the cluster with it. -/
def watch (cluster : Cluster) (type : ResourceType) (space : Option String) (name : String) :
    Nat × Cluster :=
  (cluster.feeds.length,
    { cluster with
      feeds := cluster.feeds ++ [{ address := Feed.addressOf type.plural space name }] })

/-- Changes the feed at a place. -/
def modifyFeed (cluster : Cluster) (place : Nat) (change : Feed → Feed) : Cluster :=
  { cluster with feeds := cluster.feeds.modify place change }

end Cluster
end KubeLens
