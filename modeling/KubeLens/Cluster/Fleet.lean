import KubeLens.Cluster.Basic

/-!
# Fleets of clusters

A fleet holds one cluster for each context.  A client belongs to one of them; all its calls go
to that cluster.  Connecting gives a client and sends nothing; it can be made to fail for a
context.
-/

namespace KubeLens

/-- The context of the credentials that are mounted inside a cluster. -/
def inClusterContext : String := "in-cluster"

/-- A client of one cluster. -/
structure Client where
  context : String
  /-- Whether refusals do not apply to its calls. -/
  direct : Bool := false
  deriving DecidableEq, Repr

/-- The clusters of all contexts. -/
structure Fleet where
  clusters : Assoc String Cluster := []
  /-- The contexts that cannot be connected to. -/
  unreachable : List String := []
  /-- The contexts that were connected to, oldest first. -/
  connects : List String := []
  deriving Inhabited

namespace Fleet

/-- The cluster of a context; it is empty until something is put there. -/
def cluster (fleet : Fleet) (context : String) : Cluster :=
  (fleet.clusters.get? context).getD {}

/-- Replaces the cluster of a context. -/
def put (fleet : Fleet) (context : String) (cluster : Cluster) : Fleet :=
  { fleet with clusters := fleet.clusters.put context cluster }

/-- Changes the cluster of a context. -/
def modify (fleet : Fleet) (context : String) (change : Cluster → Cluster) : Fleet :=
  fleet.put context (change (fleet.cluster context))

/-- Connects to a context. -/
def connect (fleet : Fleet) (context : String) : Except ClusterError Client × Fleet :=
  (if context ∈ fleet.unreachable then
      .error (.config s!"failed to create rest config: context {context} is unreachable")
    else .ok { context },
    { fleet with connects := fleet.connects ++ [context] })

@[simp] theorem cluster_put_self (fleet : Fleet) (context : String) (cluster : Cluster) :
    (fleet.put context cluster).cluster context = cluster := by
  simp [Fleet.cluster, put]

theorem cluster_put_of_ne (fleet : Fleet) {context other : String} (cluster : Cluster)
    (ne : context ≠ other) : (fleet.put context cluster).cluster other = fleet.cluster other := by
  simp [Fleet.cluster, put, Assoc.get?_put_of_ne _ _ ne]

end Fleet

namespace Client

/-- The cluster of a client. -/
def cluster (client : Client) (fleet : Fleet) : Cluster :=
  fleet.cluster client.context

/-- The error that a call is refused with. -/
def refusal? (client : Client) (fleet : Fleet) (call : Call) (plural : String) :
    Option ClusterError :=
  if client.direct then none else (client.cluster fleet).refusals.get? (call, plural)

/-- Lists objects of a type. -/
def list (client : Client) (fleet : Fleet) (type : ResourceType) (space : Option String)
    (query : ListQuery) : Except ClusterError ObjectPage × Fleet :=
  match client.refusal? fleet .list type.plural with
  | some error => (.error error, fleet)
  | none =>
    let (answer, cluster) := (client.cluster fleet).list type space query
    (answer, fleet.put client.context cluster)

/-- Gets an object of a type; none when there is never an answer. -/
def get (client : Client) (fleet : Fleet) (type : ResourceType) (space : Option String)
    (name : String) : Option (Except ClusterError Json) × Fleet :=
  match client.refusal? fleet .get type.plural with
  | some error => (some (.error error), fleet)
  | none =>
    let (answer, cluster) := (client.cluster fleet).get type space name
    (answer, fleet.put client.context cluster)

/-- Gets an object of a builtin kind. -/
def getBuiltin (client : Client) (fleet : Fleet) (kind : BuiltinKind) (space : Option String)
    (name : String) : Except ClusterError Json × Fleet :=
  match client.refusal? fleet .getBuiltin kind.resourceType.plural with
  | some error => (.error error, fleet)
  | none =>
    let (answer, cluster) := (client.cluster fleet).getBuiltin kind space name
    (answer, fleet.put client.context cluster)

/-- Probes the cluster: the answer, and how long it takes. -/
def probe (client : Client) (fleet : Fleet) : (Except ClusterError Unit × Nat) × Fleet :=
  match client.refusal? fleet .probe "" with
  | some error => ((.error error, 0), fleet)
  | none =>
    let delay := (client.cluster fleet).probeDelay
    let (answer, cluster) := (client.cluster fleet).probe
    ((answer, delay), fleet.put client.context cluster)

/-- Opens a feed for an object: its place in the cluster. -/
def watch (client : Client) (fleet : Fleet) (type : ResourceType) (space : Option String)
    (name : String) : Nat × Fleet :=
  let (place, cluster) := (client.cluster fleet).watch type space name
  (place, fleet.put client.context cluster)

end Client
end KubeLens
