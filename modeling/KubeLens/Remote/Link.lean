import KubeLens.Remote.Object
import KubeLens.Remote.Wire

/-!
# Links

A link is a client of a cluster that is reached over a wire.
-/

namespace KubeLens
namespace Remote

/-- A client of a remote cluster. -/
structure Link where
  context : String
  serverUrl : String
  wire : Wire

/-- The parameters of a list request; an empty token is left out. -/
def listParameters (query : ListQuery) : List (String × String) :=
  (query.fieldSelector.map ("fieldSelector", ·)).toList ++
    (query.limit.map fun limit => ("limit", toString limit)).toList ++
    ((query.continueToken.filter (!·.isEmpty)).map ("continue", ·)).toList

namespace Link

/-- Sends a request over the wire of a link. -/
def exchange {α : Type} (link : Link) (request? : Option Request) (read : Json → Option α) :
    Option (Except ClusterError α) × Link :=
  let (answer, wire) := link.wire.exchange request? read
  (answer, { link with wire })

/-- Lists objects of a type. -/
def list (link : Link) (type : ResourceType) (space : Option String) (query : ListQuery) :
    Option (Except ClusterError ObjectPage) × Link :=
  link.exchange (Request.ofPath? (collectionPath type space) (listParameters query))
    fun body => (ListReply.ofJson? anyObject body).map ListReply.page

/-- Gets an object of a type. -/
def get (link : Link) (type : ResourceType) (space : Option String) (name : String) :
    Option (Except ClusterError Json) × Link :=
  link.exchange (Request.get? type space name) anyObject

/-- Gets an object of a kind whose objects live in namespaces: the namespace must be given. -/
def getNamespaced (link : Link) (kind : TypedKind) (space : Option String) (name : String) :
    Option (Except ClusterError Json) × Link :=
  match space with
  | none => (some (.error (.invalidRequest (kind.type.kind ++ " requires a namespace"))), link)
  | some space => link.exchange (Request.get? kind.type (some space) name) kind.object

/-- Gets an object of a kind whose objects live in no namespace. -/
def getClusterScoped (link : Link) (kind : TypedKind) (name : String) :
    Option (Except ClusterError Json) × Link :=
  link.exchange (Request.get? kind.type none name) kind.object

/-- Gets an object of a builtin kind in its own form. -/
def getBuiltin (link : Link) (kind : BuiltinKind) (space : Option String) (name : String) :
    Option (Except ClusterError Json) × Link :=
  match kind with
  | .pod => link.getNamespaced .pod space name
  | .service => link.getNamespaced .service space name
  | .configMap => link.getNamespaced .configMap space name
  | .secret => link.getNamespaced .secret space name
  | .deployment => link.getNamespaced .deployment space name
  | .statefulSet => link.getNamespaced .statefulSet space name
  | .daemonSet => link.getNamespaced .daemonSet space name
  | .replicaSet => link.getNamespaced .replicaSet space name
  | .namespaceObject => link.getClusterScoped .namespaceObject name
  | .node => link.getClusterScoped .node name
  | .persistentVolume => link.getClusterScoped .persistentVolume name

/-- Probes the cluster by a list of at most one namespace. -/
def probe (link : Link) : Option (Except ClusterError Unit) × Link :=
  let kind := TypedKind.namespaceObject
  link.exchange
    (Request.ofPath? (collectionPath kind.type none) (listParameters { limit := some 1 }))
    fun body => (ListReply.ofJson? kind.object body).map fun _ => ()

end Link
end Remote
end KubeLens
