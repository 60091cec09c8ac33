import KubeLens.Cluster.Fleet
import KubeLens.Kubeconfig.ClientConfig
import KubeLens.Remote.Link

/-!
# Connecting

A link is made for a context of a kubeconfig, or for the credentials that are mounted inside a
cluster.  Nothing is sent for it.
-/

namespace KubeLens
namespace Remote

/-- What to connect to. -/
inductive Target
  /-- The cluster around this program. -/
  | inCluster
  | context (name : String) (config : ClientConfig)

namespace Target

/-- The context of a target. -/
def name : Target → String
  | inCluster => inClusterContext
  | context name _ => name

/-- The address of a target, if the surroundings tell where this program runs: `around?` is the
address of the cluster around it. -/
def address (around? : Option String) : Target → Except ClusterError String
  | inCluster =>
    match around? with
    | some address => .ok address
    | none => .error (.config "failed to create in-cluster config: no service address is set")
  | context name config =>
    match config.server? name with
    | some address => .ok address
    | none =>
      .error (.config s!"failed to create rest config: context {name} has no server address")

/-- Makes a link to a target over a wire. -/
def connect (target : Target) (around? : Option String) (wire : Wire) :
    Except ClusterError Link :=
  (target.address around?).map fun serverUrl => { context := target.name, serverUrl, wire }

end Target
end Remote
end KubeLens
