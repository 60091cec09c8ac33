import KubeLens.Api.GroupVersion
import KubeLens.Text.Blank
import KubeLens.Text.Elapsed

/-!
# Errors

`ClusterError` is what goes wrong between this program and a cluster, `ServiceError` what a
request is answered with when it fails.  A request fails by the caller's fault or by the
server's: `ServiceError.isClientError`.
-/

namespace KubeLens

/-- What can go wrong when a cluster is asked. -/
inductive ClusterError
  /-- The object or its type does not exist. -/
  | notFound (message : String)
  /-- The cluster answered with a status other than success. -/
  | api (code : Nat) (message : String)
  /-- No answer, or one that cannot be read. -/
  | transport
  /-- A client cannot be set up. -/
  | config (message : String)
  /-- A watch broke. -/
  | watch (message : String)
  /-- A document cannot be encoded. -/
  | encoding
  /-- The request cannot be sent. -/
  | invalidRequest (message : String)
  deriving DecidableEq, Repr

namespace ClusterError

/-- What is said about the error. -/
def message : ClusterError → String
  | notFound text => "Not found: " ++ text
  | api code text => s!"Kubernetes API error ({code}): " ++ text
  | transport => "Kubernetes client error"
  | config text => "Client configuration error: " ++ text
  | watch text => "Watch error: " ++ text
  | encoding => "Serialization error"
  | invalidRequest text => "Invalid request: " ++ text

/-- Whether the error says that an object or its type is absent. -/
def isNotFound : ClusterError → Bool
  | notFound _ => true
  | api _ text => Text.contains text "does not exist"
  | _ => false

/-- The error for a status that a cluster answered with. -/
def ofStatus (code : Nat) (text : String) : ClusterError :=
  if code = 404 then notFound text else api code text

/-- The error for an `apiVersion` that cannot be read. -/
def ofApiVersion (raw : String) (fault : ApiVersionFault) : ClusterError :=
  invalidRequest (fault.message raw)

end ClusterError

/-- What a request fails with. -/
inductive ServiceError
  | validation (message : String)
  | notFound (message : String)
  | connection (message : String)
  | protocol (message : String)
  | kubeconfig (message : String)
  /-- A call did not finish within a span of milliseconds. -/
  | timeout (span : Nat)
  | config (message : String)
  | cluster (cause : ClusterError)
  /-- The file system refused. -/
  | file
  /-- A document cannot be encoded as YAML. -/
  | yaml
  deriving DecidableEq, Repr

namespace ServiceError

/-- What is said about the error. -/
def message : ServiceError → String
  | validation text => "Validation error: " ++ text
  | notFound text => "Not found: " ++ text
  | connection text => "Connection error: " ++ text
  | protocol text => "Protocol error: " ++ text
  | kubeconfig text => "Kubeconfig error: " ++ text
  | timeout span => "Timed out after " ++ Text.elapsed span
  | config text => "Invalid configuration: " ++ text
  | cluster cause => cause.message
  | file => "IO error"
  | yaml => "YAML error"

/-- Whether the caller is at fault, and not the cluster or this program. -/
def isClientError : ServiceError → Bool
  | validation _ | notFound _ | protocol _ => true
  | cluster (.invalidRequest _) => true
  | cluster cause => cause.isNotFound
  | _ => false

/-- A field of a request is blank. -/
def fieldRequired (field : String) : ServiceError :=
  validation s!"{field} is required"

/-- No context is given and none is active. -/
def contextRequired : ServiceError :=
  validation "context parameter is required when not running in cluster"

/-- The context failed before and is not tried again. -/
def contextBarred (context : String) : ServiceError :=
  connection s!"context '{context}' has previously failed and will not be retried"

/-- A client for the context cannot be made. -/
def connectFailed (context : String) (cause : ClusterError) : ServiceError :=
  connection (s!"failed to connect to context '{context}': " ++ cause.message)

/-- The kubeconfig has no such context. -/
def contextUnknown (context : String) : ServiceError :=
  notFound s!"context '{context}' not found in kubeconfig"

/-- There is no such context to remove. -/
def contextAbsent (context : String) : ServiceError :=
  notFound s!"context '{context}' not found"

/-- Contexts are fixed when running inside a cluster. -/
def contextsFixed (verb : String) : ServiceError :=
  validation s!"cannot {verb} contexts in in-cluster mode"

/-- There is no kubeconfig file. -/
def kubeconfigMissing (path : String) : ServiceError :=
  kubeconfig s!"kubeconfig file not found at {path}"

/-- The kubeconfig text is not a kubeconfig document. -/
def kubeconfigUnreadable : ServiceError :=
  kubeconfig "failed to parse kubeconfig"

/-- The kubeconfig document does not describe clients. -/
def kubeconfigInvalid : ServiceError :=
  kubeconfig "invalid kubeconfig"

/-- There is no object with this name. -/
def objectAbsent (kind name : String) : Option String → ServiceError
  | some space => notFound s!"{kind} '{name}' not found in namespace '{space}'"
  | none => notFound s!"{kind} '{name}' not found"

/-- An `apiVersion` that cannot be read. -/
def ofApiVersion (raw : String) (fault : ApiVersionFault) : ServiceError :=
  validation (fault.message raw)

end ServiceError
end KubeLens
