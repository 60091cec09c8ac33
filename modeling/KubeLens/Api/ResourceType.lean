import KubeLens.Api.GroupVersion

/-!
# Resource types

A resource type is what a cluster serves lists and objects of: a kind in a group and version,
addressed by its plural name.  `BuiltinKind` lists the kinds that every cluster serves and that
can be fetched without discovery; what such a kind is looked up by and where its objects are kept
stand in tables of their own.
-/

namespace KubeLens

/-- The address of a resource type. -/
structure ResourceType where
  group : String
  version : String
  kind : String
  plural : String
  deriving DecidableEq, Repr

namespace ResourceType

/-- A kind of a group and version. -/
def ofGroupVersion (gv : GroupVersion) (kind plural : String) : ResourceType :=
  ⟨gv.group, gv.version, kind, plural⟩

/-- A kind of the first version of the core group. -/
def core (kind plural : String) : ResourceType :=
  ⟨"", "v1", kind, plural⟩

/-- Definitions of custom resource types. -/
def customResourceDefinitions : ResourceType :=
  ⟨"apiextensions.k8s.io", "v1", "CustomResourceDefinition", "customresourcedefinitions"⟩

/-- Events about other objects. -/
def events : ResourceType :=
  core "Event" "events"

/-- The group and version. -/
def groupVersion (type : ResourceType) : GroupVersion :=
  ⟨type.group, type.version⟩

/-- The `apiVersion` of the type's objects. -/
def apiVersion (type : ResourceType) : String :=
  type.groupVersion.apiVersion

/-- A type in a message. -/
def describe (type : ResourceType) : String :=
  type.apiVersion ++ "/" ++ type.kind ++ " (" ++ type.plural ++ ")"

end ResourceType

/-- The kinds that are fetched by their own path. -/
inductive BuiltinKind
  | pod
  | service
  | configMap
  | secret
  | namespaceObject
  | node
  | persistentVolume
  | deployment
  | statefulSet
  | daemonSet
  | replicaSet
  deriving DecidableEq, Repr

namespace BuiltinKind

/-- The name of a builtin kind in reports. -/
def name : BuiltinKind → String
  | pod => "Pod"
  | service => "Service"
  | configMap => "ConfigMap"
  | secret => "Secret"
  | namespaceObject => "Namespace"
  | node => "Node"
  | persistentVolume => "PersistentVolume"
  | deployment => "Deployment"
  | statefulSet => "StatefulSet"
  | daemonSet => "DaemonSet"
  | replicaSet => "ReplicaSet"

/-- The resource type of a builtin kind. -/
def resourceType : BuiltinKind → ResourceType
  | pod => .core "Pod" "pods"
  | service => .core "Service" "services"
  | configMap => .core "ConfigMap" "configmaps"
  | secret => .core "Secret" "secrets"
  | namespaceObject => .core "Namespace" "namespaces"
  | node => .core "Node" "nodes"
  | persistentVolume => .core "PersistentVolume" "persistentvolumes"
  | deployment => ⟨"apps", "v1", "Deployment", "deployments"⟩
  | statefulSet => ⟨"apps", "v1", "StatefulSet", "statefulsets"⟩
  | daemonSet => ⟨"apps", "v1", "DaemonSet", "daemonsets"⟩
  | replicaSet => ⟨"apps", "v1", "ReplicaSet", "replicasets"⟩

/-- Whether objects of the kind live in a namespace. -/
def isNamespaced : BuiltinKind → Bool
  | namespaceObject | node | persistentVolume => false
  | _ => true

/-- The builtin kind with this `apiVersion` and name, as written. -/
def named? (apiVersion kind : String) : Option BuiltinKind :=
  match apiVersion, kind with
  | "v1", "Pod" => some pod
  | "v1", "Service" => some service
  | "v1", "ConfigMap" => some configMap
  | "v1", "Secret" => some secret
  | "v1", "Namespace" => some namespaceObject
  | "v1", "Node" => some node
  | "v1", "PersistentVolume" => some persistentVolume
  | "apps/v1", "Deployment" => some deployment
  | "apps/v1", "StatefulSet" => some statefulSet
  | "apps/v1", "DaemonSet" => some daemonSet
  | "apps/v1", "ReplicaSet" => some replicaSet
  | _, _ => none

/-- The builtin kind that can be fetched for an object with or without a namespace.  A namespaced
kind is found only when a namespace is given, and any other kind only when none is. -/
def lookup (apiVersion kind : String) (namespaced : Bool) : Option BuiltinKind :=
  (named? apiVersion kind).filter fun builtin => builtin.isNamespaced == namespaced

end BuiltinKind
end KubeLens
