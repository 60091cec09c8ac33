import KubeLens.Assoc
import KubeLens.Yaml.Value

/-!
# Kubeconfig documents

A kubeconfig document lists clusters, users and contexts by name; a context refers to a cluster
and a user.  Only names, references and the current context have a meaning here.  Everything
else is kept as it is.
-/

namespace KubeLens

/-- A named entry of one of the lists. -/
structure Entry where
  name : String
  /-- Everything but the name. -/
  body : Assoc String Yaml.Value := []
  deriving Inhabited

namespace Entry

/-- The non-empty string under a field of a section of the body. -/
def reference? (entry : Entry) (part field : String) : Option String := do
  let inner ← entry.body.get? part
  let text ← (← inner.member? field).asStr?
  if text.isEmpty then none else some text

/-- The name of the cluster that a context refers to. -/
def cluster? (context : Entry) : Option String :=
  context.reference? "context" "cluster"

/-- The name of the user that a context refers to. -/
def user? (context : Entry) : Option String :=
  context.reference? "context" "user"

end Entry

/-- A kubeconfig document. -/
structure Kubeconfig where
  clusters : List Entry := []
  contexts : List Entry := []
  users : List Entry := []
  /-- The context that the document proposes. -/
  current : Option String := none
  /-- The other parts of the document. -/
  extra : Assoc String Yaml.Value := []
  deriving Inhabited

namespace Kubeconfig

/-- The document without entries. -/
def blank : Kubeconfig :=
  { extra := [("apiVersion", .str "v1"), ("kind", .str "Config")] }

/-- The names of the contexts in order. -/
def contextNames (document : Kubeconfig) : List String :=
  document.contexts.map (·.name)

/-- The first context with a name. -/
def context? (document : Kubeconfig) (name : String) : Option Entry :=
  document.contexts.find? (·.name == name)

/-- Whether there is a context with a name. -/
def hasContext (document : Kubeconfig) (name : String) : Bool :=
  document.contexts.any (·.name == name)

/-- The name of the cluster that a context refers to. -/
def contextCluster? (document : Kubeconfig) (name : String) : Option String :=
  (document.context? name).bind Entry.cluster?

/-- The name of the user that a context refers to. -/
def contextUser? (document : Kubeconfig) (name : String) : Option String :=
  (document.context? name).bind Entry.user?

/-- The first cluster entry with a name. -/
def cluster? (document : Kubeconfig) (name : String) : Option Entry :=
  document.clusters.find? (·.name == name)

/-- The first user entry with a name. -/
def user? (document : Kubeconfig) (name : String) : Option Entry :=
  document.users.find? (·.name == name)

/-- What is read when the document is stored and loaded again: an empty current context is
none. -/
def reread (document : Kubeconfig) : Kubeconfig :=
  { document with current := document.current.filter (!·.isEmpty) }

end Kubeconfig
end KubeLens
