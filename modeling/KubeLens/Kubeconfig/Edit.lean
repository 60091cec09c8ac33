import KubeLens.Kubeconfig.Basic

/-!
# Adding and removing contexts

`merge` adds what is new by name in another document.  `removeContext` drops a context, and
with it the cluster and the user that only it referred to.
-/

namespace KubeLens
namespace Kubeconfig

/-- The entries whose names are neither stored nor on an earlier incoming entry. -/
def newEntries (stored : List Entry) : List Entry → List Entry
  | [] => []
  | entry :: rest =>
    if stored.any (·.name == entry.name) then newEntries stored rest
    else entry :: newEntries (stored ++ [entry]) rest

/-- The document with the entries of another one whose names are new. -/
def merge (document incoming : Kubeconfig) : Kubeconfig :=
  { document with
    contexts := document.contexts ++ newEntries document.contexts incoming.contexts
    clusters := document.clusters ++ newEntries document.clusters incoming.clusters
    users := document.users ++ newEntries document.users incoming.users }

/-- The names of the contexts that `merge` adds. -/
def addedContexts (document incoming : Kubeconfig) : List String :=
  (newEntries document.contexts incoming.contexts).map (·.name)

/-- The entries that are left when the context that referred to `name` is gone: `name` stays
only if another context refers to it. -/
def dropUnreferenced (reference : Entry → Option String) (contexts : List Entry)
    (name : Option String) (entries : List Entry) : List Entry :=
  match name with
  | none => entries
  | some name =>
    if contexts.any fun context => reference context == some name then entries
    else entries.filter (·.name != name)

/-- The document without the first context of this name, if there is one.  When it was the
current context, the first one left takes its place. -/
def removeContext (document : Kubeconfig) (name : String) : Option Kubeconfig :=
  (document.context? name).map fun removed =>
    let contexts := document.contexts.eraseP (·.name == name)
    { document with
      contexts
      current :=
        if document.current = some name then contexts.head?.map (·.name) else document.current
      clusters := dropUnreferenced Entry.cluster? contexts removed.cluster? document.clusters
      users := dropUnreferenced Entry.user? contexts removed.user? document.users }

end Kubeconfig
end KubeLens
