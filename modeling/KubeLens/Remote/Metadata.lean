import KubeLens.Remote.Typed

/-!
# Metadata

The types of the `metadata` of objects and of lists.
-/

namespace KubeLens
namespace Remote
namespace Metadata

open Typed

/-- Who changed an object. -/
def managedFields : Typed :=
  record
    [{ key := "apiVersion", type := text }, { key := "fieldsType", type := text },
      { key := "fieldsV1", type := any }, { key := "manager", type := text },
      { key := "operation", type := text }, { key := "subresource", type := text },
      { key := "time", type := time }]

/-- An object that owns another. -/
def ownerReference : Typed :=
  record
    [{ key := "apiVersion", type := text, default? := some (.str "") },
      { key := "blockOwnerDeletion", type := flag }, { key := "controller", type := flag },
      { key := "kind", type := text, default? := some (.str "") },
      { key := "name", type := text, default? := some (.str "") },
      { key := "uid", type := text, default? := some (.str "") }]

/-- The metadata of an object. -/
def ofObject : Typed :=
  record
    [{ key := "annotations", type := dictOf text }, { key := "creationTimestamp", type := time },
      { key := "deletionGracePeriodSeconds", type := whole },
      { key := "deletionTimestamp", type := time }, { key := "finalizers", type := listOf text },
      { key := "generateName", type := text }, { key := "generation", type := whole },
      { key := "labels", type := dictOf text },
      { key := "managedFields", type := listOf managedFields }, { key := "name", type := text },
      { key := "namespace", type := text },
      { key := "ownerReferences", type := listOf ownerReference },
      { key := "resourceVersion", type := text }, { key := "selfLink", type := text },
      { key := "uid", type := text }]

/-- The metadata of a list. -/
def ofList : Typed :=
  record
    [{ key := "continue", type := text }, { key := "remainingItemCount", type := whole },
      { key := "resourceVersion", type := text }, { key := "selfLink", type := text }]

end Metadata
end Remote
end KubeLens
