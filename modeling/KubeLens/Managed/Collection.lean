import KubeLens.Managed.Ownership
import KubeLens.Read.List

/-!
# Collecting managed objects

The objects of every managed type, in the order of their types, namespaces and names.  A type
whose list fails is left out; without the definitions or the providers nothing can be collected.
-/

namespace KubeLens
namespace Managed

/-- An object with the `apiVersion` and kind of its type. -/
def labelled (type : ResourceType) (item : Json) : Json :=
  (item.withMember "apiVersion" (.str type.apiVersion)).withMember "kind" (.str type.kind)

/-- What objects are ordered by. -/
structure Place where
  apiVersion : String
  kind : String
  space : String
  name : String
  deriving DecidableEq, Repr

/-- The place of an object; what it does not say is empty. -/
def Place.ofObject (item : Json) : Place :=
  { apiVersion := (item.strAt? ["apiVersion"]).getD ""
    kind := (item.strAt? ["kind"]).getD ""
    space := item.objectNamespace?.getD ""
    name := item.objectName?.getD "" }

/-- The texts of a place, the most significant first. -/
def Place.texts (place : Place) : List String :=
  [place.apiVersion, place.kind, place.space, place.name]

/-- Whether texts come before others, or are the same. -/
def textsLe : List String → List String → Bool
  | a :: as, b :: bs => decide (a < b) || (a == b && textsLe as bs)
  | [], _ => true
  | _ :: _, [] => false

/-- Whether an object comes before another one, or has the same place. -/
def itemLe (a b : Json) : Bool :=
  textsLe (Place.ofObject a).texts (Place.ofObject b).texts

/-- The objects of all types in order.  Objects with the same place stay in their order. -/
def arrange (batches : List (List Json)) : List Json :=
  batches.flatten.mergeSort itemLe

end Managed

namespace Site

open Managed

/-- The objects of a managed type; none when the list fails. -/
def managedBatch (site : Site) (handle : Handle) (type : ResourceType) : List Json × Site :=
  match site.listOn handle type.groupVersion type.kind none (some type.plural) {} with
  | (.ok page, site) => (page.items.map (labelled type), site)
  | (.error _, site) => ([], site)

/-- The objects of each managed type. -/
def managedBatches (handle : Handle) : List ResourceType → Site → List (List Json) × Site
  | [], site => ([], site)
  | type :: rest, site =>
    let (batch, site) := site.managedBatch handle type
    let (batches, site) := managedBatches handle rest site
    (batch :: batches, site)

/-- Lists a type that has one of the plurals of Crossplane's packages. -/
def listPackages (site : Site) (handle : Handle) (type : ResourceType) :
    Except ServiceError (List Json) × Site :=
  let (answer, site) :=
    site.listOn handle type.groupVersion type.kind none (some type.plural) {}
  (answer.map (·.items), site)

/-- Lists the definitions of custom resource types; a cluster must have them. -/
def listDefinitions (site : Site) (handle : Handle) : Except ServiceError (List Json) × Site :=
  let (answer, site) := site.listWith handle.client .customResourceDefinitions none {}
  ((answer.map (·.items)).mapError .cluster, site)

/-- The managed types of a cluster. -/
def managedTypes (site : Site) (handle : Handle) :
    Except ServiceError (List ResourceType) × Site :=
  match site.listPackages handle Crossplane.providers with
  | (.error error, site) => (.error error, site)
  | (.ok providers, site) =>
    match site.listPackages handle Crossplane.providerRevisions with
    | (.error error, site) => (.error error, site)
    | (.ok revisions, site) =>
      match site.listDefinitions handle with
      | (.error error, site) => (.error error, site)
      | (.ok definitions, site) => (.ok (types providers revisions definitions), site)

/-- Collects the managed objects of a cluster. -/
def collectManaged (site : Site) (handle : Handle) : Except ServiceError (List Json) × Site :=
  match site.managedTypes handle with
  | (.error error, site) => (.error error, site)
  | (.ok types, site) =>
    let (batches, site) := managedBatches handle types site
    (.ok (arrange batches), site)

end Site
end KubeLens
