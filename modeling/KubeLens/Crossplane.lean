import KubeLens.Api.ResourceType

/-!
# Crossplane resource types

Crossplane installs resource types through provider packages and composite resource
definitions.  These are the names by which they are recognised.
-/

namespace KubeLens
namespace Crossplane

/-- The group of provider packages. -/
def packageGroup : String := "pkg.crossplane.io"

/-- The `apiVersion` of providers and their revisions. -/
def packageApiVersion : String := "pkg.crossplane.io/v1"

/-- The group of composite resource definitions. -/
def compositeGroup : String := "apiextensions.crossplane.io"

/-- The versions of composite resource definitions, newest first. -/
def compositeVersions : List String := ["v2", "v1"]

/-- The ending of the group names that belong to Crossplane. -/
def groupEnding : String := ".crossplane.io"

/-- Kinds that configure a provider and are not resources managed by it. -/
def configKinds : List String := ["ProviderConfig", "ProviderConfigUsage"]

/-- Whether a group belongs to Crossplane. -/
def isOwnGroup (group : String) : Bool :=
  group == compositeGroup || groupEnding.toList.isSuffixOf group.toList

/-- Composite resource definitions of a version. -/
def compositeDefinitions (version : String) : ResourceType :=
  ⟨compositeGroup, version, "CompositeResourceDefinition", "compositeresourcedefinitions"⟩

/-- Provider packages. -/
def providers : ResourceType :=
  ⟨packageGroup, "v1", "Provider", "providers"⟩

/-- Revisions of provider packages. -/
def providerRevisions : ResourceType :=
  ⟨packageGroup, "v1", "ProviderRevision", "providerrevisions"⟩

end Crossplane
end KubeLens
