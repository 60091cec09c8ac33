import KubeLens.Crossplane
import KubeLens.Json.Basic

/-!
# Types that providers install

A custom resource definition belongs to a provider when one of its owners is the provider or a
revision of it.  Its kind is then managed, unless it only configures the provider.
-/

namespace KubeLens
namespace Managed

/-- An owner that a document names. -/
structure Owner where
  apiVersion : String
  kind : String
  name : String
  deriving DecidableEq, Repr

/-- Reads an owner. -/
def Owner.ofJson? (value : Json) : Option Owner := do
  let apiVersion ← value.memberStr? "apiVersion"
  let kind ← value.memberStr? "kind"
  let name ← value.memberStr? "name"
  some { apiVersion, kind, name }

/-- The owners of a document. -/
def owners (document : Json) : List Owner :=
  (((document.at? ["metadata", "ownerReferences"]).bind Json.asArr?).getD []).filterMap
    Owner.ofJson?

/-- Whether an owner is one of some providers. -/
def Owner.isProviderIn (owner : Owner) (providers : List String) : Bool :=
  owner.apiVersion == Crossplane.packageApiVersion && owner.kind == "Provider" &&
    providers.contains owner.name

/-- Whether a revision is owned by one of some providers. -/
def ownedRevision? (providers : List String) (revision : Json) : Option String := do
  let name ← revision.objectName?
  if (owners revision).any (·.isProviderIn providers) then some name else none

/-- The names of the revisions that some providers own. -/
def ownedRevisions (providers : List String) (revisions : List Json) : List String :=
  revisions.filterMap (ownedRevision? providers)

/-- Whether an owner is one of some providers or revisions. -/
def Owner.isAmong (owner : Owner) (providers revisions : List String) : Bool :=
  owner.isProviderIn providers ||
    (owner.apiVersion == Crossplane.packageApiVersion && owner.kind == "ProviderRevision" &&
      revisions.contains owner.name)

/-- Whether a definition belongs to one of some providers, directly or by a revision. -/
def isProvided (providers revisions : List String) (definition : Json) : Bool :=
  (owners definition).any (·.isAmong providers revisions)

/-- A string member that is not empty. -/
def filled? (value : Json) (key : String) : Option String :=
  (value.memberStr? key).filter (!·.isEmpty)

/-- The version that a definition's objects are listed in. -/
def version (spec : Json) : String :=
  (((spec.strAt? ["versions", "0", "name"]).or (spec.memberStr? "version")).filter
    (!·.isEmpty)).getD "v1"

/-- The managed type that a definition declares. -/
def type? (definition : Json) : Option ResourceType := do
  let spec ← definition.member? "spec"
  let group ← filled? spec "group"
  let names ← spec.member? "names"
  let kind ← filled? names "kind"
  let plural ← filled? names "plural"
  if Crossplane.configKinds.contains kind then none
  else some ⟨group, version spec, kind, plural⟩

/-- The managed types that definitions declare, in their order. -/
def types (providers revisions definitions : List Json) : List ResourceType :=
  let names := providers.filterMap Json.objectName?
  (definitions.filter (isProvided names (ownedRevisions names revisions))).filterMap type?

end Managed
end KubeLens
