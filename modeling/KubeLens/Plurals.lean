import KubeLens.Cluster.Fleet
import KubeLens.Crossplane
import KubeLens.Text.Lowercase

/-!
# Plural names

The plural of a kind is found in the definitions that a cluster holds: the custom resource
definitions, and for Crossplane's own groups the composite resource definitions.  A plural that
was found is kept for good.  Otherwise a guess is made, which is not kept.
-/

namespace KubeLens

/-- The plurals that were found, by `apiVersion` and kind. -/
structure Plurals where
  known : Assoc String String := []
  deriving Inhabited

namespace Plurals

/-- The plural of a kind that discovery does not know: its lower-case name and an `s`. -/
def naive (kind : String) : String :=
  Text.lowercase kind ++ "s"

/-- The text under which the plural of a kind is kept. -/
def key (gv : GroupVersion) (kind : String) : String :=
  gv.apiVersion ++ "/" ++ kind

/-- The plural that was found before. -/
def found? (plurals : Plurals) (gv : GroupVersion) (kind : String) : Option String :=
  plurals.known.get? (key gv kind)

/-- Keeps a plural. -/
def keep (plurals : Plurals) (gv : GroupVersion) (kind plural : String) : Plurals :=
  { known := plurals.known.put (key gv kind) plural }

/-- The plural that a definition declares for a kind of a group. -/
def declared? (group kind : String) (definition : Json) : Option String := do
  let spec ← definition.member? "spec"
  let itsGroup ← spec.memberStr? "group"
  let names ← spec.member? "names"
  let itsKind ← names.memberStr? "kind"
  let plural ← names.memberStr? "plural"
  if itsGroup = group && itsKind = kind && !plural.isEmpty then some plural else none

/-- The types of definitions in which a group's kinds are looked for, in order.  Kinds of the
core group are never declared. -/
def sources (gv : GroupVersion) : List ResourceType :=
  if gv.isCore then []
  else
    .customResourceDefinitions ::
      if Crossplane.isOwnGroup gv.group then
        Crossplane.compositeVersions.map Crossplane.compositeDefinitions
      else []

/-- The first plural that a list of definitions declares. -/
def search (group kind : String) (definitions : List Json) : Option String :=
  definitions.findSome? (declared? group kind)

/-- Lists definitions until one declares the kind.  A list that fails counts as empty. -/
def discover (client : Client) (gv : GroupVersion) (kind : String) :
    List ResourceType → Fleet → Option String × Fleet
  | [], fleet => (none, fleet)
  | source :: rest, fleet =>
    let (answer, fleet) := client.list fleet source none {}
    match answer with
    | .error _ => discover client gv kind rest fleet
    | .ok page =>
      match search gv.group kind page.items with
      | some plural => (some plural, fleet)
      | none => discover client gv kind rest fleet

/-- The plural of a kind. -/
def resolve (plurals : Plurals) (client : Client) (fleet : Fleet) (gv : GroupVersion)
    (kind : String) : String × Plurals × Fleet :=
  match plurals.found? gv kind with
  | some plural => (plural, plurals, fleet)
  | none =>
    match discover client gv kind (sources gv) fleet with
    | (some plural, fleet) => (plural, plurals.keep gv kind plural, fleet)
    | (none, fleet) => (naive kind, plurals, fleet)

end Plurals
end KubeLens
