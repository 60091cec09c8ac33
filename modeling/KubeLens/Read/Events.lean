import KubeLens.Read.List

/-!
# Events about one object

The events are looked for in the namespace of the object; an object without one has none.  The
cluster is asked to select them; if it does not support the selector, a shorter one is tried.
Whatever it answers is looked at again.
-/

namespace KubeLens
namespace EventLookup

/-- Selects the events about an object. -/
def narrowSelector (kind name space : String) : String :=
  s!"involvedObject.kind={kind},involvedObject.name={name},involvedObject.namespace={space}"

/-- Selects the events about objects of a kind and name. -/
def wideSelector (kind name : String) : String :=
  s!"involvedObject.kind={kind},involvedObject.name={name}"

/-- A field of the object that an event is about. -/
def involved (field : String) (event : Json) : String :=
  ((event.member? "involvedObject").bind (·.memberStr? field)).getD ""

/-- Whether an event is about an object. -/
def concerns (kind name space : String) (event : Json) : Bool :=
  involved "kind" event == kind && involved "name" event == name &&
    involved "namespace" event == space

end EventLookup

namespace Site

open EventLookup

/-- The events that the cluster selects; none when it fails twice. -/
def eventCandidates (site : Site) (client : Client) (kind name space : String) :
    List Json × Site :=
  match site.listWith client .events (some space) (.ofSelector (narrowSelector kind name space)) with
  | (.ok page, site) => (page.items, site)
  | (.error _, site) =>
    match site.listWith client .events (some space) (.ofSelector (wideSelector kind name)) with
    | (.ok page, site) => (page.items, site)
    | (.error _, site) => ([], site)

/-- The events about an object. -/
def events (site : Site) (kind name : String) (rawSpace? context? : Option String) :
    Except ServiceError (List Json) × Site :=
  match Namespace.normalize rawSpace? with
  | none => (.ok [], site)
  | some space =>
    match site.resolve context? with
    | (.error error, site) => (.error error, site)
    | (.ok handle, site) =>
      let (candidates, site) := site.eventCandidates handle.client kind name space
      (.ok (candidates.filter (concerns kind name space)), site)

end Site
end KubeLens
