import KubeLens.Read.List

/-!
# Getting one object

Builtin kinds are fetched by their own path, every other kind by its plural.  An object that is
not there is an error that names it.
-/

namespace KubeLens
namespace GetRequest

/-- The fields that must not be blank. -/
def check (request : GetRequest) : Except ServiceError Unit := do
  requireText "apiVersion" request.apiVersion
  requireText "kind" request.kind
  requireText "name" request.name

/-- The namespace of the object, if it has one. -/
def space? (request : GetRequest) : Option String :=
  Namespace.normalize request.rawSpace?

/-- The builtin kind that is asked for. -/
def builtin? (request : GetRequest) : Option BuiltinKind :=
  BuiltinKind.lookup request.apiVersion request.kind request.space?.isSome

/-- The error for the answer of a cluster. -/
def failure (request : GetRequest) (error : ClusterError) : ServiceError :=
  if error.isNotFound then .objectAbsent request.kind request.name request.space?
  else .cluster error

end GetRequest

namespace Site

/-- Gets an object of a kind that is not builtin. -/
def getGeneric (site : Site) (client : Client) (request : GetRequest) :
    Option (Except ServiceError Json) × Site :=
  match parseGroupVersion request.apiVersion with
  | .error error => (some (.error error), site)
  | .ok gv =>
    let (plural, site) := site.pluralOf client gv request.kind request.plural?
    let (answer, site) :=
      site.getWith client (.ofGroupVersion gv request.kind plural) request.space? request.name
    (answer.map (·.mapError request.failure), site)

/-- Answers a request for an object; none when there is never an answer. -/
def get (site : Site) (request : GetRequest) : Option (Except ServiceError Json) × Site :=
  match request.check with
  | .error error => (some (.error error), site)
  | .ok () =>
    match site.resolve request.context? with
    | (.error error, site) => (some (.error error), site)
    | (.ok handle, site) =>
      match request.builtin? with
      | some kind =>
        let (answer, site) :=
          site.getBuiltinWith handle.client kind request.space? request.name
        (some (answer.mapError request.failure), site)
      | none => site.getGeneric handle.client request

end Site
end KubeLens
