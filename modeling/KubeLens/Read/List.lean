import KubeLens.Api.Namespace
import KubeLens.Read.Request
import KubeLens.Site

/-!
# Listing objects

A list of a type that the cluster does not serve is empty.  Everything that can be wrong with a
request is looked at before a connection is used.
-/

namespace KubeLens

/-- A field of a request must not be blank. -/
def requireText (field value : String) : Except ServiceError Unit :=
  if Text.isBlankText value then .error (.fieldRequired field) else .ok ()

/-- The group and version of a request. -/
def parseGroupVersion (raw : String) : Except ServiceError GroupVersion :=
  (GroupVersion.parse raw).mapError (ServiceError.ofApiVersion raw)

namespace ListRequest

/-- The group and version of a request that can be answered. -/
def check (request : ListRequest) : Except ServiceError GroupVersion := do
  requireText "apiVersion" request.apiVersion
  let gv ← parseGroupVersion request.apiVersion
  requireText "kind" request.kind
  return gv

/-- What is asked of the cluster. -/
def query (request : ListRequest) : ListQuery :=
  { limit := request.limit?, continueToken := request.continueToken?.filter (!·.isEmpty) }

end ListRequest

namespace Site

/-- Lists objects of a kind over a connection.  A type that is not there has no objects. -/
def listOn (site : Site) (handle : Handle) (gv : GroupVersion) (kind : String)
    (space plural? : Option String) (query : ListQuery) :
    Except ServiceError ObjectPage × Site :=
  let (plural, site) := site.pluralOf handle.client gv kind plural?
  let (answer, site) := site.listWith handle.client (.ofGroupVersion gv kind plural) space query
  match answer with
  | .ok page => (.ok page, site)
  | .error error => (if error.isNotFound then .ok .empty else .error (.cluster error), site)

/-- Answers a request for objects of a type. -/
def list (site : Site) (request : ListRequest) : Except ServiceError ObjectPage × Site :=
  match request.check with
  | .error error => (.error error, site)
  | .ok gv =>
    match site.resolve request.context? with
    | (.error error, site) => (.error error, site)
    | (.ok handle, site) =>
      site.listOn handle gv request.kind (Namespace.normalize request.rawSpace?)
        request.plural? request.query

end Site
end KubeLens
