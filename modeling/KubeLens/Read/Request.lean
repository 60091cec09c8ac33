import KubeLens.Json.Record

/-!
# Requests for objects

What a caller asks for when it lists objects of a type or gets one of them.  Strings that are
left out are empty.
-/

namespace KubeLens

/-- A request for objects of a type. -/
structure ListRequest where
  apiVersion : String := ""
  kind : String := ""
  /-- All namespaces when there is none. -/
  rawSpace? : Option String := none
  /-- The active context when there is none. -/
  context? : Option String := none
  /-- Found by discovery when there is none. -/
  plural? : Option String := none
  limit? : Option Nat := none
  continueToken? : Option String := none
  deriving DecidableEq, Repr

/-- A request for one object. -/
structure GetRequest where
  apiVersion : String := ""
  kind : String := ""
  name : String := ""
  rawSpace? : Option String := none
  context? : Option String := none
  plural? : Option String := none
  deriving DecidableEq, Repr

namespace ListRequest

/-- Reads a request. -/
def ofJson? (value : Json) : Option ListRequest := do
  let record ← value.record?
    ["apiVersion", "kind", "namespace", "context", "plural", "limit", "continueToken"]
  let apiVersion ← record.text "apiVersion"
  let kind ← record.text "kind"
  let rawSpace? ← record.optionalText "namespace"
  let context? ← record.optionalText "context"
  let plural? ← record.optionalText "plural"
  let limit? ← record.optional "limit" (Json.intWithin? 0 (Nat.pow 2 32))
  let continueToken? ← record.optionalText "continueToken"
  some
    { apiVersion, kind, rawSpace?, context?, plural?
      limit? := limit?.map Int.toNat, continueToken? }

/-- A request as JSON. -/
def toJson (request : ListRequest) : Json :=
  .obj
    [("apiVersion", .str request.apiVersion), ("kind", .str request.kind),
      ("namespace", .ofText? request.rawSpace?), ("context", .ofText? request.context?),
      ("plural", .ofText? request.plural?),
      ("limit", (request.limit?.map fun limit => Json.int limit).getD .null),
      ("continueToken", .ofText? request.continueToken?)]

end ListRequest

namespace GetRequest

/-- Reads a request. -/
def ofJson? (value : Json) : Option GetRequest := do
  let record ← value.record?
    ["apiVersion", "kind", "name", "namespace", "context", "plural"]
  let apiVersion ← record.text "apiVersion"
  let kind ← record.text "kind"
  let name ← record.text "name"
  let rawSpace? ← record.optionalText "namespace"
  let context? ← record.optionalText "context"
  let plural? ← record.optionalText "plural"
  some { apiVersion, kind, name, rawSpace?, context?, plural? }

/-- A request as JSON. -/
def toJson (request : GetRequest) : Json :=
  .obj
    [("apiVersion", .str request.apiVersion), ("kind", .str request.kind),
      ("name", .str request.name), ("namespace", .ofText? request.rawSpace?),
      ("context", .ofText? request.context?), ("plural", .ofText? request.plural?)]

end GetRequest
end KubeLens
