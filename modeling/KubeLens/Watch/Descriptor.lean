import KubeLens.Api.Namespace
import KubeLens.Json.Record

/-!
# Descriptors of watched objects

A descriptor says which object to watch.  Its key tells descriptors of different objects apart.
-/

namespace KubeLens
namespace Watch

/-- The object to watch. -/
structure Descriptor where
  apiVersion : String := ""
  kind : String := ""
  name : String := ""
  /-- The namespace as it is written. -/
  rawSpace? : Option String := none
  /-- Found by discovery when there is none. -/
  plural? : Option String := none
  deriving DecidableEq, Repr

namespace Descriptor

/-- The namespace of the object, if it has one. -/
def space? (descriptor : Descriptor) : Option String :=
  Namespace.normalize descriptor.rawSpace?

/-- The text under which the object is watched at most once. -/
def key (descriptor : Descriptor) : String :=
  descriptor.apiVersion ++ ":" ++ descriptor.kind ++ ":" ++ descriptor.space?.getD "" ++ ":" ++
    descriptor.name

/-- What is sent for an object that is gone. -/
def stub (descriptor : Descriptor) : Json :=
  .obj
    [("apiVersion", .str descriptor.apiVersion), ("kind", .str descriptor.kind),
      ("metadata", .obj
        [("name", .str descriptor.name),
          ("namespace", .str (descriptor.space?.getD ""))])]

/-- The fields of a descriptor. -/
def fieldNames : List String :=
  ["apiVersion", "kind", "name", "namespace", "plural"]

/-- Reads a descriptor. -/
def ofJson? (value : Json) : Option Descriptor := do
  let record ← value.record? fieldNames
  let apiVersion ← record.text "apiVersion"
  let kind ← record.text "kind"
  let name ← record.text "name"
  let rawSpace? ← record.optionalText "namespace"
  let plural? ← record.optionalText "plural"
  some { apiVersion, kind, name, rawSpace?, plural? }

/-- A descriptor as JSON. -/
def toJson (descriptor : Descriptor) : Json :=
  .obj
    [("apiVersion", .str descriptor.apiVersion), ("kind", .str descriptor.kind),
      ("name", .str descriptor.name), ("namespace", .ofText? descriptor.rawSpace?),
      ("plural", .ofText? descriptor.plural?)]

end Descriptor
end Watch
end KubeLens
