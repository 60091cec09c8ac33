import KubeLens.Json.Record

/-!
# Lists, pages and changes

What a list call asks for and what it answers, and the changes that a watch reports.
-/

namespace KubeLens

/-- What a list call asks for besides the type and the namespace. -/
structure ListQuery where
  limit : Option Nat := none
  continueToken : Option String := none
  fieldSelector : Option String := none
  deriving DecidableEq, Repr

/-- A query for the objects that match a field selector. -/
def ListQuery.ofSelector (selector : String) : ListQuery :=
  { fieldSelector := some selector }

/-- One page of a list.  The token and the count are those of the items still to come. -/
structure ObjectPage where
  items : List Json := []
  continueToken : Option String := none
  remaining : Option Int := none
  deriving Inhabited

namespace ObjectPage

/-- The page without items. -/
def empty : ObjectPage := {}

/-- The fields of a page. -/
def fieldNames : List String :=
  ["items", "continueToken", "remainingItemCount"]

/-- A page as JSON; the markers of the last page are null. -/
def toJson (page : ObjectPage) : Json :=
  .obj
    [("items", .arr page.items), ("continueToken", .ofText? page.continueToken),
      ("remainingItemCount", (page.remaining.map Json.int).getD .null)]

/-- Reads a page.  The items must be there, and an array must have every field. -/
def ofJson? (value : Json) : Option ObjectPage := do
  let record ← value.record? fieldNames
  match value with
  | .arr items => if items.length < fieldNames.length then none
  | _ => pure ()
  let items ← (← record.get? "items").asArr?
  let continueToken ← record.optionalText "continueToken"
  let remaining ← record.optional "remainingItemCount"
    (Json.intWithin? (-Nat.pow 2 63) (Nat.pow 2 63))
  some { items := Json.normalizeAll items, continueToken, remaining }

end ObjectPage

/-- A change of an object, with its new or last document. -/
inductive ObjectEvent
  | applied (document : Json)
  | deleted (document : Json)
  deriving Inhabited

/-- The document of a change. -/
def ObjectEvent.document : ObjectEvent → Json
  | applied document | deleted document => document

end KubeLens
