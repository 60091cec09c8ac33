import KubeLens.Json.Basic

/-!
# Records in JSON

A record is an object with known fields, or an array of their values in order.  Unknown members
of an object do not count, known ones may occur once, and an array may not have more items than
there are fields.
-/

namespace KubeLens
namespace Json

/-- The fields of a record that are present. -/
abbrev Record := Assoc String Json

/-- The fields of a value that is written as a record with these field names. -/
def record? (names : List String) : Json → Option Record
  | obj members =>
    let known := members.filter fun member => names.contains member.1
    if (known.map (·.1)).Nodup then some known else none
  | arr items => if items.length ≤ names.length then some (names.zip items) else none
  | _ => none

namespace Record

/-- A string that is empty when it is left out. -/
def text (record : Record) (name : String) : Option String :=
  match record.get? name with
  | none => some ""
  | some (.str value) => some value
  | some _ => none

/-- What `read` makes of a field that may be left out or null. -/
def optional {α : Type} (record : Record) (name : String) (read : Json → Option α) :
    Option (Option α) :=
  match record.get? name with
  | none | some .null => some none
  | some value => (read value).map some

/-- A string that may be left out or null. -/
def optionalText (record : Record) (name : String) : Option (Option String) :=
  record.optional name asStr?

end Record

/-- A whole number from `low` up to but without `high`. -/
def intWithin? (low high : Int) : Json → Option Int
  | int value => if low ≤ value && value < high then some value else none
  | _ => none

/-- A string, or null for none. -/
def ofText? : Option String → Json
  | some value => str value
  | none => null

end Json
end KubeLens
