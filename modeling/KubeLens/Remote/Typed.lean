import KubeLens.Json.Record
import KubeLens.Text.Timestamp

/-!
# Types of documents

A cluster's documents have types.  A type says which values belong to it, and what is kept of a
value that does: unknown members are dropped and times are written anew.
-/

namespace KubeLens
namespace Remote

/-- A type: what is kept of a value that belongs to it; none for any other value. -/
abbrev Typed := Json → Option Json

namespace Typed

/-- Any value. -/
def any : Typed := fun value => some value.normalize

/-- Strings. -/
def text : Typed
  | .str value => some (.str value)
  | _ => none

/-- Booleans. -/
def flag : Typed
  | .bool value => some (.bool value)
  | _ => none

/-- Signed whole numbers of 64 bits. -/
def whole : Typed := fun value =>
  (value.intWithin? (-Nat.pow 2 63) (Nat.pow 2 63)).map Json.int

/-- Times. -/
def time : Typed
  | .str value => (Timestamp.parse? value).map fun time => .str time.render
  | _ => none

/-- The value of a digit in base 64. -/
def sextet? (c : Char) : Option Nat :=
  if 'A' ≤ c && c ≤ 'Z' then some (c.toNat - 'A'.toNat)
  else if 'a' ≤ c && c ≤ 'z' then some (c.toNat - 'a'.toNat + 26)
  else if '0' ≤ c && c ≤ '9' then some (c.toNat - '0'.toNat + 52)
  else if c == '+' then some 62
  else if c == '/' then some 63
  else none

/-- Whether a text spells octets in base 64: groups of four digits, of which the last may be
filled up with equals signs, and no bits that are left over. -/
def isBase64 : List Char → Bool
  | [] => true
  | [a, b, '=', '='] => (sextet? a).isSome && (sextet? b).any (· % 16 == 0)
  | [a, b, c, '='] =>
    (sextet? a).isSome && (sextet? b).isSome && (sextet? c).any (· % 4 == 0)
  | a :: b :: c :: d :: rest => ([a, b, c, d].all fun c => (sextet? c).isSome) && isBase64 rest
  | _ => false

/-- Octets, spelled in base 64. -/
def octets : Typed
  | .str value => if isBase64 value.toList then some (.str value) else none
  | _ => none

/-- Lists of values of a type. -/
def listOf (item : Typed) : Typed
  | .arr items => (items.mapM item).map Json.arr
  | _ => none

/-- Objects whose members have values of a type.  A member may occur again; the last one
counts. -/
def dictOf (item : Typed) : Typed
  | .obj members =>
    (members.mapM fun member => (item member.2).map fun kept => (member.1, kept)).map
      fun kept => .obj (Json.lastWins kept)
  | _ => none

/-- A member of a record. -/
structure Member where
  key : String
  type : Typed
  /-- What stands for the member when it is missing or null. -/
  default? : Option Json := none

/-- Whether a value may stand for a member: null may. -/
def Member.accepts (member : Member) (value : Json) : Bool :=
  value.isNull || (member.type value).isSome

/-- What is kept of a member of an object.  It may occur again; the last one counts. -/
def Member.keep (member : Member) (members : Assoc String Json) : Option (List (String × Json)) :=
  let occurrences := members.filter (·.1 == member.key)
  if occurrences.all fun occurrence => member.accepts occurrence.2 then
    let value? := (occurrences.getLast?.filter fun occurrence => !occurrence.2.isNull).bind
      fun occurrence => member.type occurrence.2
    some (((value?.or member.default?).map fun value => (member.key, value)).toList)
  else none

/-- Objects with these members; other members are dropped. -/
def record (members : List Member) : Typed
  | .obj given =>
    (members.mapM fun member : Member => member.keep given).map fun kept => .obj kept.flatten
  | _ => none

end Typed
end Remote
end KubeLens
