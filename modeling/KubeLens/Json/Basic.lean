import KubeLens.Assoc
import KubeLens.Text.Blank
import KubeLens.Text.Numeral

/-!
# JSON values

Resource documents are JSON values whose object members keep the order in which they were
written.  Numbers are whole numbers, or doubles given by their bits.
-/

namespace KubeLens

/-- A JSON value. -/
inductive Json where
  | null
  | bool (value : Bool)
  | int (value : Int)
  | double (bits : UInt64)
  | str (value : String)
  | arr (items : List Json)
  | obj (members : List (String × Json))
  deriving Inhabited

namespace Json

/-- Whether a value is null. -/
def isNull : Json → Bool
  | null => true
  | _ => false

/-- The text of a string value. -/
def asStr? : Json → Option String
  | str value => some value
  | _ => none

/-- The items of an array. -/
def asArr? : Json → Option (List Json)
  | arr items => some items
  | _ => none

/-- The members of an object. -/
def asObj? : Json → Option (Assoc String Json)
  | obj members => some members
  | _ => none

/-- The member of an object under a key. -/
def member? (value : Json) (key : String) : Option Json :=
  match value with
  | obj members => Assoc.get? members key
  | _ => none

/-- The text of a string member. -/
def memberStr? (value : Json) (key : String) : Option String :=
  (value.member? key).bind asStr?

/-- A position in an array: decimal digits without leading zeros. -/
def index? (step : String) : Option Nat :=
  match step.toList with
  | ['0'] => some 0
  | '0' :: _ => none
  | '+' :: _ => none
  | _ => (Text.readNumeral (Nat.pow 2 64) step).toOption

/-- One step down: a key of an object or a position in an array. -/
def step? (value : Json) (step : String) : Option Json :=
  match value with
  | obj members => Assoc.get? members step
  | arr items => (index? step).bind (items[·]?)
  | _ => none

/-- The value at the end of a path of steps. -/
def at? (value : Json) : List String → Option Json
  | [] => some value
  | step :: rest => (value.step? step).bind (at? · rest)

/-- The string at the end of a path. -/
def strAt? (value : Json) (path : List String) : Option String :=
  (value.at? path).bind asStr?

/-- Undoes the two escapes of a pointer's step. -/
def unescapeStep : List Char → List Char
  | '~' :: '1' :: rest => '/' :: unescapeStep rest
  | '~' :: '0' :: rest => '~' :: unescapeStep rest
  | c :: rest => c :: unescapeStep rest
  | [] => []

/-- The steps of a pointer without its leading slash. -/
def pointerSteps (pointer : List Char) : List String :=
  (Text.splitAll '/' pointer).map fun step => String.ofList (unescapeStep step)

/-- The name of a resource document: `metadata.name`. -/
def objectName? (document : Json) : Option String :=
  document.strAt? ["metadata", "name"]

/-- The namespace of a resource document: `metadata.namespace`. -/
def objectNamespace? (document : Json) : Option String :=
  document.strAt? ["metadata", "namespace"]

/-- Sets a member of an object; any other value is left as it is. -/
def withMember (value : Json) (key : String) (new : Json) : Json :=
  match value with
  | obj members => obj (Assoc.put members key new)
  | other => other

/-- The members with each key once: a later member with the same key replaces the value of the
first one. -/
def lastWins (members : Assoc String Json) : Assoc String Json :=
  members.foldl (fun merged member => Assoc.put merged member.1 member.2) []

mutual

/-- The value with repeated keys merged in every object. -/
def normalize : Json → Json
  | arr items => arr (normalizeAll items)
  | obj members => obj (lastWins (normalizeMembers members))
  | value => value

/-- `normalize` on the items of an array. -/
def normalizeAll : List Json → List Json
  | [] => []
  | item :: rest => normalize item :: normalizeAll rest

/-- `normalize` on the values of members. -/
def normalizeMembers : List (String × Json) → List (String × Json)
  | [] => []
  | (key, value) :: rest => (key, normalize value) :: normalizeMembers rest

end

end Json
end KubeLens
