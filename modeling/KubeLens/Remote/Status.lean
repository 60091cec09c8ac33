import KubeLens.Error
import KubeLens.Json.Reader
import KubeLens.Remote.Metadata
import KubeLens.Text.Quoted

/-!
# Statuses

A cluster that refuses a request answers with a status.  Every field of a status may be left
out.
-/

namespace KubeLens
namespace Remote

/-- What a cluster says instead of an answer. -/
structure Status where
  code : Nat := 0
  message : String := ""
  deriving DecidableEq, Repr

namespace Status

/-- The fields of a status. -/
def fieldNames : List String :=
  ["status", "code", "message", "metadata", "reason", "details"]

/-- A whole number that is zero when it is left out. -/
def count? (record : Json.Record) (name : String) (bound : Nat) : Option Nat :=
  match record.get? name with
  | none => some 0
  | some value => (value.intWithin? 0 bound).map Int.toNat

/-- Whether a value is a cause of a status. -/
def isCause (value : Json) : Bool :=
  (do
    let record ← value.record? ["reason", "message", "field"]
    let _ ← record.text "reason"
    let _ ← record.text "message"
    record.text "field").isSome

/-- Whether a value is the details of a status. -/
def isDetails (value : Json) : Bool :=
  (do
    let record ← value.record? ["name", "group", "kind", "uid", "causes", "retryAfterSeconds"]
    let _ ← record.text "name"
    let _ ← record.text "group"
    let _ ← record.text "kind"
    let _ ← record.text "uid"
    let _ ← count? record "retryAfterSeconds" (Nat.pow 2 32)
    match record.get? "causes" with
    | none => some ()
    | some (.arr causes) => if causes.all isCause then some () else none
    | some _ => none).isSome

/-- Reads a status. -/
def ofJson? (value : Json) : Option Status := do
  let record ← value.record? fieldNames
  let _ ← record.optional "status" fun value =>
    value.asStr?.filter fun text => text == "Success" || text == "Failure"
  let code ← count? record "code" (Nat.pow 2 16)
  let message ← record.text "message"
  let _ ← record.optional "metadata" Metadata.ofList
  let _ ← record.text "reason"
  let _ ← record.optional "details" fun value => if isDetails value then some value else none
  some { code, message }

/-- The status of an answer with an HTTP code that is not success.  A body that is not a status
is quoted. -/
def ofReply (code : Nat) (body : String) : Status :=
  ((Json.read? body).bind ofJson?).getD { code, message := Text.quoted body }

/-- The error that a status stands for. -/
def toError (status : Status) : ClusterError :=
  .ofStatus status.code status.message

end Status
end Remote
end KubeLens
