import KubeLens.Lens
import KubeLens.Text.FormQuery

/-!
# Answers over HTTP

The server answers at two paths: one reports the state of the service, the other one upgrades
the connection to a watch channel, which a plain request cannot use.
-/

namespace KubeLens
namespace Server

/-- An answer to a request without upgrade. -/
structure Response where
  status : Nat
  body? : Option Json := none
  deriving Inhabited

/-- The state of the service. -/
def health (lens : Lens) : Json :=
  .obj
    [("status", .str "ok"), ("currentContext", .ofText? lens.current?),
      ("watchSessions", .int lens.hub.sessionCount)]

/-- The path of a request target, without its query. -/
def pathOf (target : String) : String :=
  String.ofList (target.toList.takeWhile (· != '?'))

/-- The answer to a `GET` request. -/
def respond (lens : Lens) (target : String) : Response :=
  match pathOf target with
  | "/health" => { status := 200, body? := some (health lens) }
  | "/api/watch" => { status := 400 }
  | _ => { status := 404 }

/-- The context that the query of an upgrade request names, or the status it is refused with.
The context may be given once. -/
def upgradeContext (query : String) : Except Nat (Option String) :=
  let pairs := Text.formPairs (String.ofList (query.toList.drop 1))
  match pairs.filter fun pair => pair.1 == "context" with
  | [] => .ok none
  | [(_, context)] => .ok (some context)
  | _ => .error 400

end Server
end KubeLens
