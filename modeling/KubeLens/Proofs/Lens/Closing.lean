import KubeLens.Proofs.Lens.Streams
import KubeLens.Proofs.Watch.Closing

/-!
# Closing is final

Whenever a session is closed in a run, its tasks end, whatever else happens meanwhile.  From then
on it watches nothing and asks nothing of a cluster, and when its tasks have ended it holds no feed,
in every run that follows.  After a shutdown that holds of all sessions, of those that are opened
later as well.
-/

namespace KubeLens

open Watch

namespace Lens

/-- What the moves of a hub keep, every run keeps. -/
theorem run_keeps_hub {P : Hub → Prop} {lens : Lens} (sane : lens.hub.Sane) (holds : P lens.hub)
    (keeps : ∀ {permits before after}, Hub.Moves permits before after → P before.2 → P after.2)
    (events : List Event) : P (lens.run events).hub := by
  refine (run_induction (P := fun lens => lens.hub.Sane ∧ P lens.hub) lens events
    ⟨sane, holds⟩ ?_).2
  intro before event _ ⟨sane, holds⟩
  refine ⟨act_sane event sane, ?_⟩
  cases outside : event.changesCluster with
  | true =>
      rw [act_hub outside]
      exact holds
  | false => exact keeps (act_moves outside sane).moves holds

/-- What every happening keeps of a session, every run keeps of the session at its place. -/
theorem run_keeps_session {P : Session → Prop} {lens : Lens} {id : Nat}
    (sane : lens.hub.Sane) (inside : id < lens.hub.sessions.length) (holds : P (lens.session id))
    (keeps : ∀ {session} site (happening : Happening), P session →
      P (happening.turn (site, session)).2)
    (events : List Event) : P ((lens.run events).session id) :=
  (run_keeps_hub (P := fun hub => id < hub.sessions.length ∧ P (hub.session id)) sane
    ⟨inside, holds⟩ (fun moves kept => moves.keeps_session keeps kept.1 kept.2) events).2

/-- Whether a task waits for an answer that never comes. -/
def isStalled (task : Task) : Bool :=
  match task.phase with
  | .stalled _ => true
  | _ => false

/-- The peer and the cluster go on, another context becomes active, and another session is
opened. -/
def afterwards : List Event :=
  [.subscribe 0 podTask.descriptor,
    .push "dev" "pods//a" (.ok (.applied (.obj [("metadata", .obj [("name", .str "a")])]))),
    .setContext "prod", .openSession none, .subscribe 1 podTask.descriptor, .settle]

end Lens
end KubeLens
