import KubeLens.Proofs.Lens.Moves
import KubeLens.Proofs.Watch.Served

/-!
# Laws of hubs over runs

Every event is a series of elementary changes, as long as clusters answer gets.  A law of hubs
that holds before a run therefore holds after it.
-/

namespace KubeLens

namespace Lens

open Watch

variable {P : Site → Hub → Prop}

/-! ## Events -/

theorem act_answers {lens : Lens} {event : Event} (outside : event.changesCluster = true)
    (still : event.stalls = false) (answers : lens.site.fleet.Answers) :
    (lens.act event).site.fleet.Answers := by
  cases event with
  | reshape context content => exact Fleet.put_answers answers still
  | push context address item => exact Fleet.put_answers answers (answers context)
  | detach context address => exact Fleet.put_answers answers (answers context)
  | _ => cases outside

/-- A law of hubs is kept by every event after which clusters still answer gets. -/
theorem act_keeps (law : Hub.Law P) {lens : Lens} {event : Event}
    (answers : event.stalls = false) (sane : lens.hub.Sane) (holds : P lens.site lens.hub) :
    P (lens.act event).site (lens.act event).hub := by
  cases outside : event.changesCluster with
  | false => exact law.moves (act_moves outside sane).moves holds
  | true =>
      rw [act_hub outside]
      exact law.serve ((act_delivers outside).sameOpen (act_answers outside answers)) holds

/-! ## Runs -/

/-- A law of hubs that holds at first holds after every run in which clusters answer gets. -/
theorem run_keeps (law : Hub.Law P) (settings : Settings) (host : Host) {events : List Event}
    (answers : ∀ event ∈ events, event.stalls = false)
    (initial : P (onHost settings host).site (onHost settings host).hub) :
    P ((onHost settings host).run events).site ((onHost settings host).run events).hub := by
  refine (run_induction (P := fun lens => lens.hub.Sane ∧ P lens.site lens.hub)
    (onHost settings host) events ⟨run_sane settings host [], initial⟩ ?_).2
  intro before event present ⟨sane, holds⟩
  exact ⟨act_sane event sane, act_keeps law (answers event present) sane holds⟩

theorem onHost_watches (settings : Settings) (host : Host) :
    Hub.Sound (onHost settings host).site (onHost settings host).hub :=
  ⟨⟨nofun, fun _ => rfl, List.nodup_nil⟩, fun _ => rfl, nofun⟩

/-- When every task waits after a run in which clusters answered gets, and no session waits for its
peer to receive, as many feeds are open as keys are watched for sessions that are not cancelled, and
each of these keys is served by one running task, which alone holds a live feed. -/
theorem run_idle_watches (settings : Settings) (host : Host) (events : List Event)
    (answers : ∀ event ∈ events, event.stalls = false)
    (idle : ((onHost settings host).run events).hub.isIdle
      ((onHost settings host).run events).site = true)
    (drained : ∀ session ∈ ((onHost settings host).run events).hub.sessions,
      session.accepts = true) :
    let lens := (onHost settings host).run events
    lens.site.fleet.openFeeds = lens.hub.watchedCount ∧
      ∀ session ∈ lens.hub.sessions, session.isCancelled = false →
        ∀ key ∈ session.watchedKeys, lens.hub.Serves lens.site session key := by
  intro lens
  have sound : Hub.Sound lens.site lens.hub :=
    run_keeps Hub.Sound.law settings host answers (onHost_watches settings host)
  exact ⟨Hub.idle_openFeeds sound idle drained, fun session opened alive key watched =>
    Hub.idle_serves sound idle drained opened alive watched⟩

/-- One of two watches of a session stays, another session cannot connect, and a third one is
closed. -/
def oneWatchLeft : Lens :=
  let pod (name : String) : Descriptor :=
    { apiVersion := "v1", kind := "Pod", name, plural? := some "pods" }
  (onHost (.defaults none) (.storing ["dev", "prod"])).run
    [.setContext "dev", .isolate ["prod"], .openSession none, .openSession (some "prod"),
      .subscribe 0 (pod "a"), .subscribe 0 (pod "b"), .subscribe 1 (pod "c"), .settle,
      .unsubscribe 0 (pod "b"), .openSession none, .subscribe 2 (pod "d"), .settle,
      .closeSession 2]

theorem oneWatchLeft_watches :
    oneWatchLeft.hub.isIdle oneWatchLeft.site = true ∧
      oneWatchLeft.hub.watchedCount = 1 ∧
      ∀ session ∈ oneWatchLeft.hub.sessions, session.isCancelled = false →
        ∀ key ∈ session.watchedKeys,
          oneWatchLeft.hub.Serves oneWatchLeft.site session key := by
  have idle : oneWatchLeft.hub.isIdle oneWatchLeft.site = true := by decide +kernel
  have openFeeds : oneWatchLeft.site.fleet.openFeeds = 1 := by decide +kernel
  have result : oneWatchLeft.site.fleet.openFeeds = oneWatchLeft.hub.watchedCount ∧
      ∀ session ∈ oneWatchLeft.hub.sessions, session.isCancelled = false →
        ∀ key ∈ session.watchedKeys, oneWatchLeft.hub.Serves oneWatchLeft.site session key :=
    run_idle_watches (.defaults none) (.storing ["dev", "prod"]) _ (by decide) idle
      (by decide +kernel)
  exact ⟨idle, result.1.symm.trans openFeeds, result.2⟩

end Lens
end KubeLens
