import KubeLens.Proofs.Lens.Moves
import KubeLens.Proofs.Lens.Usable
import KubeLens.Proofs.Watch.Anchored
import KubeLens.Proofs.Watch.Lineage

/-!
# Watches and their contexts

In every run outside a cluster, a watch has the context that its session had when it was started,
and no client of another one.
-/

namespace KubeLens

open Watch

namespace Lens

/-! ## Clients -/

/-- Every event keeps tasks anchored. -/
theorem act_moored {lens : Lens} (orderly : lens.site.Orderly)
    (moored : Hub.Moored lens.site lens.hub) (event : Event) :
    Hub.Moored (lens.act event).site (lens.act event).hub := by
  cases changes : event.changesCluster with
  | true =>
      have order := lens.act_keepsOrder event
      rw [act_hub changes]
      exact ⟨(order.orderly orderly).coherent, order.inCluster.trans moored.outside, moored.sane,
        moored.anchored⟩
  | false => exact (act_moves changes moored.sane).moves.moored orderly moored

/-- Outside a cluster the tasks of every run are anchored. -/
theorem run_moored {host : Host} (outside : host.inCluster = false) (settings : Settings)
    (events : List Event) :
    Hub.Moored ((onHost settings host).run events).site ((onHost settings host).run events).hub := by
  have initial : (onHost settings host).site.Orderly := run_orderly settings host []
  exact (run_induction (P := fun lens => lens.site.Orderly ∧ Hub.Moored lens.site lens.hub)
    (onHost settings host) events
    ⟨initial, initial.coherent, outside, List.forall_mem_nil _, List.forall_mem_nil _⟩
    fun before event _ ⟨orderly, moored⟩ =>
      ⟨(before.act_keepsOrder event).orderly orderly, act_moored orderly moored event⟩).2

end Lens

/-! ## Contexts -/

/-- Whether an event may start watches. -/
def Event.starts : Event → Bool
  | handleText _ _ | subscribe _ _ => true
  | _ => false

theorem Event.quiet {event : Event} (quiet : event.starts = false) {id : Nat}
    {happening : Happening} (permitted : event.Permits id happening) :
    happening.starts = false := by
  cases happening with
  | asks active? control =>
      rcases permitted with ⟨text, rfl, _⟩ | ⟨descriptor, rfl, _⟩ | ⟨descriptor, _, rfl⟩
      · cases quiet
      · cases quiet
      · rfl
  | _ => rfl

namespace Lens

variable {lens : Lens}

/-- Tasks that were there before an event have the same context after it. -/
theorem act_descends (sane : lens.hub.Sane) (event : Event) (id : Nat) :
    (lens.session id).Descends ((lens.act event).session id) := by
  cases outside : event.changesCluster with
  | true =>
      unfold Lens.session
      rw [act_hub outside]
      exact .refl _
  | false => exact (act_moves outside sane).moves.descends (sane.session id)

theorem put_binds (sane : lens.hub.Sane) {place : Nat} {session : Session}
    (binds : session.Binds (lens.session place).nextGeneration) (id : Nat) :
    ((lens.hub.put place session).session id).Binds (lens.session id).nextGeneration := by
  have still : (lens.session id).Binds (lens.session id).nextGeneration :=
    .of_tasks (sane.session id).coherent rfl
  by_cases same : place = id
  · subst same
    by_cases inside : place < lens.hub.sessions.length
    · rwa [Hub.session_put_self inside]
    · rwa [Hub.put_outside inside]
  · rwa [Hub.session_put_of_ne lens.hub same]

/-- The tasks that an event starts have the context that their session has afterwards. -/
theorem act_binds (sane : lens.hub.Sane) (event : Event) (id : Nat) :
    ((lens.act event).session id).Binds (lens.session id).nextGeneration := by
  have coherent := fun place => (sane.session place).coherent
  cases starts : event.starts with
  | false =>
      have next : ((lens.act event).session id).nextGeneration =
          (lens.session id).nextGeneration := by
        cases outside : event.changesCluster with
        | true =>
            unfold Lens.session
            rw [act_hub outside]
        | false => exact (act_moves outside sane).moves.next fun _ => Event.quiet starts
      rw [← next]
      exact .of_tasks ((act_sane event sane).session id).coherent rfl
  | true =>
      cases event with
      | handleText place text =>
          exact put_binds sane (Session.handleText_binds (coherent place) lens.current? text) id
      | subscribe place descriptor =>
          cases subscribed : (lens.session place).subscribe lens.current? descriptor with
          | error error =>
              have same : lens.act (.subscribe place descriptor) = lens := by
                unfold act Lens.subscribe
                dsimp only
                rw [subscribed]
              rw [same]
              exact .of_tasks (coherent id) rfl
          | ok session =>
              have same : (lens.act (.subscribe place descriptor)).hub =
                  lens.hub.put place session := by
                unfold act Lens.subscribe
                dsimp only
                rw [subscribed]
              unfold Lens.session
              rw [same]
              exact put_binds sane
                (Session.subscribe_binds (coherent place) lens.current? descriptor subscribed) id
      | _ => cases starts

/-- A watch keeps the context that its session had when the watch was started. -/
theorem run_context? {settings : Settings} {host : Host} {earlier later : List Event}
    {event : Event} {id generation : Nat}
    (old : (((onHost settings host).run earlier).session id).nextGeneration ≤ generation)
    (new : generation <
      ((((onHost settings host).run earlier).act event).session id).nextGeneration) :
    ∀ task ∈ (((onHost settings host).run (earlier ++ event :: later)).session id).tasks,
      task.generation = generation → task.context? =
        ((((onHost settings host).run earlier).act event).session id).context? := by
  have sane := run_sane settings host earlier
  have started := act_binds sane event id
  have kept : (((((onHost settings host).run earlier).act event).run later).hub.Sane ∧
      ((((onHost settings host).run earlier).act event).session id).Descends
        (((((onHost settings host).run earlier).act event).run later).session id)) :=
    run_induction (P := fun final => final.hub.Sane ∧
      ((((onHost settings host).run earlier).act event).session id).Descends (final.session id))
      _ later ⟨act_sane event sane, .refl _⟩
      fun before next _ ⟨saneBefore, descends⟩ =>
        ⟨act_sane next saneBefore, descends.trans (act_descends saneBefore next id)⟩
  rw [run_append, run_cons]
  rintro task present rfl
  obtain ⟨first, stored, becomes⟩ := kept.2.tasks task present new
  rw [← becomes.context?]
  exact started first stored (becomes.generation ▸ old)

end Lens
end KubeLens
