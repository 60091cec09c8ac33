import KubeLens.Proofs.Lens.Closing
import KubeLens.Proofs.Server.Connections

/-!
# The sessions of a server

Which sessions a hub counts changes only when a session is opened or closed and when the program
shuts down.  Whatever happens to a session, it takes back nothing that it said, and once it is
closed it gets no new tasks.
-/

namespace KubeLens

open Watch

namespace Watch

/-! ## What a session said -/

namespace Session

variable {session : Session}

/-- Nothing that was said is taken back, and a cancelled session says nothing more. -/
theorem happening_outbox (session : Session) (site : Site) (happening : Happening) :
    session.outbox <+: (happening.turn (site, session)).2.outbox ∧
      (session.isCancelled = true →
        (happening.turn (site, session)).2.outbox = session.outbox) := by
  have uttered {origin : Option Nat} {after : Session} (utters : Utters origin session after) :
      session.outbox <+: after.outbox ∧
        (session.isCancelled = true → after.outbox = session.outbox) := by
    obtain ⟨messages, outbox⟩ := utters.outbox
    refine ⟨outbox ▸ List.prefix_append _ _, fun cancelled => utters.offline fun online => ?_⟩
    exact Bool.false_ne_true (online.1.symm.trans cancelled)
  have deed := happening.deed (site, session)
  generalize happening.turn (site, session) = after at deed
  cases deed with
  | asks active? control => exact uttered (handle_utters session active? control)
  | owes messages => exact uttered (owe_utters session messages)
  | replies => exact uttered session.reply_utters
  | receives => exact ⟨List.prefix_refl _, fun _ => rfl⟩
  | hangsUp => exact ⟨List.prefix_refl _, fun _ => rfl⟩
  | closes => exact ⟨List.prefix_refl _, fun _ => rfl⟩
  | steps task present able due => exact uttered (task.step_utters due (site, session))
  | ticks task present period => exact uttered (task.tick_utters period (site, session))
  | rests => exact ⟨List.prefix_refl _, fun _ => rfl⟩

/-- Closed sessions get no new tasks. -/
theorem Shut.turn_tasks (shut : session.Shut) (site : Site) (happening : Happening) :
    ∀ task ∈ (happening.turn (site, session)).2.tasks,
      ∃ earlier ∈ session.tasks, earlier.generation = task.generation := by
  have aftermath := shut.aftermath site happening
  generalize happening.turn (site, session) = after at aftermath
  cases aftermath with
  | rests => exact fun task present => ⟨task, present, rfl⟩
  | winds winding present =>
      intro task left
      unfold Task.windUp at left
      split at left
      · have entered : task ∈ ((session.deregister winding).setPhase winding.generation _).tasks :=
          left
        rw [setPhase_tasks _ _ (session.deregister_tasks winding)] at entered
        obtain ⟨earlier, stored, rfl⟩ := List.mem_map.mp entered
        refine ⟨earlier, stored, ?_⟩
        split <;> rfl
      · exact ⟨task, (List.mem_filter.mp left).1, rfl⟩

end Session

/-! ## Which sessions are counted -/

namespace Hub

/-- Which sessions are counted, by place. -/
def listing (hub : Hub) : List Bool :=
  hub.sessions.map (·.isListed)

theorem length_listing (hub : Hub) : hub.listing.length = hub.sessions.length :=
  List.length_map _

theorem sessionCount_eq_listing (hub : Hub) : hub.sessionCount = hub.listing.countP id := by
  unfold sessionCount listing
  rw [List.countP_map]
  rfl

theorem listing_put (hub : Hub) (id : Nat) (session : Session) :
    (hub.put id session).listing = hub.listing.set id session.isListed := by
  unfold listing put
  rw [List.map_set]

theorem listing_put_same {hub : Hub} {id : Nat} {session : Session}
    (same : session.isListed = (hub.session id).isListed) :
    (hub.put id session).listing = hub.listing := by
  by_cases inside : id < hub.sessions.length
  · rw [listing_put, same, session_eq_getElem inside]
    exact (congrArg (hub.listing.set id) (List.getElem_map _).symm).trans
      (List.set_getElem_self (hub.length_listing.symm ▸ inside))
  · rw [put_outside inside]

theorem listing_openSession (hub : Hub) (context? : Option String) :
    (hub.openSession context?).2.listing = hub.listing ++ [true] := by
  unfold listing openSession
  rw [List.map_append]
  rfl

theorem listing_runTask {hub : Hub} {act : Task → Turn → Turn} (site : Site) (id generation : Nat)
    (same : ∀ task turn, (act task turn).2.isListed = turn.2.isListed) :
    (runTask site hub id generation act).2.listing = hub.listing := by
  unfold runTask
  split
  · rfl
  · exact listing_put_same (same _ (site, hub.session id))

theorem listing_reply (hub : Hub) (id : Nat) :
    (hub.put id (hub.session id).reply).listing = hub.listing :=
  listing_put_same (hub.session id).reply_utters.listed

theorem listing_replies (flags : List Bool) : KeptByReplies fun _ hub => hub.listing = flags :=
  fun _ hub id _ holds => (listing_reply hub id).trans holds

theorem listing_steps (flags : List Bool) : KeptBySteps fun _ hub => hub.listing = flags :=
  fun _ site _ id generation _ holds =>
    (listing_runTask site id generation fun task turn => (task.step_utters _ turn).listed).trans
      holds

theorem listing_ticks (flags : List Bool) : KeptByTicks fun _ hub => hub.listing = flags :=
  fun _ site _ id generation holds =>
    (listing_runTask site id generation fun task turn => (task.tick_utters _ turn).listed).trans
      holds

end Hub
end Watch

namespace Lens

variable {lens : Lens}

/-! ## Events -/

theorem listing_pass (lens : Lens) (span : Nat) :
    (lens.pass span).hub.listing = lens.hub.listing :=
  Hub.advance_keeps (Hub.listing_replies _) (Hub.listing_steps _) (Hub.listing_ticks _) lens.hub
    lens.now span lens.site rfl

theorem listing_check (lens : Lens) (context? : Option String) :
    (lens.check context?).2.hub.listing = lens.hub.listing := by
  unfold check
  dsimp only
  split
  · rfl
  · rw [restore_hub, listing_pass]

theorem listing_stepTask (lens : Lens) (id generation : Nat) :
    (lens.stepTask id generation).hub.listing = lens.hub.listing := by
  unfold stepTask
  split
  · exact Hub.listing_runTask _ _ _ fun task turn => (task.step_utters _ turn).listed
  · rfl

theorem listing_tickTask (lens : Lens) (id generation : Nat) :
    (lens.tickTask id generation).hub.listing = lens.hub.listing := by
  unfold tickTask
  split
  · exact Hub.listing_runTask _ _ _ fun task turn => (task.tick_utters _ turn).listed
  · rfl

/-- An event that no connection brings about changes nothing about which sessions are counted,
unless it is a shutdown. -/
theorem act_listing (lens : Lens) {event : Event} (foreign : event.isForeign = true)
    (up : event ≠ .shutdown) : (lens.act event).hub.listing = lens.hub.listing := by
  cases event with
  | removeContext name => exact congrArg Hub.listing (lens.removeContext_hub name)
  | resolvePlural apiVersion kind context? =>
      exact congrArg Hub.listing (lens.resolvePlural_hub apiVersion kind context?)
  | check context? => exact lens.listing_check context?
  | step id generation => exact lens.listing_stepTask id generation
  | tick id generation => exact lens.listing_tickTask id generation
  | settle =>
      exact Hub.settle_keeps (Hub.listing_replies _) (Hub.listing_steps _) lens.hub lens.now
        lens.site rfl
  | reply id => exact Hub.listing_reply lens.hub id
  | pass span => exact lens.listing_pass span
  | shutdown => exact absurd rfl up
  | openSession context? => cases foreign
  | handleText id text => cases foreign
  | subscribe id descriptor => cases foreign
  | unsubscribe id descriptor => cases foreign
  | receive id count => cases foreign
  | hangUp id => cases foreign
  | markClosed id => cases foreign
  | closeSession id => cases foreign
  | _ => rfl

/-- Such an event opens no session. -/
theorem act_length {lens : Lens} (sane : lens.hub.Sane) {event : Event}
    (foreign : event.isForeign = true) :
    (lens.act event).hub.sessions.length = lens.hub.sessions.length := by
  by_cases down : event = .shutdown
  · rw [down]
    exact (Hub.shutdown_shutsDown sane lens.site).length
  · rw [← Hub.length_listing, act_listing lens foreign down, Hub.length_listing]

theorem handleText_listed (lens : Lens) (id : Nat) (text : String) :
    (lens.handleText id text).hub.listing = lens.hub.listing := by
  refine Hub.listing_put_same ?_
  unfold Session.handleText
  split
  · exact (Session.handle_utters _ _ _).listed
  · rfl

/-- A peer that receives takes back nothing that was sent. -/
theorem receive_outbox (lens : Lens) (id count : Nat) :
    ((lens.receive id count).session id).outbox = (lens.session id).outbox := by
  unfold Lens.receive Lens.modifySession Lens.session
  by_cases inside : id < lens.hub.sessions.length
  · rw [Hub.session_put_self inside]
    rfl
  · rw [Hub.put_outside inside]

end Lens
end KubeLens
