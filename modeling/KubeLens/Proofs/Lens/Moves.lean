import KubeLens.Proofs.Lens.Orderly
import KubeLens.Proofs.Watch.Deliveries
import KubeLens.Proofs.Watch.Moves

/-!
# Events as moves

An event either changes a cluster from outside, and then nothing else, or it is a series of moves
of the hub.  What an event may do to a session can be read off the event.
-/

namespace KubeLens

open Watch

namespace Event

/-- Whether somebody else than the service changes a cluster. -/
def changesCluster : Event → Bool
  | reshape _ _ | push _ _ _ | detach _ _ => true
  | _ => false

/-- Whether time passes in which tasks read their objects again. -/
def passes : Event → Bool
  | pass _ | check _ => true
  | _ => false

/-- Whether tasks make steps in an event. -/
def steps : Event → Bool
  | closeSession _ | shutdown | step _ _ | settle | pass _ | check _ => true
  | _ => false

/-- What an event may do to a session. -/
def Permits (event : Event) (id : Nat) : Happening → Prop
  | .asks _ control =>
    (∃ text, event = handleText id text ∧ Control.read? text = some control) ∨
    (∃ descriptor, event = subscribe id descriptor ∧ descriptor.IsValid ∧
      control = .subscribe (some descriptor) none) ∨
    ∃ descriptor, event = unsubscribe id descriptor ∧ control = .unsubscribe (some descriptor)
  | .garbles => ∃ text, event = handleText id text
  | .replies => True
  | .receives count => event = receive id count
  | .hangsUp => event = hangUp id
  | .closes => event = markClosed id ∨ event = closeSession id ∨ event = shutdown
  | .step _ _ => event.steps = true
  | .tick generation _ => event = tick id generation ∨ event.passes = true

theorem steps_of_passes {event : Event} (passes : event.passes = true) : event.steps = true := by
  cases event with
  | pass | check => rfl
  | _ => cases passes

end Event

namespace Lens

/-! ## Requests -/

theorem setContext_steady (lens : Lens) (name : String) :
    lens.site.fleet.Steady (lens.setContext name).2.site.fleet :=
  (lens.site.setActive_evolves name).steady

theorem start_steady (lens : Lens) : lens.site.fleet.Steady lens.start.site.fleet := by
  unfold Lens.start Switchboard.start
  dsimp only
  split
  · exact (lens.site.ensureActive_evolves inClusterContext).steady
  · exact .refl lens.site.fleet

@[simp] theorem removeContext_hub (lens : Lens) (name : String) :
    (lens.removeContext name).2.hub = lens.hub := by
  unfold Lens.removeContext
  dsimp only
  split <;> rfl

@[simp] theorem resolvePlural_hub (lens : Lens) (apiVersion kind : String)
    (context? : Option String) :
    (lens.resolvePlural apiVersion kind context?).2.hub = lens.hub := by
  unfold Lens.resolvePlural
  split
  · rfl
  · split <;> rfl

@[simp] theorem restore_hub (lens : Lens) (previous? : Option String) (probed : String) :
    (lens.restore previous? probed).hub = lens.hub := by
  unfold Lens.restore
  split <;> rfl

theorem restore_steady (lens : Lens) (previous? : Option String) (probed : String) :
    lens.site.fleet.Steady (lens.restore previous? probed).site.fleet := by
  unfold Lens.restore
  split
  · exact lens.setContext_steady _
  · exact .refl lens.site.fleet

theorem removeContext_steady (lens : Lens) (name : String) :
    lens.site.fleet.Steady (lens.removeContext name).2.site.fleet := by
  unfold Lens.removeContext Switchboard.removeContext
  dsimp only
  rcases Switchboard.dropContext lens.site.settings lens.site.host name with ⟨answer, host⟩
  cases answer with
  | error error => exact .refl lens.site.fleet
  | ok left =>
      by_cases active : (lens.site.board.unbar name).current = some name
      · simp only [active, if_true]
        cases Switchboard.promoted? left with
        | none => exact .refl lens.site.fleet
        | some next =>
            exact (Site.activate_evolves
              { lens.site with host, board := (lens.site.board.unbar name).disconnect }
              next).steady
      · simp only [active, if_false]
        exact .refl lens.site.fleet

theorem resolvePlural_steady (lens : Lens) (apiVersion kind : String)
    (context? : Option String) :
    lens.site.fleet.Steady (lens.resolvePlural apiVersion kind context?).2.site.fleet := by
  have resolved := (lens.site.resolve_evolves context?).steady
  unfold Lens.resolvePlural
  split
  · exact .refl lens.site.fleet
  · split
    · rename_i answer
      rwa [answer] at resolved
    · rename_i handle site answer
      rw [answer] at resolved
      exact resolved.trans (site.pluralOf_evolves handle.client _ kind none).steady

/-! ## Events -/

section Moves

variable {lens : Lens} {start : Site × Hub} {event : Event}
  (reaches : Hub.Reaches event.Permits start lens.site lens.hub)

include reaches

theorem serves {later : Lens} (steady : lens.site.fleet.Steady later.site.fleet)
    (order : lens.site.KeepsOrder later.site)
    (tried : lens.site.Attempts later.site ∨ event.steps = false) (same : later.hub = lens.hub) :
    Hub.Reaches event.Permits start later.site later.hub := by
  rw [same]
  refine reaches.move
    (.serves lens.hub steady order (tried.imp_right fun resting _ _ _ steps => ?_))
  exact absurd (resting.symm.trans steps) Bool.false_ne_true

theorem pass_moves (passes : event.passes = true) (span : Nat) :
    Hub.Reaches event.Permits start (lens.pass span).site (lens.pass span).hub :=
  Hub.advance_keeps (Hub.Reaches.replies fun _ => trivial)
    (Hub.Reaches.steps fun _ _ _ => Event.steps_of_passes passes)
    (Hub.Reaches.ticks fun _ _ _ => .inr passes) lens.hub lens.now span lens.site reaches

theorem check_moves (passes : event.passes = true) (context? : Option String) :
    Hub.Reaches event.Permits start (lens.check context?).2.site (lens.check context?).2.hub := by
  have resolved := (lens.site.resolve_evolves context?).steady
  have tried := (lens.site.resolve_evolves context?).attempts
  unfold Lens.check
  dsimp only
  split
  · rename_i answer
    rw [answer] at resolved tried
    exact serves reaches resolved tried.keepsOrder (.inl tried) rfl
  · rename_i handle site answer
    rw [answer] at resolved tried
    have probed := (handle.client.probe_asked site.fleet).steady
    have attempts : lens.site.Attempts { site with fleet := (handle.client.probe site.fleet).2 } :=
      tried.trans (site.probe_attempts handle.client)
    have asked : Hub.Reaches event.Permits start
        { site with fleet := (handle.client.probe site.fleet).2 } lens.hub :=
      reaches.move (.serves lens.hub (resolved.trans probed) attempts.keepsOrder (.inl attempts))
    have passed := @pass_moves
      { lens with site := { site with fleet := (handle.client.probe site.fleet).2 } } start event
      asked passes
    exact serves (passed _) (restore_steady _ _ _) (restore_attempts _ _ _).keepsOrder
      (.inl (restore_attempts _ _ _)) (restore_hub _ _ _)

theorem stepTask_moves (steps : event.steps = true) (id generation : Nat) :
    Hub.Reaches event.Permits start (lens.stepTask id generation).site
      (lens.stepTask id generation).hub := by
  unfold Lens.stepTask
  split
  · rename_i task chosen
    obtain ⟨found, able⟩ := Option.filter_eq_some_iff.mp chosen
    obtain ⟨present, rfl⟩ := Session.task?_eq_some found
    dsimp only
    rw [Hub.stepTask_eq_happen reaches.sane present able]
    exact reaches.happen steps trivial
  · exact reaches

theorem tickTask_moves {id generation : Nat} (ticks : event = .tick id generation) :
    Hub.Reaches event.Permits start (lens.tickTask id generation).site
      (lens.tickTask id generation).hub := by
  unfold Lens.tickTask
  split
  · dsimp only
    rw [← Hub.happen_tick]
    exact reaches.happen (.inl ticks) trivial
  · exact reaches

theorem handleText_moves {id : Nat} {text : String} (hears : event = .handleText id text) :
    Hub.Reaches event.Permits start (lens.handleText id text).site
      (lens.handleText id text).hub := by
  unfold Lens.handleText Lens.modifySession Session.handleText
  dsimp only
  cases read : Control.read? text with
  | some control => exact reaches.move (.happens lens.site lens.hub id (.asks lens.current? control)
      (.inl ⟨text, hears, read⟩) rfl)
  | none => exact reaches.move (.happens lens.site lens.hub id .garbles ⟨text, hears⟩ trivial)

theorem subscribe_moves {id : Nat} {descriptor : Descriptor}
    (subscribes : event = .subscribe id descriptor) :
    Hub.Reaches event.Permits start (lens.subscribe id descriptor).2.site
      (lens.subscribe id descriptor).2.hub := by
  unfold Lens.subscribe
  split
  · exact reaches
  · rename_i session subscribed
    have valid := (Session.subscribe_isOk _ _ descriptor).mp ⟨session, subscribed⟩
    have heard := reaches.move (.happens lens.site lens.hub id
      (.asks lens.current? (.subscribe (some descriptor) none))
      (.inr (.inl ⟨descriptor, subscribes, valid, rfl⟩)) rfl)
    unfold Hub.happen Happening.turn Session.handle at heard
    dsimp only at heard
    rw [Lens.session] at subscribed
    rwa [subscribed] at heard

end Moves

/-- An event that does not change a cluster from outside is a series of moves that it permits. -/
theorem act_moves {lens : Lens} {event : Event} (inside : event.changesCluster = false)
    (sane : lens.hub.Sane) :
    Hub.Reaches event.Permits (lens.site, lens.hub) (lens.act event).site
      (lens.act event).hub := by
  have initial : Hub.Reaches event.Permits (lens.site, lens.hub) lens.site lens.hub := .refl sane
  have steady := Fleet.Steady.refl lens.site.fleet
  have order := lens.act_keepsOrder event
  cases event with
  | start => exact serves initial lens.start_steady order (.inr rfl) rfl
  | resolve context? =>
      exact serves initial (lens.site.resolve_evolves context?).steady order (.inr rfl) rfl
  | activate name =>
      exact serves initial (lens.site.activate_evolves name).steady order (.inr rfl) rfl
  | setContext name => exact serves initial (lens.setContext_steady name) order (.inr rfl) rfl
  | addContexts raw => exact serves initial steady order (.inr rfl) rfl
  | removeContext name =>
      exact serves initial (lens.removeContext_steady name) order
        (.inr rfl) (lens.removeContext_hub name)
  | clearFailed name => exact serves initial steady order (.inr rfl) rfl
  | check context? => exact check_moves initial rfl context?
  | list request =>
      exact serves initial (lens.site.list_evolves request).steady order (.inr rfl) rfl
  | get request => exact serves initial (lens.site.get_evolves request).steady order (.inr rfl) rfl
  | events kind name rawSpace? context? =>
      exact serves initial (lens.site.events_evolves kind name rawSpace? context?).steady order
        (.inr rfl) rfl
  | resolvePlural apiVersion kind context? =>
      exact serves initial (lens.resolvePlural_steady apiVersion kind context?) order (.inr rfl)
        (lens.resolvePlural_hub apiVersion kind context?)
  | managed clock context? force =>
      exact serves initial (lens.site.managed_evolves lens.cache clock context? force).steady order
        (.inr rfl) rfl
  | clearManaged => exact initial
  | openSession context? => exact initial.move (.opens lens.site lens.hub context?)
  | handleText id text => exact handleText_moves initial rfl
  | subscribe id descriptor => exact subscribe_moves initial rfl
  | unsubscribe id descriptor =>
      exact initial.move (.happens lens.site lens.hub id
        (.asks lens.current? (.unsubscribe (some descriptor)))
        (.inr (.inr ⟨descriptor, rfl, rfl⟩)) rfl)
  | reply id => exact initial.move (.happens lens.site lens.hub id .replies trivial trivial)
  | receive id count =>
      exact initial.move (.happens lens.site lens.hub id (.receives count) rfl trivial)
  | hangUp id => exact initial.move (.happens lens.site lens.hub id .hangsUp rfl trivial)
  | markClosed id => exact initial.move (.happens lens.site lens.hub id .closes (.inl rfl) trivial)
  | closeSession id =>
      exact initial.closeSession (fun _ _ _ => rfl) (.inr (.inl rfl))
  | shutdown => exact initial.shutdown (fun _ _ _ => rfl) fun _ => .inr (.inr rfl)
  | step id generation => exact stepTask_moves initial rfl id generation
  | tick id generation => exact tickTask_moves initial rfl
  | wait => exact initial
  | settle =>
      exact Hub.settle_keeps (Hub.Reaches.replies fun _ => trivial)
        (Hub.Reaches.steps fun _ _ _ => rfl) lens.hub lens.now lens.site initial
  | pass span => exact pass_moves initial rfl span
  | write file => exact serves initial steady order (.inr rfl) rfl
  | obstruct faults => exact serves initial steady order (.inr rfl) rfl
  | isolate unreachable => exact serves initial ⟨steady.contents, id⟩ order (.inr rfl) rfl
  | reshape => cases inside
  | push => cases inside
  | detach => cases inside

/-- A change of a cluster from outside leaves the hub alone. -/
theorem act_hub {lens : Lens} {event : Event} (outside : event.changesCluster = true) :
    (lens.act event).hub = lens.hub := by
  cases event with
  | reshape | push | detach => rfl
  | _ => cases outside

/-- A change of a cluster from outside only delivers to feeds and ends them. -/
theorem act_delivers {lens : Lens} {event : Event} (outside : event.changesCluster = true) :
    lens.site.fleet.Delivers (lens.act event).site.fleet := by
  cases event with
  | reshape context content =>
      exact lens.site.fleet.put_delivers fun _ => Feeds.rel_receives_refl _
  | push context address item =>
      exact lens.site.fleet.put_delivers (Feeds.push_receive _ address item)
  | detach context address =>
      exact lens.site.fleet.put_delivers (Feeds.detachAll_receive _ address)
  | _ => cases outside

theorem act_sane {lens : Lens} (event : Event) (sane : lens.hub.Sane) :
    (lens.act event).hub.Sane := by
  cases outside : event.changesCluster with
  | true =>
      rw [act_hub outside]
      exact sane
  | false => exact (act_moves outside sane).sane

theorem sane_run {lens : Lens} (sane : lens.hub.Sane) (events : List Event) :
    (lens.run events).hub.Sane :=
  run_induction (P := fun lens => lens.hub.Sane) lens events sane fun _ event _ sane =>
    act_sane event sane

theorem run_sane (settings : Settings) (host : Host) (events : List Event) :
    ((onHost settings host).run events).hub.Sane :=
  sane_run (fun _ absent => absurd absent List.not_mem_nil) events

/-- Every session of a run lives through a history of its own. -/
theorem run_lives (settings : Settings) (host : Host) (events : List Event) :
    ∀ session ∈ ((onHost settings host).run events).hub.sessions, session.Lives := by
  refine (run_induction (P := fun lens =>
    lens.hub.Sane ∧ ∀ session ∈ lens.hub.sessions, session.Lives) (onHost settings host) events
    ⟨run_sane settings host [], List.forall_mem_nil _⟩ ?_).2
  intro before event _ ⟨sane, lives⟩
  refine ⟨act_sane event sane, ?_⟩
  cases outside : event.changesCluster with
  | true =>
      rw [act_hub outside]
      exact lives
  | false => exact (act_moves outside sane).moves.lives lives

end Lens
end KubeLens
