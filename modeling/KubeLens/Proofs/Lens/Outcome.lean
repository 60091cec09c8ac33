import KubeLens.Proofs.Lens.Run
import KubeLens.Proofs.Site.Attempts
import KubeLens.Proofs.Switchboard.Storing

/-!
# What an event does to the switchboard

An event attempts to connect, changes the surroundings, adds contexts, clears one, or removes
one.  The cases below say this once for all events, so that a law of the switchboard needs one
argument for each case and none for each event.
-/

namespace KubeLens

/-- Two sites whose surroundings may differ: what clusters hold, and who can be reached. -/
structure Site.SameConnections (before after : Site) : Prop where
  settings : after.settings = before.settings
  inCluster : after.host.inCluster = before.host.inCluster
  board : after.board = before.board
  connects : after.fleet.connects = before.fleet.connects

/-- What an event can do to a site. -/
inductive Site.Outcome (site : Site) : Event → Site → Prop
  /-- Some attempts to connect. -/
  | attempts {event : Event} {after : Site} (attempts : site.Attempts after) :
      Outcome site event after
  /-- A change of the surroundings. -/
  | surroundings {event : Event} {after : Site} (same : site.SameConnections after)
      (document : event.writesFile = false → after.host.kubeconfig = site.host.kubeconfig) :
      Outcome site event after
  /-- Contexts are added to the stored document. -/
  | added (raw : String) {names : List String} {host : Host}
      (stored : Switchboard.addContexts site.settings site.host raw = (.ok names, host)) :
      Outcome site (.addContexts raw) { site with host }
  /-- A context is no longer barred. -/
  | cleared (name : String) :
      Outcome site (.clearFailed name)
        { site with board := site.board.clearFailed site.host name }
  /-- A context is dropped from the stored document, and another one may be promoted. -/
  | removed (name : String) {left : Kubeconfig} {host : Host} {after : Site}
      (dropped : Switchboard.dropContext site.settings site.host name = (.ok left, host))
      (promoted : Site.Attempts { site with host, board := site.board.forget name } after) :
      Outcome site (.removeContext name) after

theorem Site.Outcome.settings {site after : Site} {event : Event}
    (outcome : site.Outcome event after) : after.settings = site.settings := by
  cases outcome with
  | attempts attempts => exact attempts.settings
  | surroundings same => exact same.settings
  | added => rfl
  | cleared => rfl
  | removed name dropped promoted => exact promoted.settings

namespace Lens

/-! ## Requests -/

theorem start_attempts (lens : Lens) : lens.site.Attempts lens.start.site := by
  unfold Lens.start Switchboard.start
  dsimp only
  split
  · exact (lens.site.ensureActive_evolves inClusterContext).attempts
  · exact .refl lens.site

theorem setContext_attempts (lens : Lens) (name : String) :
    lens.site.Attempts (lens.setContext name).2.site :=
  (lens.site.setActive_evolves name).attempts

theorem restore_attempts (lens : Lens) (previous? : Option String) (probed : String) :
    lens.site.Attempts (lens.restore previous? probed).site := by
  unfold Lens.restore
  split
  · exact lens.setContext_attempts _
  · exact .refl lens.site

theorem pass_attempts (lens : Lens) (span : Nat) :
    lens.site.Attempts (lens.pass span).site :=
  lens.hub.advance_attempts lens.now span lens.site

theorem settle_attempts (lens : Lens) : lens.site.Attempts lens.settle.site :=
  lens.hub.settle_attempts lens.now lens.site

/-- A probe resolves its context, asks it, lets time pass, and makes the previous context active
again. -/
theorem check_attempts (lens : Lens) (context? : Option String) :
    lens.site.Attempts (lens.check context?).2.site := by
  have resolved := (lens.site.resolve_evolves context?).attempts
  unfold Lens.check
  dsimp only
  split
  · rename_i answer
    rwa [answer] at resolved
  · rename_i handle site answer
    rw [answer] at resolved
    have asked := site.probe_attempts handle.client
    have waited := pass_attempts
      { lens with site := { site with fleet := (handle.client.probe site.fleet).2 } }
      (min (handle.client.probe site.fleet).1.2 site.settings.probeTimeout)
    exact ((resolved.trans asked).trans waited).trans (restore_attempts _ _ _)

theorem resolvePlural_attempts (lens : Lens) (apiVersion kind : String)
    (context? : Option String) :
    lens.site.Attempts (lens.resolvePlural apiVersion kind context?).2.site := by
  have resolved := (lens.site.resolve_evolves context?).attempts
  unfold Lens.resolvePlural
  split
  · exact .refl lens.site
  · split
    · rename_i answer
      rwa [answer] at resolved
    · rename_i handle site answer
      rw [answer] at resolved
      exact resolved.trans (site.pluralOf_evolves handle.client _ kind none).attempts

theorem subscribe_site (lens : Lens) (id : Nat) (descriptor : Watch.Descriptor) :
    (lens.subscribe id descriptor).2.site = lens.site := by
  unfold Lens.subscribe
  split <;> rfl

theorem stepTask_attempts (lens : Lens) (id generation : Nat) :
    lens.site.Attempts (lens.stepTask id generation).site := by
  unfold Lens.stepTask
  split
  · exact Watch.Hub.stepTask_attempts lens.now lens.site lens.hub id generation
  · exact .refl lens.site

theorem tickTask_attempts (lens : Lens) (id generation : Nat) :
    lens.site.Attempts (lens.tickTask id generation).site := by
  unfold Lens.tickTask
  split
  · exact Watch.Hub.tickTask_attempts lens.hub.period lens.site lens.hub id generation
  · exact .refl lens.site

theorem closeSession_attempts (lens : Lens) (id : Nat) :
    lens.site.Attempts (lens.closeSession id).site :=
  (lens.hub.closeSession_sameBoard lens.site id).attempts

theorem shutdown_attempts (lens : Lens) : lens.site.Attempts lens.shutdown.site :=
  (lens.hub.shutdown_sameBoard lens.site).attempts

/-! ## Contexts -/

theorem addContexts_outcome (lens : Lens) (raw : String) :
    lens.site.Outcome (.addContexts raw) (lens.addContexts raw).2.site := by
  unfold Lens.addContexts
  rcases Switchboard.addContexts_cases lens.site.settings lens.site.host raw with
    ⟨_, refused⟩ | ⟨_, _, _, _, _, _, _, added⟩
  · rw [refused]
    exact .attempts (.refl lens.site)
  · rw [added]
    exact .added raw added

/-- A removal succeeds when the context can be dropped from the stored document. -/
theorem removeContext_isOk (lens : Lens) (name : String) :
    (lens.removeContext name).1.isOk =
      (Switchboard.dropContext lens.site.settings lens.site.host name).1.isOk := by
  unfold Lens.removeContext Switchboard.removeContext
  dsimp only
  rcases Switchboard.dropContext lens.site.settings lens.site.host name with ⟨answer, host⟩
  cases answer with
  | error error => rfl
  | ok left =>
      by_cases active : (lens.site.board.unbar name).current = some name
      · simp only [active, if_true]
        cases Switchboard.promoted? left <;> rfl
      · simp only [active, if_false]
        rfl

theorem removeContext_dropped {lens : Lens} {name : String}
    (succeeded : (lens.removeContext name).1.isOk = true) :
    ∃ left host, Switchboard.dropContext lens.site.settings lens.site.host name =
      (.ok left, host) := by
  rw [lens.removeContext_isOk] at succeeded
  rcases Switchboard.dropContext_cases lens.site.settings lens.site.host name with
    ⟨_, refused⟩ | ⟨_, left, host, _, _, _, _, dropped⟩
  · rw [refused] at succeeded
    cases succeeded
  · exact ⟨left, host, dropped⟩

/-- Removing a context that is not active promotes none. -/
theorem removeContext_inactive {lens : Lens} {name : String} {left : Kubeconfig} {host : Host}
    (dropped : Switchboard.dropContext lens.site.settings lens.site.host name = (.ok left, host))
    (inactive : lens.site.board.current ≠ some name) :
    (lens.removeContext name).2.site =
      { lens.site with host, board := lens.site.board.forget name } := by
  unfold Lens.removeContext Switchboard.removeContext Switchboard.forget
  simp [dropped, inactive]

/-- A removal that is refused changes nothing. -/
theorem removeContext_of_refused {lens : Lens} {name : String} {error : ServiceError}
    (refused : Switchboard.dropContext lens.site.settings lens.site.host name =
      (.error error, lens.site.host)) :
    lens.removeContext name = (.error error, lens) := by
  unfold Lens.removeContext Switchboard.removeContext
  simp only [refused]

/-- A removal that fails changes nothing.  One that succeeds forgets the context and may then
attempt to connect to the context that is promoted. -/
theorem removeContext_outcome (lens : Lens) (name : String) :
    lens.site.Outcome (.removeContext name) (lens.removeContext name).2.site := by
  rcases Switchboard.dropContext_cases lens.site.settings lens.site.host name with
    ⟨_, refused⟩ | ⟨_, left, host, _, _, _, _, dropped⟩
  · rw [removeContext_of_refused refused]
    exact .attempts (.refl lens.site)
  · refine .removed name dropped ?_
    by_cases active : lens.site.board.current = some name
    · have forgotten :
          lens.site.board.forget name = (lens.site.board.unbar name).disconnect := by
        simp [Switchboard.forget, active]
      unfold Lens.removeContext Switchboard.removeContext
      simp only [dropped, Switchboard.unbar_current, active, if_true, forgotten]
      cases Switchboard.promoted? left with
      | none => exact .refl _
      | some next =>
          exact (Site.activate_evolves
            { lens.site with host, board := (lens.site.board.unbar name).disconnect }
            next).attempts
    · rw [removeContext_inactive dropped active]

/-! ## Events -/

/-- Every event has one of the outcomes. -/
theorem act_outcome (lens : Lens) (event : Event) :
    lens.site.Outcome event (lens.act event).site := by
  have unchanged : ∀ event, lens.site.Outcome event lens.site :=
    fun _ => .attempts (.refl lens.site)
  cases event with
  | start => exact .attempts lens.start_attempts
  | resolve context? => exact .attempts (lens.site.resolve_evolves context?).attempts
  | activate name => exact .attempts (lens.site.activate_evolves name).attempts
  | setContext name => exact .attempts (lens.setContext_attempts name)
  | addContexts raw => exact lens.addContexts_outcome raw
  | removeContext name => exact lens.removeContext_outcome name
  | clearFailed name => exact .cleared name
  | check context? => exact .attempts (lens.check_attempts context?)
  | list request => exact .attempts (lens.site.list_evolves request).attempts
  | get request => exact .attempts (lens.site.get_evolves request).attempts
  | events kind name rawSpace? context? =>
      exact .attempts (lens.site.events_evolves kind name rawSpace? context?).attempts
  | resolvePlural apiVersion kind context? =>
      exact .attempts (lens.resolvePlural_attempts apiVersion kind context?)
  | managed clock context? force =>
      exact .attempts (lens.site.managed_evolves lens.cache clock context? force).attempts
  | clearManaged => exact unchanged _
  | openSession => exact unchanged _
  | handleText => exact unchanged _
  | subscribe id descriptor =>
      rw [Lens.act, lens.subscribe_site id descriptor]
      exact unchanged _
  | unsubscribe => exact unchanged _
  | reply => exact unchanged _
  | receive => exact unchanged _
  | hangUp => exact unchanged _
  | markClosed => exact unchanged _
  | closeSession id => exact .attempts (lens.closeSession_attempts id)
  | shutdown => exact .attempts lens.shutdown_attempts
  | step id generation => exact .attempts (lens.stepTask_attempts id generation)
  | tick id generation => exact .attempts (lens.tickTask_attempts id generation)
  | wait => exact unchanged _
  | settle => exact .attempts lens.settle_attempts
  | pass span => exact .attempts (lens.pass_attempts span)
  | write file => exact .surroundings ⟨rfl, rfl, rfl, rfl⟩ nofun
  | obstruct faults => exact .surroundings ⟨rfl, rfl, rfl, rfl⟩ fun _ => rfl
  | isolate unreachable => exact .surroundings ⟨rfl, rfl, rfl, rfl⟩ fun _ => rfl
  | reshape context content => exact .surroundings ⟨rfl, rfl, rfl, rfl⟩ fun _ => rfl
  | push context address item => exact .surroundings ⟨rfl, rfl, rfl, rfl⟩ fun _ => rfl
  | detach context address => exact .surroundings ⟨rfl, rfl, rfl, rfl⟩ fun _ => rfl

end Lens
end KubeLens
