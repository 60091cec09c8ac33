import KubeLens.Proofs.Lens.Opening
import KubeLens.Proofs.Lens.Orderly
import KubeLens.Proofs.Watch.Phases

/-!
# Checks

A check makes the context that it probes the active one, and afterwards activates the one that
was active before.  That second activation can fail like any other one.  The check does not
report this, and the connection stays as the failed activation leaves it.
-/

namespace KubeLens
namespace Lens

/-! ## The parts of a check -/

/-- The service when a probe was sent over a connection. -/
def probed (lens : Lens) (handle : Handle) : Lens :=
  { lens with site := { lens.site with fleet := (handle.client.probe lens.site.fleet).2 } }

/-- The service when the probe was answered, or was given up. -/
def waited (lens : Lens) (handle : Handle) : Lens :=
  (lens.probed handle).pass
    (min (handle.client.probe lens.site.fleet).1.2 lens.site.settings.probeTimeout)

/-- What the probe says. -/
def finding (lens : Lens) (handle : Handle) : Except ServiceError Bool :=
  verdict (handle.client.probe lens.site.fleet).1.1 (handle.client.probe lens.site.fleet).1.2
    lens.site.settings.probeTimeout

theorem check_of_error {lens : Lens} {context? : Option String} {error : ServiceError}
    (failed : (lens.site.resolve context?).1 = .error error) :
    lens.check context? = (.error error, lens.act (.resolve context?)) := by
  have looked : lens.act (.resolve context?) =
      { lens with site := (lens.site.resolve context?).2 } := rfl
  rw [looked]
  unfold check
  split <;> rename_i answer <;> rw [answer] at failed ⊢ <;> cases failed
  rfl

theorem check_of_ok {lens : Lens} {context? : Option String} {handle : Handle}
    (found : (lens.site.resolve context?).1 = .ok handle) :
    lens.check context? =
      ((lens.act (.resolve context?)).finding handle,
        ((lens.act (.resolve context?)).waited handle).restore lens.current? handle.context) := by
  have looked : lens.act (.resolve context?) =
      { lens with site := (lens.site.resolve context?).2 } := rfl
  rw [looked]
  unfold check
  split <;> rename_i answer <;> rw [answer] at found ⊢ <;> cases found
  rfl

/-- Waiting for the answer changes neither the store nor who can be reached. -/
theorem waited_attempts (lens : Lens) (handle : Handle) :
    lens.site.Attempts (lens.waited handle).site :=
  (lens.site.probe_attempts handle.client).trans (pass_attempts (lens.probed handle) _)

/-- While all tasks have a connection, waiting leaves the switchboard alone. -/
theorem waited_board {lens : Lens} (connected : lens.hub.IsConnected) (handle : Handle) :
    (lens.waited handle).site.board = lens.site.board := by
  have kept := Watch.Hub.advance_keeps (Watch.Hub.replies_keep_board lens.site.board)
    (Watch.Hub.steps_keep_board lens.site.board) (Watch.Hub.ticks_keep_board lens.site.board) lens.hub lens.now
    (min (handle.client.probe lens.site.fleet).1.2 lens.site.settings.probeTimeout)
    (lens.probed handle).site ⟨connected, rfl⟩
  exact kept.2

/-! ## Restoring -/

/-- What is left when the active context is to be `previous` again after a probe of another one.
Nothing happens when it was `previous` that was probed. -/
structure Restores (previous probed : String) (waiting after : Lens) : Prop where
  stays : probed = previous → after = waiting
  isOn_iff : probed ≠ previous →
    (after.site.board.IsOn previous ↔ waiting.site.Opens previous)
  otherwise : probed ≠ previous → ¬ waiting.site.Opens previous →
    after.site.board.handle? = waiting.site.board.handle?

theorem restore_restores {waiting : Lens} (coherent : waiting.site.board.Coherent)
    {previous : String} (named : Switchboard.target waiting.site.host previous = previous)
    (probed : String) :
    Restores previous probed waiting (waiting.restore (some previous) probed) := by
  unfold restore
  by_cases same : probed = previous
  · subst same
    simp only [Option.filter_some, bne_self_eq_false, Bool.false_eq_true, if_false]
    exact ⟨fun _ => rfl, fun different => absurd rfl different,
      fun different => absurd rfl different⟩
  · have kept : (some previous).filter (· != probed) = some previous := by
      simpa [Option.filter_some] using Ne.symm same
    rw [kept]
    have closed : ¬ waiting.site.Opens previous →
        (waiting.setContext previous).2.site.board.handle? = waiting.site.board.handle? :=
      fun closed => (Site.setActive_of_not_opens coherent closed).2
    refine ⟨fun equal => absurd equal same, fun _ => ⟨fun isOn => ?_, fun opens => ?_⟩,
      fun _ => closed⟩
    · by_contra unopened
      have before := isOn.of_handle? (closed unopened).symm
      have active := coherent.isOn_iff.mp before
      exact unopened (.inl (named.symm ▸ active))
    · have isOn := (Site.setActive_of_opens coherent opens).2
      rwa [named] at isOn

/-- A context that was active before another one was found can be activated again, if meanwhile
nothing touched the switchboard, and the store and the connector allow it. -/
theorem opens_again_iff {lens : Lens} {waiting : Site} {previous other : String} {client : Client}
    (sound : lens.site.Sound) (active : lens.current? = some previous)
    (named : Switchboard.target lens.site.host previous = previous)
    (attempts : lens.site.Attempts waiting) (different : other ≠ previous)
    (found : waiting.board.handle? = some ⟨other, client⟩)
    (bars : waiting.board.failed ⊆ lens.site.board.failed) :
    waiting.Opens previous ↔
      lens.site.Describes previous ∧ previous ∉ lens.site.fleet.unreachable := by
  have inactive : waiting.board.current ≠ some previous := by
    rw [(Switchboard.handle?_eq_some_iff.mp found).1]
    exact fun same => different (Option.some.inj same)
  have unbarred : previous ∉ waiting.board.failed :=
    fun barred => sound.coherent.current_not_failed previous active (bars barred)
  unfold Site.Opens Site.Describes
  rw [attempts.host, attempts.settings, attempts.unreachable, named]
  constructor
  · rintro (current | ⟨_, described, reachable⟩)
    · exact absurd current inactive
    · exact ⟨described, reachable⟩
  · rintro ⟨described, reachable⟩
    exact .inr ⟨unbarred, described, reachable⟩

/-- A check that finds its connection reports what the probe says, and then activates the context
`previous` again that was active before, if it is another one.  That context is active afterwards
exactly when its activation succeeds; otherwise the connection stays as it was while the check
waited.  A check that finds no connection reports why, and the connection stays as it was.  When
all watches have a connection, nothing else can interfere: `previous` is active afterwards unless
the store does not let it be activated any more or it cannot be reached. -/
theorem check_restores (settings : Settings) (host : Host) (events : List Event)
    (context? : Option String) (previous : String)
    (active : ((onHost settings host).run events).current? = some previous) :
    let lens := (onHost settings host).run events
    let found := lens.act (.resolve context?)
    let after := (lens.check context?).2
    (∀ error, (lens.site.resolve context?).1 = .error error →
      (lens.check context?).1 = .error error ∧ after.site.board.IsOn previous) ∧
    ∀ handle, (lens.site.resolve context?).1 = .ok handle →
      (lens.check context?).1 = found.finding handle ∧
      Restores previous handle.context (found.waited handle) after ∧
      (lens.hub.IsConnected →
        (handle.context = previous → after.site.board.IsOn previous) ∧
        (handle.context ≠ previous →
          (after.site.board.IsOn previous ↔
            lens.site.Describes previous ∧ previous ∉ lens.site.fleet.unreachable) ∧
          (¬ after.site.board.IsOn previous → after.site.board.IsOn handle.context))) := by
  intro lens found after
  have sound : lens.site.Sound := run_sound (onHost_sound settings host) events
  have named : Switchboard.target lens.site.host previous = previous :=
    run_isNamed settings host events previous active
  have looked : lens.site.Attempts found.site := (lens.site.resolve_evolves context?).attempts
  cases lens.site.resolves sound.coherent context? with
  | fails error answer unchanged =>
      refine ⟨fun other reported => ?_, fun handle reported => ?_⟩
      · rw [answer] at reported
        cases reported
        have ended : lens.check context? = (.error error, found) := check_of_error answer
        have before := sound.coherent.isOn_iff.mpr active
        unfold after
        rw [ended]
        exact ⟨rfl, before.of_handle? unchanged⟩
      · rw [answer] at reported
        cases reported
  | finds client own answer connected bars =>
      refine ⟨fun error reported => ?_, fun handle reported => ?_⟩
      · rw [answer] at reported
        cases reported
      · rw [answer] at reported
        cases reported
        let handle : Handle := ⟨lens.site.aim context?, client⟩
        have ended : lens.check context? = (found.finding handle,
            (found.waited handle).restore (some previous) handle.context) := by
          rw [check_of_ok answer, active]
        have attempts : lens.site.Attempts (found.waited handle).site :=
          looked.trans (found.waited_attempts handle)
        have restores : Restores previous handle.context (found.waited handle) after := by
          unfold after
          rw [ended]
          refine restore_restores (attempts.coherent sound.coherent) ?_ handle.context
          rwa [attempts.host]
        refine ⟨congrArg Prod.fst ended, restores, fun allConnected => ?_⟩
        have foundConnected : found.hub.IsConnected := allConnected
        have board := waited_board foundConnected handle
        have onTarget : (found.waited handle).site.board.handle? = some handle := by
          rw [board]
          exact connected
        refine ⟨fun same => ?_, fun different => ⟨?_, fun off => ?_⟩⟩
        · rw [restores.stays same, ← same]
          exact ⟨client, onTarget, own⟩
        · rw [restores.isOn_iff different]
          exact opens_again_iff sound active named attempts different onTarget (board ▸ bars)
        · have closed := mt (restores.isOn_iff different).mpr off
          exact ⟨client, (restores.otherwise different closed).trans onTarget, own⟩

/-- The context that was active is active again after another one was probed. -/
theorem check_restores_dev :
    let lens := (onHost (.defaults none) (.storing ["dev", "prod"])).run [.setContext "dev"]
    lens.current? = some "dev" ∧ (lens.check (some "prod")).1 = .ok true ∧
      (lens.check (some "prod")).2.site.board.IsOn "dev" := by
  have active : ((onHost (.defaults none) (.storing ["dev", "prod"])).run
      [.setContext "dev"]).current? = some "dev" := by decide
  obtain ⟨_, finds⟩ := check_restores _ _ _ (some "prod") "dev" active
  obtain ⟨reported, _, undisturbed⟩ := finds ⟨"prod", { context := "prod" }⟩ (by rfl)
  obtain ⟨_, others⟩ := undisturbed nofun
  have restored := (others (by decide)).1.mpr ⟨by rfl, by decide⟩
  exact ⟨active, reported, restored⟩

/-- A context that cannot be reached any more is not active again after another one was probed,
and the check does not tell. -/
theorem check_unrestored :
    let lens := (onHost (.defaults none) (.storing ["dev", "prod"])).run
      [.setContext "dev", .isolate ["dev"]]
    lens.current? = some "dev" ∧ (lens.check (some "prod")).1 = .ok true ∧
      (lens.check (some "prod")).2.current? = some "prod" :=
  ⟨by decide, by rfl, by decide⟩

end Lens
end KubeLens
