import KubeLens.Proofs.Site.Evolution
import KubeLens.Proofs.Switchboard.Coherence
import KubeLens.Proofs.Watch.Schedule

/-!
# Attempts to connect

Seen from the switchboard, everything that a request or a watch task does to a site is a
sequence of attempts to connect, each to a context that is neither active nor barred.  What
holds of one attempt holds of such a sequence: coherence is kept, a barred context stays barred
and is not dialled, and a context that could not be reached is barred afterwards.
-/

namespace KubeLens
namespace Site

/-- Two sites with the same switchboard and the same record of connections. -/
structure SameBoard (before after : Site) : Prop where
  settings : after.settings = before.settings
  host : after.host = before.host
  board : after.board = before.board
  unreachable : after.fleet.unreachable = before.fleet.unreachable
  connects : after.fleet.connects = before.fleet.connects

namespace SameBoard

theorem refl (site : Site) : site.SameBoard site :=
  ⟨rfl, rfl, rfl, rfl, rfl⟩

theorem trans {first second third : Site}
    (earlier : first.SameBoard second) (later : second.SameBoard third) :
    first.SameBoard third :=
  ⟨later.settings.trans earlier.settings, later.host.trans earlier.host,
    later.board.trans earlier.board, later.unreachable.trans earlier.unreachable,
    later.connects.trans earlier.connects⟩

end SameBoard

/-- Nothing that concerns the switchboard, or one attempt to connect. -/
inductive Attempt : Site → Site → Prop
  | rest {before after : Site} (same : before.SameBoard after) : Attempt before after
  | dial (site : Site) (name : String)
      (inactive : site.board.active? (Switchboard.target site.host name) = none)
      (unbarred : site.board.isBarred (Switchboard.target site.host name) = false)
      (described : Switchboard.describes site.settings site.host name = .ok ()) :
      Attempt site (site.dial (Switchboard.target site.host name))

/-- Some attempts to connect. -/
abbrev Attempts : Site → Site → Prop :=
  Relation.ReflTransGen Attempt

theorem SameBoard.attempts {before after : Site} (same : before.SameBoard after) :
    before.Attempts after :=
  .single (.rest same)

theorem Move.attempt {before after : Site} (move : Move before after) :
    Attempt before after := by
  cases move with
  | ask plurals asked => exact .rest ⟨rfl, rfl, rfl, asked.unreachable, asked.connects⟩
  | dial name inactive unbarred described => exact .dial before name inactive unbarred described

theorem Evolves.attempts {before after : Site} (evolves : before.Evolves after) :
    before.Attempts after :=
  Relation.ReflTransGen.lift id (fun _ _ => Move.attempt) _ _ evolves

/-- A probe is only recorded by the cluster that it asks. -/
theorem probe_attempts (site : Site) (client : Client) :
    site.Attempts { site with fleet := (client.probe site.fleet).2 } :=
  have asked := client.probe_asked site.fleet
  SameBoard.attempts ⟨rfl, rfl, rfl, asked.unreachable, asked.connects⟩

/-- Whether a context can be connected to, whatever attempts are made before. -/
def Connects (site : Site) (context? : Option String) : Prop :=
  ∀ after, site.Attempts after → ∃ handle, (after.resolve context?).1 = .ok handle

theorem Connects.attempts {before after : Site} {context? : Option String}
    (connects : before.Connects context?) (attempts : before.Attempts after) :
    after.Connects context? :=
  fun later more => connects later (attempts.trans more)

/-! ## One attempt -/

/-- Dialling a context makes it active when it can be reached, and bars it otherwise. -/
theorem dial_cases (site : Site) (target : String) :
    (target ∉ site.fleet.unreachable ∧
      (site.dial target).board = site.board.switchTo target { context := target }) ∨
    (target ∈ site.fleet.unreachable ∧
      (site.dial target).board = site.board.bar target) := by
  unfold Site.dial Switchboard.dial Fleet.connect
  by_cases unreachable : target ∈ site.fleet.unreachable
  · exact .inr ⟨unreachable, by simp [unreachable]⟩
  · exact .inl ⟨unreachable, by simp [unreachable]⟩

@[simp] theorem dial_settings (site : Site) (target : String) :
    (site.dial target).settings = site.settings := rfl

@[simp] theorem dial_connects (site : Site) (target : String) :
    (site.dial target).fleet.connects = site.fleet.connects ++ [target] := by
  rw [dial_fleet]

@[simp] theorem dial_unreachable (site : Site) (target : String) :
    (site.dial target).fleet.unreachable = site.fleet.unreachable := by
  rw [dial_fleet]

@[simp] theorem count_dial_self (site : Site) (target : String) :
    (site.dial target).fleet.connects.count target = site.fleet.connects.count target + 1 := by
  rw [dial_connects, List.count_append, List.count_singleton_self]

theorem count_dial_of_ne (site : Site) {target context : String} (different : context ≠ target) :
    (site.dial target).fleet.connects.count context = site.fleet.connects.count context := by
  rw [dial_connects, List.count_append, List.count_singleton]
  simp [Ne.symm different]

theorem dial_coherent {site : Site} {target : String} (coherent : site.board.Coherent)
    (inactive : site.board.active? target = none) : (site.dial target).board.Coherent := by
  rcases site.dial_cases target with ⟨_, switched⟩ | ⟨_, barred⟩
  · rw [switched]
    exact .switchTo site.board { context := target }
  · rw [barred]
    exact coherent.bar (coherent.active?_eq_none_iff.mp inactive)

/-! ## Sequences of attempts -/

namespace Attempts

variable {before after : Site}

theorem refl (site : Site) : site.Attempts site :=
  Relation.ReflTransGen.refl

theorem unreachable (attempts : before.Attempts after) :
    after.fleet.unreachable = before.fleet.unreachable := by
  induction attempts with
  | refl => rfl
  | tail _ attempt ih =>
      cases attempt with
      | rest same => exact same.unreachable.trans ih
      | dial => rwa [dial_unreachable]

theorem settings (attempts : before.Attempts after) : after.settings = before.settings := by
  induction attempts with
  | refl => rfl
  | tail _ attempt ih =>
      cases attempt with
      | rest same => exact same.settings.trans ih
      | dial => rwa [dial_settings]

theorem host (attempts : before.Attempts after) : after.host = before.host := by
  induction attempts with
  | refl => rfl
  | tail _ attempt ih =>
      cases attempt with
      | rest same => exact same.host.trans ih
      | dial => exact ih

theorem coherent (attempts : before.Attempts after) (coherent : before.board.Coherent) :
    after.board.Coherent := by
  induction attempts with
  | refl => exact coherent
  | tail _ attempt ih =>
      cases attempt with
      | rest same => rwa [same.board]
      | dial _ inactive => exact dial_coherent ih inactive

/-- The record of connections only grows. -/
theorem count_le (attempts : before.Attempts after) (context : String) :
    before.fleet.connects.count context ≤ after.fleet.connects.count context := by
  induction attempts with
  | refl => exact Nat.le_refl _
  | tail _ attempt ih =>
      cases attempt with
      | rest same => rwa [same.connects]
      | dial =>
          rw [dial_connects, List.count_append]
          exact Nat.le_add_right_of_le ih

/-- A barred context stays barred and is not dialled. -/
theorem barred (attempts : before.Attempts after) {context : String}
    (barred : context ∈ before.board.failed) :
    context ∈ after.board.failed ∧
      after.fleet.connects.count context = before.fleet.connects.count context := by
  induction attempts with
  | refl => exact ⟨barred, rfl⟩
  | @tail middle _ _ attempt ih =>
      obtain ⟨stillBarred, sameCount⟩ := ih
      cases attempt with
      | rest same =>
          rw [same.board, same.connects]
          exact ⟨stillBarred, sameCount⟩
      | dial name _ unbarred =>
          have different : context ≠ Switchboard.target middle.host name := by
            intro equal
            rw [← equal, Switchboard.isBarred_iff.mpr stillBarred] at unbarred
            cases unbarred
          refine ⟨?_, (middle.count_dial_of_ne different).trans sameCount⟩
          rcases middle.dial_cases (Switchboard.target middle.host name) with
            ⟨_, switched⟩ | ⟨_, newlyBarred⟩
          · rw [switched]
            exact Switchboard.mem_switchTo.mpr ⟨stillBarred, different⟩
          · rw [newlyBarred]
            exact Switchboard.mem_bar.mpr (.inl stillBarred)

/-- Only contexts that cannot be reached get barred. -/
theorem unbarred (attempts : before.Attempts after) {context : String}
    (reachable : context ∉ before.fleet.unreachable) (unbarred : context ∉ before.board.failed) :
    context ∉ after.board.failed := by
  induction attempts with
  | refl => exact unbarred
  | @tail middle last earlier attempt ih =>
      cases attempt with
      | rest same => rwa [same.board]
      | dial name =>
          rcases middle.dial_cases (Switchboard.target middle.host name) with
            ⟨_, switched⟩ | ⟨unreached, newlyBarred⟩
          · rw [switched]
            exact fun barred => ih (Switchboard.mem_switchTo.mp barred).1
          · rw [Attempts.unreachable earlier] at unreached
            rw [newlyBarred]
            intro barred
            rcases Switchboard.mem_bar.mp barred with old | rfl
            · exact ih old
            · exact reachable unreached

/-- A context that cannot be reached and was dialled is barred. -/
theorem barred_of_dialled (attempts : before.Attempts after) {context : String}
    (unreachable : context ∈ before.fleet.unreachable)
    (dialled : after.fleet.connects.count context ≠ before.fleet.connects.count context) :
    context ∈ after.board.failed := by
  induction attempts with
  | refl => exact absurd rfl dialled
  | @tail middle last earlier attempt ih =>
      by_cases sameSoFar :
          middle.fleet.connects.count context = before.fleet.connects.count context
      · rw [← sameSoFar] at dialled
        cases attempt with
        | rest same =>
            rw [same.connects] at dialled
            exact absurd rfl dialled
        | dial name =>
            have equal : context = Switchboard.target middle.host name :=
              Decidable.byContradiction fun different =>
                dialled (middle.count_dial_of_ne different)
            rcases middle.dial_cases (Switchboard.target middle.host name) with
              ⟨reachable, _⟩ | ⟨_, newlyBarred⟩
            · rw [← equal, Attempts.unreachable earlier] at reachable
              exact absurd unreachable reachable
            · rw [newlyBarred]
              exact Switchboard.mem_bar.mpr (.inr equal)
      · exact (Attempts.barred (.single attempt) (ih sameSoFar)).1

/-- A context that cannot be reached is dialled at most once. -/
theorem count_le_succ (attempts : before.Attempts after) {context : String}
    (unreachable : context ∈ before.fleet.unreachable) :
    after.fleet.connects.count context ≤ before.fleet.connects.count context + 1 := by
  induction attempts with
  | refl => exact Nat.le_succ _
  | @tail middle last earlier attempt ih =>
      by_cases sameSoFar :
          middle.fleet.connects.count context = before.fleet.connects.count context
      · cases attempt with
        | rest same =>
            rw [same.connects]
            exact ih
        | dial name =>
            rw [dial_connects, List.count_append, sameSoFar]
            exact Nat.add_le_add_left List.count_le_length _
      · have barredSoFar := barred_of_dialled earlier unreachable sameSoFar
        rw [(Attempts.barred (.single attempt) barredSoFar).2]
        exact ih

/-- A context that is neither barred nor active stays so unless it is dialled. -/
theorem idle (attempts : before.Attempts after) {context : String}
    (unbarred : context ∉ before.board.failed)
    (inactive : before.board.current ≠ some context)
    (undialled : after.fleet.connects.count context = before.fleet.connects.count context) :
    context ∉ after.board.failed ∧ after.board.current ≠ some context := by
  induction attempts with
  | refl => exact ⟨unbarred, inactive⟩
  | @tail middle last earlier attempt ih =>
      have lastCount : last.fleet.connects.count context =
          middle.fleet.connects.count context := by
        refine Nat.le_antisymm ?_ (count_le (.single attempt) context)
        rw [undialled]
        exact count_le earlier context
      obtain ⟨stillUnbarred, stillInactive⟩ := ih (lastCount ▸ undialled)
      cases attempt with
      | rest same =>
          rw [same.board]
          exact ⟨stillUnbarred, stillInactive⟩
      | dial name =>
          have different : context ≠ Switchboard.target middle.host name := by
            rintro rfl
            rw [count_dial_self] at lastCount
            omega
          rcases middle.dial_cases (Switchboard.target middle.host name) with
            ⟨_, switched⟩ | ⟨_, newlyBarred⟩
          · rw [switched]
            refine ⟨fun present => stillUnbarred (Switchboard.mem_switchTo.mp present).1, ?_⟩
            rintro ⟨⟩
            exact different rfl
          · rw [newlyBarred, Switchboard.bar_current]
            refine ⟨fun present => ?_, stillInactive⟩
            rcases Switchboard.mem_bar.mp present with earlierBarred | equal
            · exact stillUnbarred earlierBarred
            · exact different equal

end Attempts
end Site

/-! ## Watch tasks -/

namespace Watch

theorem Source.modify_sameBoard (source : Source) (site : Site) (change : Feed → Feed) :
    site.SameBoard (source.modify site change) :=
  ⟨rfl, rfl, rfl, rfl, rfl⟩

namespace Task

theorem release_sameBoard (task : Task) (site : Site) : site.SameBoard (task.release site) := by
  unfold release
  split
  · exact Source.modify_sameBoard _ site _
  · exact .refl site

theorem connect_attempts (task : Task) (site : Site) (session : Session) :
    site.Attempts (task.connect (site, session)).1 := by
  have resolved := (site.resolve_evolves task.context?).attempts
  unfold connect
  dsimp only
  split <;> simp_all

theorem subscribe_attempts (task : Task) (handle : Handle) (site : Site) (session : Session) :
    site.Attempts (task.subscribe handle (site, session)).1 := by
  unfold subscribe
  dsimp only
  split
  · exact .refl site
  · rename_i gv _
    have named := site.pluralOf_evolves handle.client gv task.descriptor.kind
      task.descriptor.plural?
    exact named.attempts.trans (Site.SameBoard.attempts ⟨rfl, rfl, rfl, rfl, rfl⟩)

theorem read_attempts (task : Task) (source : Source) (site : Site) :
    site.Attempts (task.read source site).2 :=
  (site.getWith_evolves source.client source.type task.descriptor.space?
    task.descriptor.name).attempts

theorem readFirst_attempts (task : Task) (source : Source) (site : Site) (session : Session) :
    site.Attempts (task.readFirst source (site, session)).1 := by
  have read := task.read_attempts source site
  unfold readFirst
  dsimp only
  split <;> simp_all

theorem readAgain_attempts (task : Task) (source : Source) (due : Nat) (site : Site)
    (session : Session) : site.Attempts (task.readAgain source due (site, session)).1 := by
  have read := task.read_attempts source site
  unfold readAgain
  dsimp only
  split <;> simp_all

theorem take_attempts (task : Task) (source : Source) (due : Nat) (site : Site)
    (session : Session) : site.Attempts (task.take source due (site, session)).1 := by
  unfold take
  dsimp only
  split
  · exact (source.modify_sameBoard _ _).attempts
  · exact (task.release_sameBoard _).attempts

theorem stop_attempts (task : Task) (site : Site) (session : Session) :
    site.Attempts (task.stop (site, session)).1 :=
  (task.release_sameBoard site).attempts

theorem step_attempts (task : Task) (due : Nat) (site : Site) (session : Session) :
    site.Attempts (task.step due (site, session)).1 := by
  unfold step
  split
  · exact task.stop_attempts site session
  · split
    · exact task.connect_attempts site session
    · exact .refl site
    · exact task.subscribe_attempts _ site session
    · exact task.readFirst_attempts _ site session
    · exact .refl site
    · exact task.take_attempts _ _ site session
    · exact .refl site
    · exact .refl site
    · exact .refl site

theorem tick_attempts (task : Task) (period : Nat) (site : Site) (session : Session) :
    site.Attempts (task.tick period (site, session)).1 := by
  unfold tick
  split
  · exact task.stop_attempts site session
  · split
    · exact task.readAgain_attempts _ _ site session
    · exact .refl site

end Task

namespace Hub

theorem runTask_attempts (site : Site) (hub : Hub) (id generation : Nat)
    (act : Task → Turn → Turn)
    (attempts : ∀ (task : Task) (session : Session), site.Attempts (act task (site, session)).1) :
    site.Attempts (runTask site hub id generation act).1 := by
  unfold runTask
  split
  · exact .refl site
  · exact attempts _ (hub.session id)

theorem stepTask_attempts (now : Nat) (site : Site) (hub : Hub) (id generation : Nat) :
    site.Attempts (stepTask now site hub id generation).1 :=
  runTask_attempts site hub id generation _ fun task session =>
    task.step_attempts (now + hub.period) site session

theorem tickTask_attempts (period : Nat) (site : Site) (hub : Hub) (id generation : Nat) :
    site.Attempts (runTask site hub id generation fun task turn => task.tick period turn).1 :=
  runTask_attempts site hub id generation _ fun task session =>
    task.tick_attempts period site session

theorem settle_attempts (hub : Hub) (now : Nat) (site : Site) :
    site.Attempts (hub.settle now site).1 :=
  settle_keeps (P := fun later _ => site.Attempts later) (fun _ _ _ _ earlier => earlier)
    (fun now later hub id generation _ earlier =>
      earlier.trans (stepTask_attempts now later hub id generation))
    hub now site (.refl site)

theorem advance_attempts (hub : Hub) (now span : Nat) (site : Site) :
    site.Attempts (hub.advance now span site).1 :=
  advance_keeps (P := fun later _ => site.Attempts later) (fun _ _ _ _ earlier => earlier)
    (fun now later hub id generation _ earlier =>
      earlier.trans (stepTask_attempts now later hub id generation))
    (fun period later hub id generation earlier =>
      earlier.trans (tickTask_attempts period later hub id generation))
    hub now span site (.refl site)

theorem closeSession_sameBoard (hub : Hub) (site : Site) (id : Nat) :
    site.SameBoard (hub.closeSession site id).1 := by
  unfold closeSession
  split
  · exact .refl site
  · refine List.foldlRecOn (motive := fun later : Turn => site.SameBoard later.1) _ _
      (.refl site) ?_
    intro later same task _
    exact same.trans (task.release_sameBoard later.1)

theorem shutdown_sameBoard (hub : Hub) (site : Site) :
    site.SameBoard (hub.shutdown site).1 := by
  unfold shutdown
  refine List.foldlRecOn (motive := fun state : Site × Hub => site.SameBoard state.1) _ _
    (.refl site) ?_
  intro state same id _
  exact same.trans (closeSession_sameBoard state.2 state.1 id)

end Hub
end Watch
end KubeLens
