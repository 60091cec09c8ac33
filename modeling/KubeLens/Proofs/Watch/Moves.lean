import Mathlib.Logic.Relation
import KubeLens.Proofs.Site.Orderly
import KubeLens.Proofs.Watch.Happenings
import KubeLens.Proofs.Watch.Schedule

/-!
# Moves of a hub

Whatever the hub and its schedules do is a series of elementary moves: requests are served,
something happens to one session, a session is opened, the hub is cancelled.  What every move
keeps is therefore kept by everything.
-/

namespace KubeLens
namespace Watch

theorem Happening.turn_attempts (happening : Happening) (site : Site) (session : Session) :
    site.Attempts (happening.turn (site, session)).1 := by
  cases happening with
  | step generation due =>
      unfold Happening.turn
      dsimp only
      split
      · split
        · exact Task.step_attempts _ due site session
        · exact .refl site
      · exact .refl site
  | tick generation period =>
      unfold Happening.turn
      dsimp only
      split
      · exact Task.tick_attempts _ period site session
      · exact .refl site
  | _ => exact .refl site

namespace Hub

/-! ## Sessions by place -/

theorem session_mem {hub : Hub} {id : Nat} (inside : id < hub.sessions.length) :
    hub.session id ∈ hub.sessions := by
  unfold Hub.session
  rw [List.getElem?_eq_getElem inside]
  exact List.getElem_mem inside

theorem session_outside {hub : Hub} {id : Nat} (outside : ¬id < hub.sessions.length) :
    hub.session id = {} := by
  unfold Hub.session
  rw [List.getElem?_eq_none (Nat.le_of_not_lt outside)]
  rfl

theorem inside_of_mem {hub : Hub} {id : Nat} {task : Task}
    (present : task ∈ (hub.session id).tasks) : id < hub.sessions.length := by
  refine Decidable.byContradiction fun outside => ?_
  rw [session_outside outside] at present
  cases present

theorem put_outside {hub : Hub} {id : Nat} (outside : ¬id < hub.sessions.length)
    (session : Session) : hub.put id session = hub := by
  unfold Hub.put
  rw [List.set_eq_of_length_le (Nat.le_of_not_lt outside)]

theorem session_put_self {hub : Hub} {id : Nat} (inside : id < hub.sessions.length)
    (session : Session) : (hub.put id session).session id = session := by
  unfold Hub.session Hub.put
  simp [inside]

theorem session_put_of_ne (hub : Hub) {id other : Nat} (different : id ≠ other)
    (session : Session) : (hub.put id session).session other = hub.session other := by
  unfold Hub.session Hub.put
  simp [different]

@[simp] theorem put_put (hub : Hub) (id : Nat) (first second : Session) :
    (hub.put id first).put id second = hub.put id second := by
  unfold Hub.put
  rw [List.set_set]

theorem put_session (hub : Hub) (id : Nat) : hub.put id (hub.session id) = hub := by
  by_cases inside : id < hub.sessions.length
  · unfold Hub.put Hub.session
    rw [List.getElem?_eq_getElem inside]
    simp
  · exact put_outside inside _

theorem mem_put {hub : Hub} {id : Nat} {session after : Session}
    (present : session ∈ (hub.put id after).sessions) :
    session ∈ hub.sessions ∨ session = after :=
  List.mem_or_eq_of_mem_set present

/-- What holds of all sessions, and of one that was never opened, holds of the session at every
place. -/
theorem forall_session {hub : Hub} {P : Session → Prop}
    (each : ∀ session ∈ hub.sessions, P session) (blank : P {}) (id : Nat) :
    P (hub.session id) := by
  by_cases inside : id < hub.sessions.length
  · exact each _ (session_mem inside)
  · rwa [session_outside inside]

theorem forall_put {hub : Hub} {P : Session → Prop} (each : ∀ session ∈ hub.sessions, P session)
    {id : Nat} {after : Session} (changed : P after) :
    ∀ session ∈ (hub.put id after).sessions, P session := by
  intro session present
  rcases mem_put present with old | rfl
  · exact each session old
  · exact changed

/-! ## Moves -/

/-- What happens to a session of a hub. -/
def happen (hub : Hub) (site : Site) (id : Nat) (happening : Happening) : Site × Hub :=
  let turn := happening.turn (site, hub.session id)
  (turn.1, hub.put id turn.2)

/-- An elementary thing that happens to a site and a hub.  `permits` says what may happen to
which session. -/
inductive Move (permits : Nat → Happening → Prop) : Site × Hub → Site × Hub → Prop
  /-- Requests are served.  While tasks make steps, they come to attempts to connect. -/
  | serves {before after : Site} (hub : Hub) (steady : before.fleet.Steady after.fleet)
      (order : before.KeepsOrder after)
      (tried : before.Attempts after ∨ ∀ id generation due, ¬permits id (.step generation due)) :
      Move permits (before, hub) (after, hub)
  | happens (site : Site) (hub : Hub) (id : Nat) (happening : Happening)
      (permitted : permits id happening) (meets : happening.Meets site) :
      Move permits (site, hub) (hub.happen site id happening)
  | opens (site : Site) (hub : Hub) (context? : Option String) :
      Move permits (site, hub) (site, (hub.openSession context?).2)
  | cancels (site : Site) (hub : Hub) :
      Move permits (site, hub) (site, { hub with isCancelled := true })

/-- A series of moves. -/
abbrev Moves (permits : Nat → Happening → Prop) : Site × Hub → Site × Hub → Prop :=
  Relation.ReflTransGen (Move permits)

/-- Whether all sessions are sane. -/
def Sane (hub : Hub) : Prop :=
  ∀ session ∈ hub.sessions, session.Sane

theorem Sane.session {hub : Hub} (sane : hub.Sane) (id : Nat) : (hub.session id).Sane :=
  forall_session sane (.fresh none false) id

/-- A place without a session is not changed. -/
theorem happen_outside {hub : Hub} {id : Nat} (outside : ¬id < hub.sessions.length) (site : Site)
    (happening : Happening) : hub.happen site id happening = (site, hub) := by
  unfold Hub.happen
  dsimp only
  rw [put_outside outside, session_outside outside]
  cases happening <;> rfl

theorem Sane.happen {hub : Hub} (sane : hub.Sane) (site : Site) (id : Nat)
    (happening : Happening) : (hub.happen site id happening).2.Sane :=
  forall_put sane (Session.deed_sane (happening.deed (site, hub.session id)) (sane.session id))

variable {permits : Nat → Happening → Prop} {before after : Site × Hub}

/-- Every move keeps sessions sane. -/
theorem Move.sane (move : Move permits before after) (sane : before.2.Sane) : after.2.Sane := by
  cases move with
  | serves => exact sane
  | happens site hub id happening => exact sane.happen site id happening
  | opens site hub context? =>
      intro session present
      rcases List.mem_append.mp present with old | fresh
      · exact sane session old
      · rw [List.mem_singleton.mp fresh]
        exact Session.Sane.fresh _ _
  | cancels => exact sane

theorem Move.keepsOrder (move : Move permits before after) : before.1.KeepsOrder after.1 := by
  cases move with
  | serves _ _ order => exact order
  | happens site hub id happening =>
      exact (happening.turn_attempts site (hub.session id)).keepsOrder
  | opens => exact .refl _
  | cancels => exact .refl _

/-- While tasks make steps, everything comes to attempts to connect. -/
theorem Move.attempts (move : Move permits before after) {id generation due : Nat}
    (running : permits id (.step generation due)) : before.1.Attempts after.1 := by
  cases move with
  | serves _ _ _ tried => exact tried.resolve_right fun resting => resting _ _ _ running
  | happens site hub id happening => exact happening.turn_attempts site (hub.session id)
  | opens => exact .refl _
  | cancels => exact .refl _

theorem Moves.attempts (moves : Moves permits before after) {id generation due : Nat}
    (running : permits id (.step generation due)) : before.1.Attempts after.1 := by
  induction moves with
  | refl => exact .refl _
  | tail _ last ih => exact ih.trans (last.attempts running)

/-- Every move takes sessions on in their lives, and new ones start theirs. -/
theorem Move.lives (move : Move permits before after)
    (lives : ∀ session ∈ before.2.sessions, session.Lives) :
    ∀ session ∈ after.2.sessions, session.Lives := by
  cases move with
  | serves => exact lives
  | happens site hub id happening =>
      intro session present
      by_cases inside : id < hub.sessions.length
      · rcases mem_put present with old | rfl
        · exact lives session old
        · exact (lives _ (session_mem inside)).turn site happening
      · rw [happen_outside inside] at present
        exact lives session present
  | opens site hub context? =>
      intro session present
      rcases List.mem_append.mp present with old | fresh
      · exact lives session old
      · rw [List.mem_singleton.mp fresh]
        exact ⟨_, _, [], rfl⟩
  | cancels => exact lives

theorem Moves.lives (moves : Moves permits before after)
    (lives : ∀ session ∈ before.2.sessions, session.Lives) :
    ∀ session ∈ after.2.sessions, session.Lives := by
  induction moves with
  | refl => exact lives
  | tail _ last ih => exact last.lives ih

/-! ## Tasks -/

theorem task?_of_mem {session : Session} (coherent : session.Coherent) {task : Task}
    (present : task ∈ session.tasks) : session.task? task.generation = some task := by
  cases found : session.task? task.generation with
  | none => exact absurd (List.find?_eq_none.mp found task present) (by simp)
  | some other =>
      obtain ⟨stored, same⟩ := Session.task?_eq_some found
      rw [coherent.task_unique stored present same]

/-- A task that need not wait makes its step. -/
theorem happen_step {site : Site} {hub : Hub} (sane : hub.Sane) {id : Nat} {task : Task}
    (present : task ∈ (hub.session id).tasks)
    (able : task.canStep site (hub.session id) = true) (due : Nat) :
    hub.happen site id (.step task.generation due) =
      ((task.step due (site, hub.session id)).1,
        hub.put id (task.step due (site, hub.session id)).2) := by
  unfold Hub.happen Happening.turn
  dsimp only
  rw [task?_of_mem (sane.session id).coherent present]
  dsimp only
  rw [if_pos able]

theorem stepTask_eq_happen {site : Site} {hub : Hub} (sane : hub.Sane) {id : Nat} {task : Task}
    (present : task ∈ (hub.session id).tasks)
    (able : task.canStep site (hub.session id) = true) (now : Nat) :
    stepTask now site hub id task.generation =
      hub.happen site id (.step task.generation (now + hub.period)) := by
  rw [happen_step sane present able]
  unfold stepTask runTask
  rw [task?_of_mem (sane.session id).coherent present]

theorem happen_tick (site : Site) (hub : Hub) (id generation period : Nat) :
    hub.happen site id (.tick generation period) =
      runTask site hub id generation fun task turn => task.tick period turn := by
  unfold Hub.happen Happening.turn runTask
  dsimp only
  cases (hub.session id).task? generation with
  | none => exact congrArg (site, ·) (put_session hub id)
  | some task => rfl

/-- The task that a schedule chooses is there, and need not wait. -/
theorem mem_of_ready? {site : Site} {hub : Hub} {id generation : Nat}
    (ready : ready? site hub = some (id, generation)) :
    ∃ task ∈ (hub.session id).tasks,
      task.generation = generation ∧ task.canStep site (hub.session id) = true := by
  have chosen := List.mem_of_mem_head? ready
  obtain ⟨⟨session, place⟩, opened, listed⟩ := List.mem_flatMap.mp chosen
  obtain ⟨task, free, same⟩ := List.mem_map.mp listed
  obtain ⟨rfl, rfl⟩ := Prod.mk.inj same
  obtain ⟨present, able⟩ := List.mem_filter.mp free
  have own : hub.session place = session := by
    unfold Hub.session
    rw [List.mk_mem_zipIdx_iff_getElem?.mp opened]
    rfl
  exact ⟨task, own ▸ present, rfl, own ▸ able⟩

/-- A task of a session that was closed stops when it winds up, or when it winds up twice because it
was about to end by itself. -/
theorem stop_of_windUp {task : Task} {turn : Turn} (present : task ∈ turn.2.tasks)
    (unwatched : turn.2.watches = []) :
    task.windUp turn = task.stop turn ∨
      ∃ last ∈ (task.windUp turn).2.tasks, last.windUp (task.windUp turn) = task.stop turn := by
  obtain ⟨site, session⟩ := turn
  cases phase : task.phase with
  | ending reason =>
      have unlisted : session.deregister task = session :=
        if_neg (by rw [show session.watches = [] from unwatched]; nofun)
      have first : task.windUp (site, session) =
          (site, session.setPhase task.generation (.reporting reason)) := by
        unfold Task.windUp
        rw [phase]
        exact congrArg (fun session => (site, task.enter session (.reporting reason))) unlisted
      have same : (session.setPhase task.generation (.reporting reason)).dropTask task.generation =
          session.dropTask task.generation :=
        congrArg (fun tasks => { session with tasks }) (session.dropTask_setPhase _ _)
      rw [first]
      refine .inr ⟨{ task with phase := .reporting reason },
        List.mem_map.mpr ⟨task, present, if_pos rfl⟩, ?_⟩
      unfold Task.windUp Task.stop Task.release
      rw [phase]
      exact congrArg (Prod.mk site) same
  | _ =>
      refine .inl ?_
      unfold Task.windUp
      rw [phase]

/-- What holds of a session that was closed, and what each task that stops keeps, holds when the
tasks that served its keys have stopped: they stop one after the other, and those that have not had
their turn are still there. -/
theorem closing_induction {P : Turn → Prop} {session : Session} (coherent : session.Coherent)
    (site : Site) (holds : P (site, session.close))
    (stops : ∀ (task : Task) (turn : Turn), task ∈ turn.2.tasks → turn.2.isCancelled = true →
      turn.2.watches = [] → P turn → P (task.stop turn)) :
    P (session.registered.foldl (fun turn task => task.stop turn) (site, session.close)) := by
  have all (tasks : List Task) (distinct : (tasks.map (·.generation)).Nodup) (turn : Turn)
      (present : ∀ task ∈ tasks, task ∈ turn.2.tasks) (cancelled : turn.2.isCancelled = true)
      (unwatched : turn.2.watches = []) (holds : P turn) :
      P (tasks.foldl (fun turn task => task.stop turn) turn) := by
    induction tasks generalizing turn with
    | nil => exact holds
    | cons task rest ih =>
        obtain ⟨fresh, distinctRest⟩ := List.nodup_cons.mp distinct
        refine ih distinctRest _ (fun other later => ?_) cancelled unwatched
          (stops task turn (present task List.mem_cons_self) cancelled unwatched holds)
        have different : other.generation ≠ task.generation := fun equal =>
          fresh (List.mem_map.mpr ⟨other, later, equal⟩)
        exact List.mem_filter.mpr
          ⟨present other (List.mem_cons_of_mem _ later), by simpa using different⟩
  have nodup := coherent.generations_nodup
  rw [Session.roles, List.map_map] at nodup
  exact all session.registered (nodup.sublist (List.filter_sublist.map _)) _
    (fun _ stored => (List.mem_filter.mp stored).1) rfl rfl holds

/-! ## Schedules -/

/-- What the hub comes to from `start` by moves, with sane sessions. -/
structure Reaches (permits : Nat → Happening → Prop) (start : Site × Hub) (site : Site)
    (hub : Hub) : Prop where
  moves : Moves permits start (site, hub)
  sane : hub.Sane

namespace Reaches

variable {start : Site × Hub} {site : Site} {hub : Hub}

theorem refl (sane : hub.Sane) : Reaches permits (site, hub) site hub :=
  ⟨.refl, sane⟩

theorem move {later : Site × Hub} (reaches : Reaches permits start site hub)
    (move : Move permits (site, hub) later) : Reaches permits start later.1 later.2 :=
  ⟨reaches.moves.tail move, move.sane reaches.sane⟩

theorem happen (reaches : Reaches permits start site hub) {id : Nat} {happening : Happening}
    (permitted : permits id happening) (meets : happening.Meets site) :
    Reaches permits start (hub.happen site id happening).1 (hub.happen site id happening).2 :=
  reaches.move (.happens site hub id happening permitted meets)

theorem replies (allowed : ∀ id, permits id .replies) :
    KeptByReplies (Reaches permits start) :=
  fun _ _ id _ reaches => reaches.happen (allowed id) trivial

theorem steps (allowed : ∀ id generation due, permits id (.step generation due)) :
    KeptBySteps (Reaches permits start) := by
  intro now site hub id generation ready reaches
  obtain ⟨task, present, rfl, able⟩ := mem_of_ready? ready
  rw [stepTask_eq_happen reaches.sane present able]
  exact reaches.happen (allowed _ _ _) trivial

theorem ticks (allowed : ∀ id generation period, permits id (.tick generation period)) :
    KeptByTicks (Reaches permits start) := by
  intro period site hub id generation reaches
  rw [← happen_tick]
  exact reaches.happen (allowed _ _ _) trivial

/-- A task of a cancelled session winds up. -/
theorem windUp (allowed : ∀ id generation due, permits id (.step generation due)) {id : Nat}
    (inside : id < hub.sessions.length) {task : Task} {session : Session}
    (present : task ∈ session.tasks) (cancelled : session.isCancelled = true)
    (reaches : Reaches permits start site (hub.put id session)) :
    Reaches permits start (task.windUp (site, session)).1
      (hub.put id (task.windUp (site, session)).2) := by
  have own := session_put_self inside session
  have happened := reaches.happen (allowed id task.generation 0) trivial
  rwa [happen_step reaches.sane (own.symm ▸ present)
    (by rw [own]; exact Task.canStep_of_cancelled cancelled site), own, put_put,
    Task.step_of_cancelled cancelled] at happened

theorem stop (allowed : ∀ id generation due, permits id (.step generation due)) {id : Nat}
    (inside : id < hub.sessions.length) {task : Task} {turn : Turn}
    (present : task ∈ turn.2.tasks) (cancelled : turn.2.isCancelled = true)
    (unwatched : turn.2.watches = [])
    (reaches : Reaches permits start turn.1 (hub.put id turn.2)) :
    Reaches permits start (task.stop turn).1 (hub.put id (task.stop turn).2) := by
  have first := reaches.windUp allowed inside present cancelled
  rcases stop_of_windUp present unwatched with once | ⟨last, left, twice⟩
  · exact once ▸ first
  · have still : (task.windUp turn).2.isCancelled = true := task.windUp_isCancelled.trans cancelled
    exact twice ▸ first.windUp allowed inside left still

theorem closeSession (allowed : ∀ id generation due, permits id (.step generation due))
    {id : Nat} (closes : permits id .closes) (reaches : Reaches permits start site hub) :
    Reaches permits start (hub.closeSession site id).1 (hub.closeSession site id).2 := by
  unfold Hub.closeSession
  split
  · exact reaches
  · rename_i session found
    obtain ⟨inside, same⟩ := List.getElem?_eq_some_iff.mp found
    have own : hub.session id = session := by
      unfold Hub.session
      rw [found]
      rfl
    have closed := reaches.happen closes trivial
    unfold Hub.happen Happening.turn at closed
    dsimp only at closed
    rw [own] at closed
    have coherent := (reaches.sane session (same ▸ List.getElem_mem inside)).coherent
    exact closing_induction
      (P := fun turn => Reaches permits start turn.1 (hub.put id turn.2)) coherent site closed
      fun task turn present cancelled unwatched earlier =>
        earlier.stop allowed inside present cancelled unwatched

theorem shutdown (allowed : ∀ id generation due, permits id (.step generation due))
    (closes : ∀ id, permits id .closes) (reaches : Reaches permits start site hub) :
    Reaches permits start (hub.shutdown site).1 (hub.shutdown site).2 := by
  unfold Hub.shutdown
  refine List.foldlRecOn (motive := fun state : Site × Hub =>
    Reaches permits start state.1 state.2) _ _ (reaches.move (.cancels site hub)) ?_
  intro state earlier id _
  exact closeSession allowed (closes id) earlier

end Reaches
end Hub
end Watch
end KubeLens
