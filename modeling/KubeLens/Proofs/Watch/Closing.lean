import KubeLens.Proofs.Watch.Histories
import KubeLens.Proofs.Watch.Served
import KubeLens.Proofs.Watch.Settling

/-!
# Sessions that are closed

A closed session heeds nothing but the choice of a context, and its tasks wind up: each of them
can always make its next step, whatever it waits for, and each step brings the last one nearer.
Closing waits for the tasks that serve a key; a task that was told to stop before stops in its own
time.  A session that is cancelled and holds no feed leaves its surroundings alone for good.
-/

namespace KubeLens
namespace Watch

/-! ## The work that is left -/

/-- How many steps a task of a cancelled session makes at most. -/
def Task.toil (task : Task) : Nat :=
  if task.phase.isEnding then 2 else 1

namespace Session

variable {session : Session}

/-- How many steps the tasks of a cancelled session make at most. -/
def toil (session : Session) : Nat :=
  (session.tasks.map Task.toil).sum

theorem toil_pos (task : Task) : 0 < task.toil := by
  unfold Task.toil
  split <;> omega

theorem tasks_eq_nil_of_toil (idle : session.toil = 0) : session.tasks = [] := by
  refine List.eq_nil_iff_forall_not_mem.mpr fun task present => ?_
  have share := List.le_sum_of_mem (List.mem_map_of_mem (f := Task.toil) present)
  have positive := toil_pos task
  unfold toil at idle
  omega

/-- A task that winds up leaves less to do. -/
theorem toil_windUp_lt {task : Task} {site : Site} (present : task ∈ session.tasks) :
    (task.windUp (site, session)).2.toil < session.toil := by
  cases phase : task.phase with
  | ending reason =>
      have tasks : (task.windUp (site, session)).2.tasks =
          (session.setPhase task.generation (.reporting reason)).tasks := by
        unfold Task.windUp
        rw [phase]
        exact setPhase_tasks _ _ (session.deregister_tasks task)
      unfold toil
      rw [tasks]
      refine sum_setPhase_lt present (fun other _ => Nat.le_refl _)
        (fun other _ _ => toil_pos other) ?_
      simp [Task.toil, phase, Phase.isEnding]
  | _ =>
      unfold Task.windUp
      rw [phase]
      exact sum_dropTask_lt present (fun other _ => Nat.le_refl _) (toil_pos task)

/-! ## Sessions that leave their surroundings alone -/

theorem held_eq_nil_iff :
    session.held = [] ↔ ∀ task ∈ session.tasks, task.phase.source? = none := by
  simp [held, List.filterMap_eq_nil_iff, Task.spot?, Phase.spot?]

/-- A session that is cancelled and holds no feed. -/
structure Silent (session : Session) : Prop where
  cancelled : session.isCancelled = true
  held : session.held = []

namespace Silent

/-- A new session of a hub that was shut down. -/
theorem fresh (context? : Option String) : Silent { context?, isCancelled := true } :=
  ⟨rfl, rfl⟩

theorem release (silent : session.Silent) {task : Task} (present : task ∈ session.tasks)
    (site : Site) : task.release site = site := by
  unfold Task.release
  rw [held_eq_nil_iff.mp silent.held task present]

theorem windUp (silent : session.Silent) {task : Task} (site : Site) :
    (task.windUp (site, session)).2.held = [] := by
  refine held_eq_nil_iff.mpr fun other left => ?_
  rcases Task.mem_windUp left with stored | ended
  · exact held_eq_nil_iff.mp silent.held other stored
  · exact Task.source?_of_not_running ended

/-- A silent session stays so. -/
theorem turn (silent : session.Silent) (site : Site) (happening : Happening) :
    (happening.turn (site, session)).2.Silent := by
  refine ⟨?_, ?_⟩
  · by_contra alive
    have earlier := happening_uncancelled site happening (by simpa using alive)
    exact Bool.false_ne_true (earlier.symm.trans silent.cancelled)
  · have deed := happening.deed (site, session)
    generalize happening.turn (site, session) = after at deed
    cases deed with
    | asks active? control => exact (handle_speaks _ _ _).held.trans silent.held
    | owes messages => exact (owe_speaks _ _).held.trans silent.held
    | replies => exact (reply_speaks _).held.trans silent.held
    | receives count => exact (receive_speaks _ _).held.trans silent.held
    | hangsUp => exact silent.held
    | closes => exact silent.held
    | steps task present able due =>
        rw [Task.step_of_cancelled silent.cancelled]
        exact silent.windUp site
    | ticks task present period =>
        rw [Task.tick_of_cancelled silent.cancelled]
        split
        · exact silent.windUp site
        · exact silent.held
    | rests => exact silent.held

end Silent

/-! ## Closed sessions -/

/-- A session that is closed: it is not counted and watches nothing. -/
structure Shut (session : Session) : Prop where
  closed : session.isClosed = true
  cancelled : session.isCancelled = true
  unlisted : session.isListed = false
  unwatched : session.watches = []

theorem close_shut (session : Session) : session.close.Shut :=
  ⟨rfl, rfl, rfl, rfl⟩

namespace Shut

/-- A closed session heeds nothing but the choice of a context; it may owe an answer. -/
theorem handle (shut : session.Shut) (active? : Option String) (control : Control) :
    ∃ context? replies, session.handle active? control = { session with context?, replies } := by
  have owes (messages : List Message) :
      ∃ context? replies, session.owe messages = { session with context?, replies } :=
    ⟨session.context?, session.replies ++ messages, rfl⟩
  have unheard {after : Session} (same : after = session) :
      ∃ context? replies, after = { session with context?, replies } :=
    ⟨session.context?, session.replies, same⟩
  cases control with
  | subscribe resource? resources? =>
      cases resources? with
      | some resources => exact unheard (if_pos shut.closed)
      | none =>
          cases resource? with
          | some resource =>
              unfold Session.handle Session.subscribe
              dsimp only
              split
              · exact owes _
              · exact unheard (by rw [shut.closed]; rfl)
          | none => exact owes _
  | unsubscribe resource? =>
      cases resource? with
      | some resource =>
          refine unheard ?_
          unfold Session.handle unsubscribe unwatch
          dsimp only
          rw [shut.unwatched]
          rfl
      | none => exact owes _
  | setContext context => exact ⟨_, session.replies, rfl⟩

theorem close (shut : session.Shut) : session.close = session := by
  obtain ⟨closed, cancelled, unlisted, unwatched⟩ := shut
  cases session
  cases closed
  cases cancelled
  cases unlisted
  cases unwatched
  rfl

end Shut

/-- What can still happen to a closed session: its context, its peer or what it owes changes, or one
of its tasks winds up. -/
inductive Aftermath (turn : Turn) : Turn → Prop
  | rests (context? : Option String) (isAttached : Bool) (received : Nat)
      (replies : List Message) :
      Aftermath turn (turn.1, { turn.2 with context?, isAttached, received, replies })
  | winds (task : Task) (present : task ∈ turn.2.tasks) : Aftermath turn (task.windUp turn)

namespace Shut

/-- What a closed session owes is not sent any more. -/
theorem reply (shut : session.Shut) : ∃ replies, session.reply = { session with replies } := by
  unfold Session.reply
  split
  · exact ⟨session.replies, rfl⟩
  · rename_i message rest _
    split
    · exact ⟨rest, if_pos shut.cancelled⟩
    · exact ⟨session.replies, rfl⟩

theorem aftermath (shut : session.Shut) (site : Site) (happening : Happening) :
    Aftermath (site, session) (happening.turn (site, session)) := by
  have idle : Aftermath (site, session) (site, session) :=
    .rests session.context? session.isAttached session.received session.replies
  have deed := happening.deed (site, session)
  generalize happening.turn (site, session) = after at deed ⊢
  cases deed with
  | asks active? control =>
      obtain ⟨context?, replies, same⟩ := shut.handle active? control
      rw [same]
      exact .rests context? session.isAttached session.received replies
  | owes messages => exact .rests session.context? session.isAttached session.received _
  | replies =>
      obtain ⟨replies, same⟩ := shut.reply
      rw [same]
      exact .rests session.context? session.isAttached session.received replies
  | receives count => exact .rests session.context? session.isAttached _ session.replies
  | hangsUp => exact .rests session.context? false session.received session.replies
  | closes =>
      rw [shut.close]
      exact idle
  | steps task present able due =>
      rw [Task.step_of_cancelled shut.cancelled]
      exact .winds task present
  | ticks task present period =>
      rw [Task.tick_of_cancelled shut.cancelled]
      split
      · exact .winds task present
      · exact idle
  | rests => exact idle

theorem windUp (shut : session.Shut) (task : Task) (site : Site) :
    (task.windUp (site, session)).2.Shut := by
  unfold Task.windUp
  split
  · have same : session.deregister task = session := by
      simp [deregister, shut.unwatched]
    rw [same]
    exact ⟨shut.closed, shut.cancelled, shut.unlisted, shut.unwatched⟩
  · exact ⟨shut.closed, shut.cancelled, shut.unlisted, shut.unwatched⟩

/-- A closed session stays so. -/
theorem turn (shut : session.Shut) (site : Site) (happening : Happening) :
    (happening.turn (site, session)).2.Shut := by
  have aftermath := shut.aftermath site happening
  generalize happening.turn (site, session) = after at aftermath
  cases aftermath with
  | rests =>
      exact ⟨shut.closed, shut.cancelled, shut.unlisted, shut.unwatched⟩
  | winds task present => exact shut.windUp task site

end Shut

/-! ## The end of all tasks -/

/-- Whether the tasks of a session end by themselves.  None of them waits, each step of one leaves
fewer to be made, and nothing that happens makes them more; when none is left, no task is.  Nothing
is asked of a cluster meanwhile: at most a task closes its feed. -/
structure Ends (session : Session) : Prop where
  ready : ∀ task ∈ session.tasks, ∀ site, task.canStep site session = true
  nearer : ∀ task ∈ session.tasks, ∀ site due,
    ((Happening.step task.generation due).turn (site, session)).2.toil < session.toil
  wanes : ∀ site (happening : Happening), (happening.turn (site, session)).2.toil ≤ session.toil
  finished : session.toil = 0 → session.tasks = []
  unasked : ∀ site (happening : Happening), (happening.turn (site, session)).1 = site ∨
    ∃ task ∈ session.tasks, (happening.turn (site, session)).1 = task.release site

/-- The tasks of a closed session end by themselves. -/
theorem Shut.ends (shut : session.Shut) : session.Ends := by
  refine ⟨fun task _ site => Task.canStep_of_cancelled shut.cancelled site,
    fun task present site due => ?_, fun site happening => ?_, tasks_eq_nil_of_toil,
    fun site happening => ?_⟩
  · obtain ⟨other, found⟩ : ∃ other, session.task? task.generation = some other :=
      Option.isSome_iff_exists.mp (List.find?_isSome.mpr ⟨task, present, beq_self_eq_true _⟩)
    have steps : (Happening.step task.generation due).turn (site, session) =
        other.windUp (site, session) := by
      simp [Happening.turn, found, Task.canStep_of_cancelled shut.cancelled,
        Task.step_of_cancelled, shut.cancelled]
    rw [steps]
    exact toil_windUp_lt (task?_eq_some found).1
  · have aftermath := shut.aftermath site happening
    generalize happening.turn (site, session) = after at aftermath
    cases aftermath with
    | rests => exact Nat.le_refl _
    | winds task present => exact Nat.le_of_lt (toil_windUp_lt present)
  · have aftermath := shut.aftermath site happening
    generalize happening.turn (site, session) = after at aftermath
    cases aftermath with
    | rests => exact .inl rfl
    | winds task present => exact .inr ⟨task, present, Task.windUp_site⟩

/-- A closed session that holds no feed, and none of whose tasks runs any more. -/
structure Over (session : Session) : Prop extends Shut session, Silent session where
  stopped : ∀ task ∈ session.tasks, task.phase.isRunning = false

theorem Shut.toOver (shut : session.Shut)
    (stopped : ∀ task ∈ session.tasks, task.phase.isRunning = false) : session.Over :=
  { shut with
    held := held_eq_nil_iff.mpr fun task present =>
      Task.source?_of_not_running (stopped task present)
    stopped }

/-- A session that is over stays so. -/
theorem Over.turn (ended : session.Over) (site : Site) (happening : Happening) :
    (happening.turn (site, session)).2.Over := by
  refine (ended.toShut.turn site happening).toOver ?_
  have aftermath := ended.aftermath site happening
  generalize happening.turn (site, session) = after at aftermath
  cases aftermath with
  | rests => exact ended.stopped
  | winds task present =>
      exact fun other left => (Task.mem_windUp left).elim (ended.stopped other) id

end Session

/-! ## Closing in a hub -/

namespace Hub

theorem session_eq_getElem {hub : Hub} {id : Nat} (inside : id < hub.sessions.length) :
    hub.session id = hub.sessions[id] := by
  unfold Hub.session
  rw [List.getElem?_eq_getElem inside]
  rfl

/-- Tasks stop one after the other, and are gone. -/
theorem foldl_stop (tasks : List Task) (turn : Turn) :
    (tasks.foldl (fun turn task => task.stop turn) turn).2 =
      { turn.2 with
        tasks := turn.2.tasks.filter fun task => task.generation ∉ tasks.map (·.generation) } := by
  induction tasks generalizing turn with
  | nil => simp
  | cons first rest ih =>
      rw [List.foldl_cons, ih]
      refine congrArg (fun tasks => { turn.2 with tasks }) ?_
      rw [Task.stop, Session.dropTask, List.filter_filter]
      refine List.filter_congr fun task _ => ?_
      rw [List.map_cons]
      by_cases same : task.generation = first.generation <;> simp [same]

/-- The tasks that are left when those that served a key have stopped are the others. -/
theorem foldl_stop_registered (session : Session) (site : Site) :
    (session.registered.foldl (fun turn task => task.stop turn) (site, session.close)).2 =
      { session.close with
        tasks := session.tasks.filter fun task => !session.isRegistered task } := by
  rw [foldl_stop]
  refine congrArg (fun tasks => { session.close with tasks }) ?_
  refine List.filter_congr fun task present => ?_
  have registered : task.generation ∈ session.registered.map (·.generation) ↔
      session.isRegistered task = true := by
    constructor
    · intro listed
      obtain ⟨other, serves, same⟩ := List.mem_map.mp listed
      have known := (List.mem_filter.mp serves).2
      unfold Session.isRegistered at known ⊢
      rwa [same] at known
    · exact fun serves =>
        List.mem_map_of_mem (f := Task.generation) (List.mem_filter.mpr ⟨present, serves⟩)
  simp [registered]

/-- Tasks that stop close their feeds, and no other. -/
theorem foldl_stop_isOpenAt (tasks : List Task) (turn : Turn) (spot : Spot) :
    (tasks.foldl (fun turn task => task.stop turn) turn).1.fleet.isOpenAt spot =
      (turn.1.fleet.isOpenAt spot && decide (spot ∉ tasks.filterMap Task.spot?)) := by
  induction tasks generalizing turn with
  | nil => simp
  | cons first rest ih =>
      have released : (first.stop turn).1 = first.release turn.1 := rfl
      rw [List.foldl_cons, ih, released, (first.release_closing turn.1).isOpenAt spot,
        Bool.and_assoc]
      congr 1
      cases held : first.spot? with
      | none => simp [List.filterMap_cons_none held]
      | some own => simp [List.filterMap_cons_some held, eq_comm]

theorem closeSession_eq {hub : Hub} {id : Nat} (inside : id < hub.sessions.length) (site : Site) :
    hub.closeSession site id =
      let stopped := (hub.session id).registered.foldl (fun turn task => task.stop turn)
        (site, (hub.session id).close)
      (stopped.1, hub.put id stopped.2) := by
  rw [session_eq_getElem inside]
  unfold closeSession
  rw [List.getElem?_eq_getElem inside]

theorem closeSession_outside {hub : Hub} {id : Nat} (outside : ¬id < hub.sessions.length)
    (site : Site) : hub.closeSession site id = (site, hub) := by
  unfold closeSession
  rw [List.getElem?_eq_none (Nat.le_of_not_lt outside)]

end Hub

/-- A session before and after it was closed.  The tasks that served its keys have stopped.  A task
that is left had been told to stop before, or had ended by itself. -/
structure Session.Closes (before after : Session) : Prop where
  shut : after.Shut
  tasks : after.tasks = before.tasks.filter fun task => !before.isRegistered task
  dismissed : ∀ task ∈ after.tasks,
    task.isStopping before = true ∨ task.phase.isRunning = false

/-- A session is over at once when none of its watches had been told to stop before. -/
theorem Session.Closes.over {before after : Session} (closes : before.Closes after)
    (kept : ∀ task ∈ before.tasks, task.isStopping before = false) : after.Over := by
  refine closes.shut.toOver fun task left => (closes.dismissed task left).resolve_left ?_
  rw [closes.tasks] at left
  rw [kept task (List.mem_filter.mp left).1]
  exact Bool.false_ne_true

namespace Hub

/-- What it comes to when one session of a hub is closed. -/
structure Closes (id : Nat) (before after : Site × Hub) : Prop where
  session : (before.2.session id).Closes (after.2.session id)
  others : after.2 = before.2.put id (after.2.session id)
  feeds : ∀ spot, after.1.fleet.isOpenAt spot = (before.1.fleet.isOpenAt spot &&
    decide (spot ∉ (before.2.session id).registered.filterMap Task.spot?))
  count : after.2.sessionCount + (before.2.session id).isListed.toNat = before.2.sessionCount

namespace Closes

variable {id : Nat} {before after : Site × Hub}

theorem length (closes : Closes id before after) :
    after.2.sessions.length = before.2.sessions.length := by
  rw [closes.others]
  exact List.length_set

theorem isOpenAt (closes : Closes id before after) {spot : Spot}
    (held : spot ∈ (before.2.session id).registered.filterMap Task.spot?) :
    after.1.fleet.isOpenAt spot = false := by
  rw [closes.feeds spot, decide_eq_false (not_not_intro held), Bool.and_false]

end Closes

/-- A task that serves no key was told to stop, or has ended by itself. -/
theorem dismissed_of_unregistered {session : Session} (coherent : session.Coherent) {task : Task}
    (present : task ∈ session.tasks) (unregistered : session.isRegistered task = false) :
    task.isStopping session = true ∨ task.phase.isRunning = false := by
  cases running : task.phase.isRunning with
  | false => exact .inr rfl
  | true =>
      refine .inl ?_
      by_contra going
      obtain ⟨uncancelled, alive⟩ :
          task.isCancelled = false ∧ session.isCancelled = false := by
        simpa [Task.isStopping, running] using going
      have listed : task.phase.isReporting = false := by
        cases phase : task.phase <;> simp_all [Phase.isRunning, Phase.isReporting]
      have serving : (⟨task.generation, task.key, true⟩ : Role) ∈ session.roles :=
        List.mem_map.mpr ⟨task, present, by simp [Task.role, Task.isServing, uncancelled, listed]⟩
      have stored := Assoc.mem_of_get? ((coherent.served alive _ _).mpr serving)
      have registered : session.isRegistered task = true :=
        List.any_eq_true.mpr ⟨_, stored, beq_self_eq_true _⟩
      rw [registered] at unregistered
      cases unregistered

theorem sessionCount_put {hub : Hub} {id : Nat} (inside : id < hub.sessions.length)
    {session : Session} (unlisted : session.isListed = false) :
    (hub.put id session).sessionCount + (hub.session id).isListed.toNat = hub.sessionCount := by
  unfold sessionCount Hub.put
  rw [session_eq_getElem inside, List.countP_set inside, unlisted]
  cases listed : hub.sessions[id].isListed with
  | false => simp
  | true =>
      have counted : 0 < hub.sessions.countP (·.isListed) :=
        List.countP_pos_iff.mpr ⟨_, List.getElem_mem inside, listed⟩
      simp
      omega

theorem closeSession_closes {hub : Hub} (sane : hub.Sane) {id : Nat}
    (inside : id < hub.sessions.length) (site : Site) :
    Closes id (site, hub) (hub.closeSession site id) := by
  have feeds := foldl_stop_isOpenAt (hub.session id).registered (site, (hub.session id).close)
  rw [closeSession_eq inside]
  dsimp only
  rw [foldl_stop_registered]
  have own := session_put_self inside
    { (hub.session id).close with
      tasks := (hub.session id).tasks.filter fun task => !(hub.session id).isRegistered task }
  refine ⟨own.symm ▸ ⟨⟨rfl, rfl, rfl, rfl⟩, rfl, fun task left => ?_⟩, by rw [own], feeds,
    sessionCount_put inside rfl⟩
  obtain ⟨present, unregistered⟩ := List.mem_filter.mp left
  exact dismissed_of_unregistered (sane.session id).coherent present (by simpa using unregistered)

theorem closeSession_sane {hub : Hub} (sane : hub.Sane) (site : Site) (id : Nat) :
    (hub.closeSession site id).2.Sane := by
  have reaches : Reaches (fun _ _ => True) (site, hub) site hub := .refl sane
  exact (reaches.closeSession (fun _ _ _ => trivial) trivial).sane

/-- Every session of a list is closed in its turn, and the others are left alone. -/
theorem foldl_closeSession {ids : List Nat} (nodup : ids.Nodup) (state : Site × Hub)
    (sane : state.2.Sane) :
    let after := ids.foldl (fun state id => closeSession state.2 state.1 id) state
    after.2.sessions.length = state.2.sessions.length ∧
      after.2.isCancelled = state.2.isCancelled ∧
      ∀ id < state.2.sessions.length,
        if id ∈ ids then (state.2.session id).Closes (after.2.session id)
        else after.2.session id = state.2.session id := by
  induction ids generalizing state with
  | nil => exact ⟨rfl, rfl, fun id _ => by simp⟩
  | cons first rest ih =>
      obtain ⟨alone, nodupRest⟩ := List.nodup_cons.mp nodup
      obtain ⟨length, cancelled, each⟩ :=
        ih nodupRest (closeSession state.2 state.1 first) (closeSession_sane sane _ _)
      rw [List.foldl_cons]
      by_cases inside : first < state.2.sessions.length
      · have closes := closeSession_closes sane inside state.1
        refine ⟨length.trans closes.length, cancelled.trans (by rw [closes.others]; rfl),
          fun id opened => ?_⟩
        have later := each id (by rwa [closes.length])
        by_cases same : first = id
        · subst same
          rw [if_neg alone] at later
          rw [if_pos List.mem_cons_self, later]
          exact closes.session
        · have kept : (closeSession state.2 state.1 first).2.session id = state.2.session id := by
            rw [closes.others, session_put_of_ne _ same]
          rw [kept] at later
          simpa [Ne.symm same] using later
      · rw [closeSession_outside inside] at length cancelled each ⊢
        refine ⟨length, cancelled, fun id opened => ?_⟩
        have different : id ≠ first := fun same => inside (same ▸ opened)
        simpa [different] using each id opened

/-- A hub before and after it was shut down. -/
structure ShutsDown (before after : Hub) : Prop where
  cancelled : after.isCancelled = true
  length : after.sessions.length = before.sessions.length
  sessions : ∀ id < before.sessions.length, (before.session id).Closes (after.session id)

theorem shutdown_shutsDown {hub : Hub} (sane : hub.Sane) (site : Site) :
    hub.ShutsDown (hub.shutdown site).2 := by
  obtain ⟨length, cancelled, each⟩ := foldl_closeSession List.nodup_range
    (site, { hub with isCancelled := true }) sane
  refine ⟨cancelled, length, fun id inside => ?_⟩
  have closes := each id inside
  rwa [if_pos (List.mem_range.mpr inside)] at closes

namespace ShutsDown

variable {before after : Hub}

theorem shut (down : before.ShutsDown after) {session : Session}
    (present : session ∈ after.sessions) : session.Shut := by
  obtain ⟨id, inside, rfl⟩ := List.getElem_of_mem present
  rw [← session_eq_getElem inside]
  exact (down.sessions id (down.length ▸ inside)).shut

theorem sessionCount (down : before.ShutsDown after) : after.sessionCount = 0 := by
  refine List.countP_eq_zero.mpr fun session present => ?_
  rw [(down.shut present).unlisted]
  exact Bool.false_ne_true

/-- A feed that is open after a shutdown belongs to a watch that had been told to stop before. -/
theorem dismissed (down : before.ShutsDown after) {site : Site} (booked : Booked site after)
    {spot : Spot} (opened : site.fleet.isOpenAt spot = true) :
    ∃ session ∈ before.sessions, ∃ task ∈ session.tasks,
      task.spot? = some spot ∧ task.isStopping session = true := by
  have held : spot ∈ after.held := by
    refine List.count_pos_iff.mp ?_
    rw [booked.books spot, opened]
    exact Nat.one_pos
  obtain ⟨session, present, holds⟩ := List.mem_flatMap.mp held
  obtain ⟨task, left, own⟩ := List.mem_filterMap.mp holds
  obtain ⟨id, inside, rfl⟩ := List.getElem_of_mem present
  have earlier : id < before.sessions.length := down.length ▸ inside
  have closes := down.sessions id earlier
  rw [session_eq_getElem inside] at closes
  have stored := left
  rw [closes.tasks] at stored
  refine ⟨before.session id, session_mem earlier, task, (List.mem_filter.mp stored).1, own,
    (closes.dismissed task left).resolve_right fun ended => ?_⟩
  have free := Task.source?_of_not_running ended
  simp [Task.spot?, Phase.spot?, free] at own

end ShutsDown

/-- A hub that was shut down when it had so many sessions.  These are closed; the ones that were
opened later ask nothing of a cluster. -/
structure Down (count : Nat) (hub : Hub) : Prop where
  cancelled : hub.isCancelled = true
  length : count ≤ hub.sessions.length
  shut : ∀ id < count, (hub.session id).Shut
  silent : ∀ id, count ≤ id → id < hub.sessions.length → (hub.session id).Silent

theorem ShutsDown.down {before after : Hub} (down : before.ShutsDown after) :
    after.Down before.sessions.length :=
  ⟨down.cancelled, down.length.ge, fun id inside => (down.sessions id inside).shut,
    fun _ later inside => absurd (Nat.lt_of_lt_of_eq inside down.length) (Nat.not_lt.mpr later)⟩

theorem Down.session_cancelled {count : Nat} {hub : Hub} (down : hub.Down count) {session : Session}
    (present : session ∈ hub.sessions) : session.isCancelled = true := by
  obtain ⟨id, inside, rfl⟩ := List.getElem_of_mem present
  rw [← session_eq_getElem inside]
  by_cases earlier : id < count
  · exact (down.shut id earlier).cancelled
  · exact (down.silent id (Nat.le_of_not_lt earlier) inside).cancelled

/-- When every task waits, a cancelled session has none. -/
theorem tasks_eq_nil_of_idle {site : Site} {hub : Hub} (idle : hub.isIdle site = true)
    {session : Session} (present : session ∈ hub.sessions)
    (cancelled : session.isCancelled = true) : session.tasks = [] := by
  refine List.eq_nil_iff_forall_not_mem.mpr fun task stored => ?_
  have waits := canStep_of_isIdle idle present stored
  rw [Task.canStep_of_cancelled cancelled] at waits
  cases waits

/-- When every task of a hub that was shut down waits, no feed is open. -/
theorem Down.isOpenAt {count : Nat} {site : Site} {hub : Hub} (down : hub.Down count)
    (booked : Booked site hub) (idle : hub.isIdle site = true) (spot : Spot) :
    site.fleet.isOpenAt spot = false := by
  have free : hub.held = [] := List.flatMap_eq_nil_iff.mpr fun session present => by
    rw [Session.held, tasks_eq_nil_of_idle idle present (down.session_cancelled present)]
    rfl
  have books := booked.books spot
  rw [free, List.count_nil] at books
  exact Bool.toNat_eq_zero.mp books.symm

/-! ## What stays so -/

section Moves

variable {permits : Nat → Happening → Prop} {before after : Site × Hub}

/-- What every happening keeps of a session, every move keeps of the session at its place. -/
theorem Move.keeps_session {P : Session → Prop}
    (keeps : ∀ {session} site (happening : Happening), P session →
      P (happening.turn (site, session)).2)
    (move : Move permits before after) {id : Nat} (inside : id < before.2.sessions.length)
    (holds : P (before.2.session id)) :
    id < after.2.sessions.length ∧ P (after.2.session id) := by
  cases move with
  | serves => exact ⟨inside, holds⟩
  | happens site hub place happening =>
      refine ⟨by rwa [happen, Hub.put, List.length_set], ?_⟩
      unfold happen
      by_cases same : place = id
      · subst same
        rw [session_put_self inside]
        exact keeps site happening holds
      · rwa [session_put_of_ne _ same]
  | opens site hub context? =>
      refine ⟨Nat.lt_of_lt_of_le inside (by simp [openSession]), ?_⟩
      have kept : (hub.openSession context?).2.session id = hub.session id := by
        unfold Hub.session openSession
        rw [List.getElem?_append_left inside]
      rwa [kept]
  | cancels => exact ⟨inside, holds⟩

theorem Moves.keeps_session {P : Session → Prop}
    (keeps : ∀ {session} site (happening : Happening), P session →
      P (happening.turn (site, session)).2)
    (moves : Moves permits before after) {id : Nat} (inside : id < before.2.sessions.length)
    (holds : P (before.2.session id)) :
    id < after.2.sessions.length ∧ P (after.2.session id) := by
  induction moves with
  | refl => exact ⟨inside, holds⟩
  | tail _ last ih => exact last.keeps_session keeps ih.1 ih.2

/-- A place where there was no session has at most a new one after a move. -/
theorem Move.fresh (move : Move permits before after) {id : Nat}
    (beyond : before.2.sessions.length ≤ id) (inside : id < after.2.sessions.length) :
    ∃ context?, after.2.session id = { context?, isCancelled := before.2.isCancelled } := by
  cases move with
  | serves => exact absurd inside (Nat.not_lt.mpr beyond)
  | happens site hub place happening =>
      rw [happen, Hub.put, List.length_set] at inside
      exact absurd inside (Nat.not_lt.mpr beyond)
  | opens site hub context? =>
      have last : id = hub.sessions.length := by
        rw [openSession, List.length_append, List.length_singleton] at inside
        exact Nat.le_antisymm (Nat.le_of_lt_succ inside) beyond
      refine ⟨context?.filter (!·.isEmpty), ?_⟩
      unfold Hub.session openSession
      rw [last, List.getElem?_append_right (Nat.le_refl _)]
      simp
  | cancels => exact absurd inside (Nat.not_lt.mpr beyond)

/-- New sessions of a hub that was shut down are silent from the start, and stay so. -/
theorem Down.move {count : Nat} (down : before.2.Down count) (move : Move permits before after) :
    after.2.Down count where
  cancelled := by
    cases move with
    | cancels => rfl
    | _ => exact down.cancelled
  length := by
    cases move with
    | happens site hub id happening =>
        rw [happen, Hub.put, List.length_set]
        exact down.length
    | opens site hub context? =>
        exact Nat.le_trans down.length (by simp [openSession])
    | _ => exact down.length
  shut id early := (move.keeps_session (fun site happening shut => shut.turn site happening)
    (Nat.lt_of_lt_of_le early down.length) (down.shut id early)).2
  silent id late inside := by
    by_cases known : id < before.2.sessions.length
    · exact (move.keeps_session (fun site happening silent => silent.turn site happening) known
        (down.silent id late known)).2
    · obtain ⟨context?, new⟩ := move.fresh (Nat.le_of_not_lt known) inside
      rw [new, down.cancelled]
      exact .fresh context?

theorem Down.moves {count : Nat} (down : before.2.Down count)
    (moves : Moves permits before after) : after.2.Down count := by
  induction moves with
  | refl => exact down
  | tail _ last ih => exact ih.move last

end Moves
end Hub
end Watch
end KubeLens
