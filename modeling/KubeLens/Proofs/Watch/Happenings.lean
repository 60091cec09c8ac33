import KubeLens.Proofs.Watch.Requests

/-!
# The life of a session

A session lives through what its peer does and through the turns of its tasks, in any order.
Between two happenings everything else may change: each of them finds the surroundings as they
are by then.
-/

namespace KubeLens
namespace Watch

/-- Something that happens to a session. -/
inductive Happening
  /-- The peer sends a control message while `active?` is the active context. -/
  | asks (active? : Option String) (control : Control)
  /-- The peer sends a text that is no control message. -/
  | garbles
  /-- The session sends the next message that it owes, if it can. -/
  | replies
  /-- The peer receives messages that wait. -/
  | receives (count : Nat)
  /-- The peer stops receiving. -/
  | hangsUp
  /-- The session is marked as closed. -/
  | closes
  /-- A task makes its next step, if it need not wait. -/
  | step (generation due : Nat)
  /-- A task reads its object again. -/
  | tick (generation period : Nat)

/-- What happens to a site and a session. -/
def Happening.turn (turn : Turn) : Happening → Turn
  | asks active? control => (turn.1, turn.2.handle active? control)
  | garbles => (turn.1, turn.2.owe [.error "Invalid message format"])
  | replies => (turn.1, turn.2.reply)
  | receives count => (turn.1, turn.2.receive count)
  | hangsUp => (turn.1, turn.2.hangUp)
  | closes => (turn.1, turn.2.close)
  | step generation due =>
    match turn.2.task? generation with
    | some task => if task.canStep turn.1 turn.2 then task.step due turn else turn
    | none => turn
  | tick generation period =>
    match turn.2.task? generation with
    | some task => task.tick period turn
    | none => turn

/-- Whether a happening finds the surroundings as they are. -/
def Happening.Meets (site : Site) : Happening → Prop
  | asks active? _ => active? = site.board.current
  | _ => True

namespace Session

/-- A session after a history, in which each happening has its own surroundings. -/
def live (session : Session) (history : List (Site × Happening)) : Session :=
  history.foldl (fun session entry => (entry.2.turn (entry.1, session)).2) session

@[simp] theorem live_nil (session : Session) : session.live [] = session := rfl

@[simp] theorem live_cons (session : Session) (site : Site) (happening : Happening)
    (history : List (Site × Happening)) :
    session.live ((site, happening) :: history) =
      (happening.turn (site, session)).2.live history := rfl

/-- What holds at first, and what every happening keeps, holds after every history. -/
theorem live_induction {P : Session → Prop} (session : Session)
    (history : List (Site × Happening)) (initial : P session)
    (keeps : ∀ site earlier happening, P earlier → P (Happening.turn (site, earlier) happening).2) :
    P (session.live history) :=
  List.foldlRecOn history _ initial fun earlier holds entry _ =>
    keeps entry.1 earlier entry.2 holds

/-- Whether a session came to be by what happened to it since it was opened. -/
def Lives (session : Session) : Prop :=
  ∃ context? isCancelled history, session = Session.live { context?, isCancelled } history

theorem Lives.turn {session : Session} (lives : session.Lives) (site : Site)
    (happening : Happening) : (happening.turn (site, session)).2.Lives := by
  obtain ⟨context?, isCancelled, history, rfl⟩ := lives
  exact ⟨context?, isCancelled, history ++ [(site, happening)], by simp [Session.live]⟩

theorem task?_eq_some {session : Session} {generation : Nat} {task : Task}
    (found : session.task? generation = some task) :
    task ∈ session.tasks ∧ task.generation = generation :=
  ⟨List.mem_of_find?_eq_some found, by simpa using List.find?_some found⟩

end Session

/-- What a happening can come to: the peer does something, or a task takes a turn. -/
inductive Deed (turn : Turn) : Turn → Prop
  | asks (active? : Option String) (control : Control) :
      Deed turn (turn.1, turn.2.handle active? control)
  | owes (messages : List Message) : Deed turn (turn.1, turn.2.owe messages)
  | replies : Deed turn (turn.1, turn.2.reply)
  | receives (count : Nat) : Deed turn (turn.1, turn.2.receive count)
  | hangsUp : Deed turn (turn.1, turn.2.hangUp)
  | closes : Deed turn (turn.1, turn.2.close)
  | steps (task : Task) (present : task ∈ turn.2.tasks)
      (able : task.canStep turn.1 turn.2 = true) (due : Nat) : Deed turn (task.step due turn)
  | ticks (task : Task) (present : task ∈ turn.2.tasks) (period : Nat) :
      Deed turn (task.tick period turn)
  | rests : Deed turn turn

theorem Happening.deed (happening : Happening) (turn : Turn) :
    Deed turn (happening.turn turn) := by
  cases happening with
  | asks active? control => exact .asks active? control
  | garbles => exact .owes _
  | replies => exact .replies
  | receives count => exact .receives count
  | hangsUp => exact .hangsUp
  | closes => exact .closes
  | step generation due =>
      unfold Happening.turn
      dsimp only
      split
      · rename_i task found
        split
        · exact .steps task (Session.task?_eq_some found).1 ‹_› due
        · exact .rests
      · exact .rests
  | tick generation period =>
      unfold Happening.turn
      dsimp only
      split
      · rename_i task found
        exact .ticks task (Session.task?_eq_some found).1 period
      · exact .rests

/-! ## What stays so -/

namespace Session

/-- Tasks and watched keys agree, and a session that is closed is cancelled and watches
nothing. -/
structure Sane (session : Session) : Prop where
  coherent : session.Coherent
  closed : session.isClosed = true → session.isCancelled = true ∧
    ∀ key, session.watches.get? key = none
  /-- A generation is registered once. -/
  distinct : ∀ first second generation, session.watches.get? first = some generation →
    session.watches.get? second = some generation → first = second
  /-- A registered task stands under its own key. -/
  owner : ∀ task ∈ session.tasks, ∀ key, session.watches.get? key = some task.generation →
    key = task.key

namespace Sane

variable {session after : Session}

theorem fresh (context? : Option String) (isCancelled : Bool) :
    Sane { context?, isCancelled } :=
  ⟨.fresh context? isCancelled, nofun, fun _ _ _ registered => absurd registered (by simp),
    List.forall_mem_nil _⟩

/-- A session that is not cancelled is open. -/
theorem opened (sane : session.Sane) (alive : session.isCancelled = false) :
    session.isClosed = false := by
  by_contra closed
  rw [(sane.closed (by simpa using closed)).1] at alive
  cases alive

/-- Nothing is registered or started, and tasks keep their keys. -/
theorem shrink (sane : session.Sane) (coherent : after.Coherent)
    (closed : after.isClosed = session.isClosed)
    (cancelled : after.isCancelled = false → session.isCancelled = false)
    (watches : ∀ key generation, after.watches.get? key = some generation →
      session.watches.get? key = some generation)
    (tasks : ∀ task ∈ after.tasks, ∃ earlier ∈ session.tasks,
      earlier.generation = task.generation ∧ earlier.key = task.key) : after.Sane := by
  refine ⟨coherent, fun shut => ⟨?_, fun key => ?_⟩,
    fun first second generation one other => ?_, fun task present key registered => ?_⟩
  · by_contra alive
    rw [(sane.closed (closed ▸ shut)).1] at cancelled
    cases cancelled (by simpa using alive)
  · by_contra registered
    obtain ⟨generation, found⟩ := Option.ne_none_iff_exists'.mp registered
    have earlier := watches key generation found
    rw [(sane.closed (closed ▸ shut)).2 key] at earlier
    cases earlier
  · exact sane.distinct first second generation (watches _ _ one) (watches _ _ other)
  · obtain ⟨earlier, stored, generation, same⟩ := tasks task present
    rw [← same]
    exact sane.owner earlier stored key (generation ▸ watches key _ registered)

end Sane

/-- A message registers new tasks only, under their own keys. -/
theorem handle_sane {session : Session} (sane : session.Sane) (active? : Option String)
    (control : Control) : (session.handle active? control).Sane := by
  obtain ⟨dropped, started, heeds⟩ := session.handle_heeds active? control
  have arranges := heeds.arranges
  have coherent := (session.handle_speaks active? control).coherent sane.coherent
  have utters := session.handle_utters active? control
  have entry : ∀ key generation,
      (session.handle active? control).watches.get? key = some generation →
        (∃ task ∈ started, task.key = key ∧ task.generation = generation) ∨
        session.watches.get? key = some generation := by
    intro key generation registered
    by_cases entered : key ∈ started.map Task.key
    · obtain ⟨task, present, rfl⟩ := List.mem_map.mp entered
      exact .inl ⟨task, present, rfl,
        Option.some.inj ((arranges.registered task present).symm.trans registered)⟩
    · rw [arranges.others key entered] at registered
      split at registered
      · cases registered
      · exact .inr registered
  refine ⟨coherent, fun shut => ?_, ?_, ?_⟩
  · obtain ⟨cancelled, unwatched⟩ := sane.closed (utters.closed ▸ shut)
    refine ⟨?_, fun key => ?_⟩
    · by_contra alive
      rw [utters.uncancelled (by simpa using alive)] at cancelled
      cases cancelled
    · rw [heeds.closed (utters.closed ▸ shut)] at entry
      by_contra registered
      obtain ⟨generation, found⟩ := Option.ne_none_iff_exists'.mp registered
      rcases entry key generation found with ⟨_, absent, _⟩ | earlier
      · cases absent
      · rw [unwatched key] at earlier
        cases earlier
  · intro first second generation one other
    rcases entry first generation one with ⟨task, present, rfl, rfl⟩ | earlier
    · rcases entry second _ other with ⟨twin, isNew, rfl, same⟩ | earlier
      · rw [arranges.started_unique isNew present same]
      · exact absurd (sane.coherent.watch_below second _ earlier)
          (Nat.not_lt.mpr (arranges.generation_bounds present).1)
    · rcases entry second _ other with ⟨task, present, rfl, rfl⟩ | also
      · exact absurd (sane.coherent.watch_below first _ earlier)
          (Nat.not_lt.mpr (arranges.generation_bounds present).1)
      · exact sane.distinct first second generation earlier also
  · intro task present key registered
    rw [arranges.tasks] at present
    rcases List.mem_append.mp present with old | new
    · obtain ⟨before, stored, rfl⟩ := List.mem_map.mp old
      rcases entry key _ registered with ⟨twin, isNew, rfl, same⟩ | earlier
      · have below : before.generation < session.nextGeneration :=
          sane.coherent.role_below _ (List.mem_map_of_mem stored)
        have bound := (arranges.generation_bounds isNew).1
        rw [same] at bound
        exact absurd below (Nat.not_lt.mpr bound)
      · exact sane.owner before stored key earlier
    · rcases entry key _ registered with ⟨twin, isNew, rfl, same⟩ | earlier
      · rw [arranges.started_unique isNew new same]
      · exact absurd (sane.coherent.watch_below key _ earlier)
          (Nat.not_lt.mpr (arranges.generation_bounds new).1)

/-- A turn of a task registers nothing, and tasks keep their keys. -/
theorem change_shrinks {task : Task} {before after : Turn} (change : task.Change before after) :
    (∀ key generation, after.2.watches.get? key = some generation →
      before.2.watches.get? key = some generation) ∧
    ∀ other ∈ after.2.tasks, ∃ earlier ∈ before.2.tasks,
      earlier.generation = other.generation ∧ earlier.key = other.key := by
  have same : ∀ {tasks}, tasks = before.2.tasks → ∀ other ∈ tasks, ∃ earlier ∈ before.2.tasks,
      earlier.generation = other.generation ∧ earlier.key = other.key := by
    rintro _ rfl other present
    exact ⟨other, present, rfl, rfl⟩
  have phased : ∀ {tasks : List Task} {phase},
      tasks = (before.2.setPhase task.generation phase).tasks → ∀ other ∈ tasks,
        ∃ earlier ∈ before.2.tasks,
          earlier.generation = other.generation ∧ earlier.key = other.key := by
    rintro _ phase rfl other present
    obtain ⟨earlier, stored, rfl⟩ := List.mem_map.mp present
    refine ⟨earlier, stored, ?_⟩
    split <;> exact ⟨rfl, rfl⟩
  have retained : before.2.Retains after.2 → ∀ key generation,
      after.2.watches.get? key = some generation →
        before.2.watches.get? key = some generation := by
    intro retains key generation registered
    rwa [retains.watches] at registered
  cases change with
  | rests _ retains tasks => exact ⟨retained retains, same tasks⟩
  | proceeds phase _ _ _ _ _ _ retains tasks => exact ⟨retained retains, phased tasks⟩
  | opens _ _ _ _ _ _ _ retains tasks => exact ⟨retained retains, phased tasks⟩
  | withdraws site session reason =>
      refine ⟨fun key generation registered => ?_,
        phased (setPhase_tasks _ _ (session.deregister_tasks task))⟩
      · have left : (session.deregister task).watches.get? key = some generation := registered
        unfold Session.deregister at left
        split at left
        · rw [Assoc.get?_erase] at left
          split at left
          · cases left
          · exact left
        · exact left
  | leaves _ _ retains tasks =>
      refine ⟨retained retains, fun other present => ?_⟩
      rw [tasks] at present
      exact ⟨other, (List.mem_filter.mp present).1, rfl, rfl⟩

/-- Every happening keeps a session sane. -/
theorem deed_sane {before after : Turn} (deed : Deed before after) (sane : before.2.Sane) :
    after.2.Sane := by
  have turned : ∀ {task : Task} {origin}, task ∈ before.2.tasks → task.Change before after →
      Utters origin before.2 after.2 → after.2.Sane := by
    intro task origin present change utters
    obtain ⟨watches, tasks⟩ := change_shrinks change
    exact sane.shrink (change.coherent sane.coherent present) utters.closed utters.uncancelled
      watches tasks
  cases deed with
  | asks active? control => exact handle_sane sane active? control
  | owes messages =>
      exact sane.shrink ((owe_speaks before.2 messages).coherent sane.coherent) rfl id
        (fun _ _ registered => registered) fun task present => ⟨task, present, rfl, rfl⟩
  | replies =>
      have utters := before.2.reply_utters
      refine sane.shrink ((reply_speaks before.2).coherent sane.coherent) utters.closed
        utters.uncancelled ?_ ?_
      · rw [before.2.reply_retains.watches]
        exact fun _ _ registered => registered
      · rw [before.2.reply_tasks]
        exact fun task present => ⟨task, present, rfl, rfl⟩
  | receives count =>
      exact sane.shrink ((receive_speaks before.2 count).coherent sane.coherent) rfl id
        (fun _ _ registered => registered) fun task present => ⟨task, present, rfl, rfl⟩
  | hangsUp =>
      exact sane.shrink ((hangUp_speaks before.2).coherent sane.coherent) rfl id
        (fun _ _ registered => registered) fun task present => ⟨task, present, rfl, rfl⟩
  | closes =>
      exact ⟨(close_speaks before.2).coherent sane.coherent, fun _ => ⟨rfl, fun _ => rfl⟩,
        fun _ _ _ registered => absurd registered (by simp [Session.close]),
        fun _ _ _ registered => absurd registered (by simp [Session.close])⟩
  | steps task present able due =>
      exact turned present (task.step_change due before) (task.step_utters due before)
  | ticks task present period =>
      exact turned present (task.tick_change period before) (task.tick_utters period before)
  | rests => exact sane

theorem live_sane {session : Session} (sane : session.Sane) (history : List (Site × Happening)) :
    (session.live history).Sane :=
  live_induction session history sane fun site earlier happening holds =>
    deed_sane (happening.deed (site, earlier)) holds

end Session
end Watch
end KubeLens
