import KubeLens.Proofs.Watch.Feeds
import KubeLens.Proofs.Watch.Roles

/-!
# Turns of a task

In one turn a task rests, goes on to another phase, opens a feed, takes its object off the list,
or leaves.  The cases are proved once for all steps; that tasks agree with watched keys and that
the books stay balanced follows from the cases.  When the session is cancelled, all that is left to
a task is to wind up.
-/

namespace KubeLens
namespace Watch

/-! ## The cases -/

/-- Two sessions with the same watched keys; the second one may be cancelled. -/
structure Session.Retains (before after : Session) : Prop where
  watches : after.watches = before.watches
  next : after.nextGeneration = before.nextGeneration
  cancelled : after.isCancelled = false → before.isCancelled = false

theorem Session.setPhase_tasks {before after : Session} (generation : Nat) (phase : Phase)
    (tasks : after.tasks = before.tasks) :
    (after.setPhase generation phase).tasks = (before.setPhase generation phase).tasks := by
  unfold Session.setPhase
  rw [tasks]

theorem Session.dropTask_tasks {before after : Session} (generation : Nat)
    (tasks : after.tasks = before.tasks) :
    (after.dropTask generation).tasks = (before.dropTask generation).tasks := by
  unfold Session.dropTask
  rw [tasks]

@[simp] theorem Session.setPhase_watches (session : Session) (generation : Nat) (phase : Phase) :
    (session.setPhase generation phase).watches = session.watches := rfl

theorem Session.deregister_tasks (session : Session) (task : Task) :
    (session.deregister task).tasks = session.tasks := by
  unfold Session.deregister
  split <;> rfl

/-- Whether a task in this phase waits in vain only for a source that `hung` holds of. -/
def Phase.WaitsOn (hung : Source → Prop) (phase : Phase) : Prop :=
  ∀ source, phase = .stalled source → hung source

theorem Phase.waitsOn_of_ne {hung : Source → Prop} {phase : Phase}
    (goesOn : ∀ source, phase ≠ .stalled source) : phase.WaitsOn hung :=
  fun source stalled => absurd stalled (goesOn source)

/-- Whether the tasks of a session wait in vain only for sources that `hung` holds of. -/
def Session.WaitsOn (hung : Source → Prop) (session : Session) : Prop :=
  ∀ task ∈ session.tasks, task.phase.WaitsOn hung

/-- Whether the cluster of a source has stopped answering gets. -/
def Source.Hangs (fleet : Fleet) (source : Source) : Prop :=
  (source.client.cluster fleet).isStalled = true

@[simp] theorem Phase.source?_goingOn (source : Source) (message? : Option Message) (due : Nat) :
    (goingOn source message? due).source? = some source := by
  cases message? <;> rfl

theorem Phase.goingOn_ne_stalled (source : Source) (message? : Option Message) (due : Nat)
    (other : Source) : goingOn source message? due ≠ .stalled other := by
  cases message? <;> nofun

namespace Task

/-- What a task can do in one turn. -/
inductive Change (task : Task) : Turn → Turn → Prop
  /-- The task does not change. -/
  | rests {before after : Turn} (fleet : before.1.fleet.SameOpen after.1.fleet)
      (session : before.2.Retains after.2) (tasks : after.2.tasks = before.2.tasks) :
      Change task before after
  /-- The task enters another phase, and closes its feed unless it keeps it. -/
  | proceeds {before after : Turn} (phase : Phase) (closed? : Option Spot)
      (listed : task.phase.isReporting = false) (stillListed : phase.isReporting = false)
      (fleet : Fleet.Closing closed? before.1.fleet after.1.fleet)
      (closes : ∀ spot, holding phase.spot? spot + holding closed? spot = holding task.spot? spot)
      (waits : phase.WaitsOn (Source.Hangs before.1.fleet))
      (session : before.2.Retains after.2)
      (tasks : after.2.tasks = (before.2.setPhase task.generation phase).tasks) :
      Change task before after
  /-- The task opens a feed. -/
  | opens {before after : Turn} (source : Source)
      (listed : task.phase.isReporting = false) (free : task.spot? = none)
      (unused : before.1.fleet.isOpenAt source.spot = false)
      (opened : ∀ spot, after.1.fleet.isOpenAt spot =
        (before.1.fleet.isOpenAt spot || decide (spot = source.spot)))
      (answers : before.1.fleet.Answers → after.1.fleet.Answers)
      (keys_nodup : (Assoc.keys before.1.fleet.clusters).Nodup →
        (Assoc.keys after.1.fleet.clusters).Nodup)
      (session : before.2.Retains after.2)
      (tasks : after.2.tasks = (before.2.setPhase task.generation (.opened source)).tasks) :
      Change task before after
  /-- The task takes its object off the list. -/
  | withdraws (site : Site) (session : Session) (reason : Ending)
      (ending : task.phase = .ending reason) :
      Change task (site, session)
        (site, task.enter (session.deregister task) (.reporting reason))
  /-- The task ends, and closes its feed if it has one. -/
  | leaves {before after : Turn}
      (idle : before.2.isCancelled = false → task.isServing = false)
      (fleet : Fleet.Closing task.spot? before.1.fleet after.1.fleet)
      (session : before.2.Retains after.2)
      (tasks : after.2.tasks = (before.2.dropTask task.generation).tasks) :
      Change task before after

theorem post_retains (session : Session) (origin : Option Nat) (message : Message) :
    session.Retains (session.post origin message) := by
  unfold Session.post
  split
  · exact ⟨rfl, rfl, id⟩
  · split
    · exact ⟨rfl, rfl, id⟩
    · exact ⟨rfl, rfl, nofun⟩

theorem post_tasks (session : Session) (origin : Option Nat) (message : Message) :
    (session.post origin message).tasks = session.tasks := by
  unfold Session.post
  split
  · rfl
  · split <;> rfl

end Task

namespace Session

theorem reply_retains (session : Session) : session.Retains session.reply := by
  unfold reply
  split
  · exact ⟨rfl, rfl, id⟩
  · rename_i message rest _
    split
    · have posted := Task.post_retains { session with replies := rest } none message
      exact ⟨posted.watches, posted.next, posted.cancelled⟩
    · exact ⟨rfl, rfl, id⟩

theorem reply_tasks (session : Session) : session.reply.tasks = session.tasks := by
  unfold reply
  split
  · rfl
  · rename_i message rest _
    split
    · exact Task.post_tasks { session with replies := rest } none message
    · rfl

end Session

namespace Task

/-! ## Each step is one of the cases -/

variable {task : Task}

theorem stop_change {site : Site} {session : Session}
    (stopping : task.isStopping session = true) :
    task.Change (site, session) (task.stop (site, session)) := by
  refine .leaves (fun alive => ?_) (task.release_closing site) ⟨rfl, rfl, id⟩ rfl
  have cancelled : task.isCancelled = true := by
    unfold isStopping at stopping
    simp_all
  simp [isServing, cancelled]

theorem connect_change (starting : task.phase = .starting) (site : Site) (session : Session) :
    task.Change (site, session) (task.connect (site, session)) := by
  have resolved := (site.resolve_evolves task.context?).sameOpen
  have free : task.spot? = none := by simp [Task.spot?, starting, Phase.spot?, Phase.source?]
  unfold connect
  dsimp only
  split
  · rename_i error after answer
    rw [answer] at resolved
    exact .proceeds (.ending (.failed error)) none (by rw [starting]; rfl) rfl resolved
      (fun spot => by rw [free]; rfl) nofun ⟨rfl, rfl, id⟩ rfl
  · rename_i handle after answer
    rw [answer] at resolved
    exact .proceeds (.resolved handle) none (by rw [starting]; rfl) rfl resolved
      (fun spot => by rw [free]; rfl) nofun ⟨rfl, rfl, id⟩ rfl

theorem pin_change {handle : Handle} (resolved : task.phase = .resolved handle) (site : Site)
    (session : Session) : task.Change (site, session) (task.pin handle (site, session)) := by
  have free : task.spot? = none := by simp [Task.spot?, resolved, Phase.spot?, Phase.source?]
  unfold pin
  dsimp only
  refine .proceeds (.connected handle) none (by rw [resolved]; rfl) rfl
    (Fleet.SameOpen.refl site.fleet) (fun spot => by rw [free]; rfl) nofun ?_ ?_
  · split <;> exact ⟨rfl, rfl, id⟩
  · split <;> rfl

theorem subscribe_change {handle : Handle} (connected : task.phase = .connected handle)
    (site : Site) (session : Session) :
    task.Change (site, session) (task.subscribe handle (site, session)) := by
  have free : task.spot? = none := by simp [Task.spot?, connected, Phase.spot?, Phase.source?]
  unfold subscribe
  dsimp only
  split
  · refine .proceeds _ none (by rw [connected]; rfl) rfl (Fleet.SameOpen.refl site.fleet)
      (fun spot => by rw [free]; rfl) (Phase.waitsOn_of_ne ?_) ⟨rfl, rfl, id⟩ rfl
    exact fun _ => nofun
  · rename_i gv _
    have same := (site.pluralOf_evolves handle.client gv task.descriptor.kind
      task.descriptor.plural?).sameOpen
    generalize site.pluralOf handle.client gv task.descriptor.kind task.descriptor.plural? =
      named at same ⊢
    obtain ⟨plural, after⟩ := named
    let type := ResourceType.ofGroupVersion gv task.descriptor.kind plural
    let space? := task.descriptor.space?
    let name := task.descriptor.name
    refine .opens ⟨handle.client, type, (handle.client.watch after.fleet type space? name).1⟩
      (by rw [connected]; rfl) free ?_ (fun spot => ?_) (fun answers => ?_) (fun nodup => ?_)
      ⟨rfl, rfl, id⟩ rfl
    · rw [← Fleet.SameOpen.isOpenAt same]
      exact handle.client.watch_unused after.fleet type space? name
    · rw [← Fleet.SameOpen.isOpenAt same]
      exact handle.client.watch_isOpenAt after.fleet type space? name spot
    · exact Fleet.put_answers (same.answers answers) (same.answers answers _)
    · exact Assoc.keys_put_nodup _ _ _ (same.keys_nodup nodup)

/-- A task goes on to another phase with its feed. -/
theorem keeps_change {source : Source} (phase : Phase) (held : task.phase.source? = some source)
    (still : phase.source? = some source) {before after : Turn}
    (fleet : before.1.fleet.SameOpen after.1.fleet)
    (waits : phase.WaitsOn (Source.Hangs before.1.fleet))
    (retains : before.2.Retains after.2)
    (tasks : after.2.tasks = (before.2.setPhase task.generation phase).tasks) :
    task.Change before after := by
  have listed : ∀ {phase : Phase}, phase.source? = some source → phase.isReporting = false := by
    intro phase held
    cases phase <;> simp_all [Phase.source?, Phase.isReporting]
  refine .proceeds phase none (listed held) (listed still) fleet (fun spot => ?_) waits retains
    tasks
  simp [Task.spot?, Phase.spot?, held, still]

/-- What a task does when it has read its object. -/
theorem read_change {source : Source} (held : task.phase.source? = some source)
    {next : Except ClusterError Json → Phase}
    (still : ∀ answer, (next answer).source? = some source)
    (goesOn : ∀ answer other, next answer ≠ .stalled other) (site : Site) (session : Session) :
    task.Change (site, session)
      (match task.read source site with
        | (none, site) => (site, task.enter session (.stalled source))
        | (some answer, site) => (site, task.enter session (next answer))) := by
  have asked : site.fleet.SameOpen (task.read source site).2.fleet :=
    (site.getWith_evolves source.client source.type task.descriptor.space?
      task.descriptor.name).sameOpen
  have hangs : (task.read source site).1 = none → source.Hangs site.fleet :=
    source.client.isStalled_of_get
  cases answer : task.read source site with
  | mk result? after =>
      rw [answer] at asked hangs
      cases result? with
      | none =>
          refine keeps_change (.stalled source) held rfl asked ?_ ⟨rfl, rfl, id⟩ rfl
          rintro other ⟨⟩
          exact hangs rfl
      | some result =>
          exact keeps_change _ held (still result) asked
            (Phase.waitsOn_of_ne (goesOn result)) ⟨rfl, rfl, id⟩ rfl

theorem readFirst_change {source : Source} (opened : task.phase = .opened source) (site : Site)
    (session : Session) :
    task.Change (site, session) (task.readFirst source (site, session)) := by
  have goesOn (answer : Except ClusterError Json) (other : Source) :
      Phase.telling source (task.firstMessage answer) none ≠ .stalled other := nofun
  exact read_change (by rw [opened]; rfl) (fun _ => rfl) goesOn site session

theorem readAgain_change {source : Source} {earlier : Nat}
    (streaming : task.phase = .streaming source earlier) (due : Nat) (site : Site)
    (session : Session) :
    task.Change (site, session) (task.readAgain source due (site, session)) :=
  read_change (by rw [streaming]; rfl) (fun _ => Phase.source?_goingOn source _ due)
    (fun _ => Phase.goingOn_ne_stalled source _ due) site session

theorem take_change {source : Source} {due : Nat} (streaming : task.phase = .streaming source due)
    (site : Site) (session : Session) :
    task.Change (site, session) (task.take source due (site, session)) := by
  unfold take
  dsimp only
  split
  · exact keeps_change _ (by rw [streaming]; rfl) (Phase.source?_goingOn source _ due)
      (source.modify_sameOpen site Feed.advance fun _ => rfl)
      (Phase.waitsOn_of_ne (Phase.goingOn_ne_stalled source _ due)) ⟨rfl, rfl, id⟩ rfl
  · exact .proceeds (.ending .finished) task.spot? (by rw [streaming]; rfl) rfl
      (task.release_closing site) (fun spot => Nat.zero_add _) nofun ⟨rfl, rfl, id⟩ rfl

/-- A step is one of the cases. -/
theorem step_change (task : Task) (due : Nat) (turn : Turn) :
    task.Change turn (task.step due turn) := by
  obtain ⟨site, session⟩ := turn
  unfold step
  split
  · exact stop_change ‹_›
  · split
    · rename_i starting
      exact connect_change starting site session
    · rename_i handle resolved
      exact pin_change resolved site session
    · rename_i handle connected
      exact subscribe_change connected site session
    · rename_i source opened
      exact readFirst_change opened site session
    · rename_i source message due? telling
      have told := post_retains session (some task.generation) message
      exact keeps_change (.streaming source (due?.getD due)) (by rw [telling]; rfl) rfl
        (Fleet.SameOpen.refl site.fleet) nofun ⟨told.watches, told.next, told.cancelled⟩
        (Session.setPhase_tasks _ _ (post_tasks session (some task.generation) message))
    · rename_i source _ streaming
      exact take_change streaming site session
    · exact .rests (Fleet.SameOpen.refl site.fleet) ⟨rfl, rfl, id⟩ rfl
    · rename_i reason ending
      exact .withdraws site session reason ending
    · rename_i reason reporting
      have free : task.spot? = none := by
        simp [Task.spot?, reporting, Phase.spot?, Phase.source?]
      refine .leaves (fun _ => by simp [isServing, reporting, Phase.isReporting]) ?_ ?_ ?_
      · rw [free]
        exact Fleet.SameOpen.refl site.fleet
      · have told := post_retains session (some task.generation) (task.farewell reason)
        exact ⟨told.watches, told.next, told.cancelled⟩
      · exact Session.dropTask_tasks _
          (post_tasks session (some task.generation) (task.farewell reason))

/-- A later read is one of the cases. -/
theorem tick_change (task : Task) (period : Nat) (turn : Turn) :
    task.Change turn (task.tick period turn) := by
  obtain ⟨site, session⟩ := turn
  unfold tick
  split
  · exact stop_change ‹_›
  · split
    · rename_i streaming
      exact readAgain_change streaming _ site session
    · exact .rests (Fleet.SameOpen.refl site.fleet) ⟨rfl, rfl, id⟩ rfl

end Task

/-! ## Tasks and watched keys -/

namespace Session

variable {session : Session}

/-- A generation belongs to one task. -/
theorem Coherent.task_unique (coherent : session.Coherent) {first second : Task}
    (firstPresent : first ∈ session.tasks) (secondPresent : second ∈ session.tasks)
    (same : first.generation = second.generation) : first = second := by
  have nodup := coherent.generations_nodup
  rw [Session.roles, List.map_map] at nodup
  exact List.inj_on_of_nodup_map nodup firstPresent secondPresent same

/-- A listed task enters a phase in which it stays listed. -/
theorem Coherent.enter {after : Session} (coherent : session.Coherent) {task : Task}
    {phase : Phase} (present : task ∈ session.tasks)
    (listed : task.phase.isReporting = false) (stillListed : phase.isReporting = false)
    (retains : session.Retains after)
    (tasks : after.tasks = (session.setPhase task.generation phase).tasks) : after.Coherent := by
  refine coherent.frame ?_ retains.watches retains.next retains.cancelled
  rw [Session.roles, tasks]
  apply roles_setPhase session task.generation phase
  intro other stored same
  rw [coherent.task_unique stored present same, listed, stillListed]

/-- A task takes its object off the list, unless another task serves it. -/
theorem Coherent.deregister (coherent : session.Coherent) {task : Task}
    (present : task ∈ session.tasks) (reason : Ending) :
    ((session.deregister task).setPhase task.generation (.reporting reason)).Coherent := by
  have own : task.role ∈ session.roles := List.mem_map_of_mem present
  have ownKey : session.isCancelled = false → ∀ key,
      session.watches.get? key = some task.generation → key = task.key := by
    intro alive key found
    have listed := (coherent.served alive key task.generation).mp found
    exact congrArg Role.key (coherent.role_unique listed own rfl)
  unfold Session.deregister
  split
  · rename_i found
    refine coherent.withdraw task.generation (roles_report _ _ _)
      (Assoc.keys_erase_nodup task.key coherent.keys_nodup) ?_ ?_ rfl rfl
    · intro key generation listed
      rw [setPhase_watches, Assoc.get?_erase] at listed
      split at listed
      · cases listed
      · exact listed
    · intro alive key generation
      rw [setPhase_watches, Assoc.get?_erase]
      by_cases same : task.key = key
      · subst same
        simp [found, eq_comm]
      · simp only [same, if_false, iff_self_and]
        rintro listed rfl
        exact same (ownKey alive key listed).symm
  · rename_i absent
    refine coherent.withdraw task.generation (roles_report _ _ _) coherent.keys_nodup
      (fun _ _ listed => listed) ?_ rfl rfl
    intro alive key generation
    rw [setPhase_watches, iff_self_and]
    rintro listed rfl
    rw [ownKey alive key listed] at listed
    exact absent listed

end Session

/-- Every turn keeps tasks and watched keys in agreement. -/
theorem Task.Change.coherent {task : Task} {before after : Turn}
    (change : task.Change before after) (coherent : before.2.Coherent)
    (present : task ∈ before.2.tasks) : after.2.Coherent := by
  cases change with
  | rests fleet session tasks =>
      refine coherent.frame ?_ session.watches session.next session.cancelled
      rw [Session.roles, tasks, Session.roles]
  | proceeds phase closed? listed stillListed _ _ _ session tasks =>
      exact coherent.enter present listed stillListed session tasks
  | opens source listed _ _ _ _ _ session tasks =>
      exact coherent.enter present listed rfl session tasks
  | withdraws site session reason => exact coherent.deregister present reason
  | leaves idle _ session tasks =>
      have dropped : (before.2.dropTask task.generation).Coherent := by
        apply coherent.dropTask
        intro alive role stored same
        have own : task.role ∈ before.2.roles := List.mem_map_of_mem present
        rw [coherent.role_unique stored own same]
        exact idle alive
      refine dropped.frame ?_ session.watches session.next session.cancelled
      rw [Session.roles, tasks, Session.roles]

/-! ## Tasks of a cancelled session -/

theorem Session.post_of_cancelled {session : Session} (cancelled : session.isCancelled = true)
    (origin : Option Nat) (message : Message) : session.post origin message = session :=
  if_pos cancelled

namespace Task

variable {task : Task} {turn : Turn}

/-- What a task does next when its session is cancelled: it stops, unless it ended by itself and
its key has to leave the list first. -/
def windUp (task : Task) (turn : Turn) : Turn :=
  match task.phase with
  | .ending reason => (turn.1, task.enter (turn.2.deregister task) (.reporting reason))
  | _ => task.stop turn

theorem step_of_cancelled (cancelled : turn.2.isCancelled = true) (due : Nat) :
    task.step due turn = task.windUp turn := by
  cases phase : task.phase with
  | ending reason => simp [step, windUp, isStopping, phase, Phase.isRunning]
  | reporting reason =>
      simp [step, windUp, isStopping, stop, release, tell, phase, Phase.isRunning, Phase.source?,
        Session.post_of_cancelled cancelled]
  | _ => simp [step, windUp, isStopping, phase, Phase.isRunning, cancelled]

theorem tick_of_cancelled (cancelled : turn.2.isCancelled = true) (period : Nat) :
    task.tick period turn = if task.phase.isRunning then task.windUp turn else turn := by
  cases phase : task.phase <;>
    simp [tick, windUp, isStopping, phase, Phase.isRunning, cancelled]

/-- No task of a cancelled session waits, not even one that waits in vain. -/
theorem canStep_of_cancelled {session : Session} (cancelled : session.isCancelled = true)
    (site : Site) : task.canStep site session = true := by
  cases phase : task.phase <;>
    simp [canStep, isStopping, Session.accepts, phase, Phase.isRunning, cancelled]

/-- All that winding up does to the surroundings is to close the feed. -/
theorem windUp_site : (task.windUp turn).1 = task.release turn.1 := by
  cases phase : task.phase <;> simp [windUp, stop, release, phase, Phase.source?]

theorem source?_of_not_running (ended : task.phase.isRunning = false) :
    task.phase.source? = none := by
  cases phase : task.phase <;> simp_all [Phase.isRunning, Phase.source?]

theorem windUp_isCancelled : (task.windUp turn).2.isCancelled = turn.2.isCancelled := by
  unfold windUp
  split
  · unfold enter Session.deregister
    split <;> rfl
  · rfl

/-- The tasks that are left when one has wound up were there before, or do not run any more. -/
theorem mem_windUp {other : Task} (present : other ∈ (task.windUp turn).2.tasks) :
    other ∈ turn.2.tasks ∨ other.phase.isRunning = false := by
  unfold windUp at present
  split at present
  · have entered : other ∈ ((turn.2.deregister task).setPhase task.generation _).tasks := present
    rw [Session.setPhase_tasks _ _ (turn.2.deregister_tasks task)] at entered
    obtain ⟨earlier, stored, rfl⟩ := List.mem_map.mp entered
    split
    · exact .inr rfl
    · exact .inl stored
  · exact .inl (List.mem_filter.mp present).1

end Task

/-! ## Books -/

/-- Every open feed is held once, by a task of the session or by one of the others, and nothing
else is held. -/
structure Balanced (others : Spot → Nat) (turn : Turn) : Prop where
  books : ∀ spot, others spot + turn.2.held.count spot = (turn.1.fleet.isOpenAt spot).toNat
  keys_nodup : (Assoc.keys turn.1.fleet.clusters).Nodup

namespace Session

variable {session : Session} {task : Task}

theorem count_held (coherent : session.Coherent) (present : task ∈ session.tasks) (spot : Spot) :
    session.held.count spot =
      (session.dropTask task.generation).held.count spot + holding task.spot? spot := by
  have nodup := coherent.generations_nodup
  rw [Session.roles, List.map_map] at nodup
  exact count_spots session.tasks present nodup spot

/-- The other tasks do not notice that a task enters a phase. -/
theorem dropTask_setPhase (session : Session) (generation : Nat) (phase : Phase) :
    ((session.setPhase generation phase).dropTask generation).tasks =
      (session.dropTask generation).tasks := by
  unfold Session.setPhase Session.dropTask
  dsimp only
  induction session.tasks with
  | nil => rfl
  | cons first rest ih =>
      by_cases same : first.generation = generation <;> simp [same, ih]

theorem count_held_setPhase (coherent : session.Coherent) (present : task ∈ session.tasks)
    (phase : Phase) (spot : Spot) :
    (session.setPhase task.generation phase).held.count spot =
      (session.dropTask task.generation).held.count spot + holding phase.spot? spot := by
  have entered : { task with phase } ∈ (session.setPhase task.generation phase).tasks :=
    List.mem_map.mpr ⟨task, present, if_pos rfl⟩
  have generations : (session.setPhase task.generation phase).tasks.map (·.generation) =
      session.roles.map (·.generation) := by
    rw [Session.setPhase, Session.roles, List.map_map, List.map_map]
    apply List.map_congr_left
    intro other _
    simp only [Function.comp_apply]
    split <;> rfl
  have nodup := coherent.generations_nodup
  rw [← generations] at nodup
  have counted := count_spots _ entered nodup spot
  have others := dropTask_setPhase session task.generation phase
  unfold Session.dropTask at others
  rw [Session.held, counted, Session.held, Session.dropTask, ← others]
  rfl

end Session

/-- Every turn keeps the books balanced. -/
theorem Task.Change.balanced {task : Task} {others : Spot → Nat} {before after : Turn}
    (change : task.Change before after) (coherent : before.2.Coherent)
    (present : task ∈ before.2.tasks) (balanced : Balanced others before) :
    Balanced others after := by
  have split := Session.count_held coherent present
  cases change with
  | rests fleet session tasks =>
      refine ⟨fun spot => ?_, fleet.keys_nodup balanced.keys_nodup⟩
      rw [Fleet.SameOpen.isOpenAt fleet spot, ← balanced.books spot, Session.held, tasks,
        Session.held]
  | proceeds phase closed? _ _ fleet closes _ _ tasks =>
      refine ⟨fun spot => ?_, fleet.keys_nodup balanced.keys_nodup⟩
      refine count_of_closing fleet ?_
      have same := Session.count_held_setPhase coherent present phase spot
      have own := split spot
      have kept := closes spot
      rw [Session.held, tasks, ← Session.held, same, ← balanced.books spot]
      omega
  | opens source _ free unused opened _ keys_nodup _ tasks =>
      refine ⟨fun spot => ?_, keys_nodup balanced.keys_nodup⟩
      have same := Session.count_held_setPhase coherent present (.opened source) spot
      have own := split spot
      have books := balanced.books spot
      rw [free, holding_none] at own
      rw [Session.held, tasks, ← Session.held, same, opened spot]
      by_cases here : spot = source.spot
      · subst here
        rw [unused] at books ⊢
        simp [holding, Phase.spot?, Phase.source?]
        simp at books
        omega
      · have elsewhere : holding (Phase.opened source).spot? spot = 0 := by
          simp [holding, Phase.spot?, Phase.source?, Ne.symm here]
        rw [elsewhere]
        simp [here]
        omega
  | withdraws site session reason ending =>
      have free : task.spot? = none := by simp [Task.spot?, ending, Phase.spot?, Phase.source?]
      refine ⟨fun spot => ?_, balanced.keys_nodup⟩
      have same := Session.count_held_setPhase coherent present (.reporting reason) spot
      have own := split spot
      have tasks : (task.enter (session.deregister task) (.reporting reason)).tasks =
          (session.setPhase task.generation (.reporting reason)).tasks :=
        Session.setPhase_tasks _ _ (session.deregister_tasks task)
      rw [free] at own
      rw [Session.held, tasks, ← Session.held, same, ← balanced.books spot]
      exact congrArg (others spot + ·) own.symm
  | leaves _ fleet _ tasks =>
      refine ⟨fun spot => ?_, fleet.keys_nodup balanced.keys_nodup⟩
      refine count_of_closing fleet ?_
      have own := split spot
      rw [Session.held, tasks, ← Session.held, ← balanced.books spot]
      omega

/-! ## Answers -/

variable {hung : Source → Prop} {task : Task} {before after : Turn}

theorem Session.WaitsOn.setPhase {session : Session} {phase : Phase}
    (waits : session.WaitsOn hung) (next : phase.WaitsOn hung) (generation : Nat) :
    (session.setPhase generation phase).WaitsOn hung := by
  intro task present
  obtain ⟨before, stored, rfl⟩ := List.mem_map.mp present
  split
  · exact next
  · exact waits before stored

theorem Session.WaitsOn.of_tasks {session other : Session} (waits : session.WaitsOn hung)
    (tasks : other.tasks = session.tasks) : other.WaitsOn hung := by
  unfold Session.WaitsOn
  rwa [tasks]

/-- While gets are answered, they are answered after a turn. -/
theorem Task.Change.answers (change : task.Change before after)
    (answers : before.1.fleet.Answers) : after.1.fleet.Answers := by
  cases change with
  | rests fleet | leaves _ fleet | proceeds _ _ _ _ fleet => exact fleet.answers answers
  | opens _ _ _ _ _ still => exact still answers
  | withdraws => exact answers

/-- In a turn a task comes to wait in vain only for a cluster that does not answer. -/
theorem Task.Change.waitsOn (change : task.Change before after)
    (hangs : ∀ source : Source, source.Hangs before.1.fleet → hung source)
    (waits : before.2.WaitsOn hung) : after.2.WaitsOn hung := by
  cases change with
  | rests _ _ tasks => exact waits.of_tasks tasks
  | proceeds phase _ _ _ _ _ next _ tasks =>
      exact (waits.setPhase (fun source stalled => hangs source (next source stalled)) _).of_tasks
        tasks
  | opens source _ _ _ _ _ _ _ tasks =>
      have next : (Phase.opened source).WaitsOn hung := Phase.waitsOn_of_ne fun _ => nofun
      exact (waits.setPhase next _).of_tasks tasks
  | withdraws site session reason =>
      have next : (Phase.reporting reason).WaitsOn hung := Phase.waitsOn_of_ne fun _ => nofun
      exact (waits.of_tasks (session.deregister_tasks task)).setPhase next _
  | leaves _ _ _ tasks =>
      intro other present
      rw [tasks] at present
      exact waits other (List.mem_filter.mp present).1

end Watch
end KubeLens
