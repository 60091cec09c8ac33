import KubeLens.Proofs.Watch.Succession

/-!
# What others do to a watch

A watch is known by the generation of its task.  The peer of its session, the session itself and
the other tasks leave it alone, unless they dismiss it: its session goes offline, or its task is
cancelled.
-/

namespace KubeLens
namespace Watch

/-! ## Tasks by generation -/

namespace Session

variable {session before after : Session} {generation other : Nat}

theorem task?_of_tasks (tasks : after.tasks = before.tasks) :
    after.task? generation = before.task? generation := by
  unfold Session.task?
  rw [tasks]

theorem setPhase_task?_self (session : Session) (generation : Nat) (phase : Phase) :
    (session.setPhase generation phase).task? generation =
      (session.task? generation).map ({ · with phase }) := by
  unfold Session.setPhase Session.task?
  dsimp only
  induction session.tasks with
  | nil => rfl
  | cons task rest ih => by_cases same : task.generation = generation <;> simp [same, ih]

theorem setPhase_task?_of_ne (session : Session) (different : other ≠ generation)
    (phase : Phase) :
    (session.setPhase other phase).task? generation = session.task? generation := by
  unfold Session.setPhase Session.task?
  dsimp only
  induction session.tasks with
  | nil => rfl
  | cons task rest ih =>
      rw [List.map_cons, List.find?_cons, List.find?_cons, ih]
      by_cases same : task.generation = other
      · simp [same, beq_false_of_ne different]
      · simp [same]

theorem dropTask_task?_self (session : Session) (generation : Nat) :
    (session.dropTask generation).task? generation = none := by
  refine List.find?_eq_none.mpr fun task present => ?_
  simpa using (List.mem_filter.mp present).2

theorem dropTask_task?_of_ne (session : Session) (different : other ≠ generation) :
    (session.dropTask other).task? generation = session.task? generation := by
  unfold Session.dropTask Session.task?
  dsimp only
  rw [List.find?_filter]
  refine congrArg (session.tasks.find? ·) (funext fun task => ?_)
  by_cases same : task.generation = generation
  · simp [same, Ne.symm different]
  · simp [same]

theorem deregister_next (session : Session) (task : Task) :
    (session.deregister task).nextGeneration = session.nextGeneration := by
  unfold Session.deregister
  split <;> rfl

end Session

namespace Task

variable {task : Task} {before after : Turn} {generation : Nat}

/-- A turn leaves the other tasks alone. -/
theorem Change.task?_of_ne (change : task.Change before after)
    (different : task.generation ≠ generation) :
    after.2.task? generation = before.2.task? generation := by
  cases change with
  | rests _ _ tasks => exact Session.task?_of_tasks tasks
  | proceeds phase _ _ _ _ _ _ _ tasks =>
      exact (Session.task?_of_tasks tasks).trans (before.2.setPhase_task?_of_ne different phase)
  | opens source _ _ _ _ _ _ _ tasks =>
      exact (Session.task?_of_tasks tasks).trans (before.2.setPhase_task?_of_ne different _)
  | withdraws site session reason =>
      exact (Session.setPhase_task?_of_ne _ different _).trans
        (Session.task?_of_tasks (session.deregister_tasks task))
  | leaves _ _ _ tasks =>
      exact (Session.task?_of_tasks tasks).trans (before.2.dropTask_task?_of_ne different)

/-- A turn starts no task. -/
theorem Change.next (change : task.Change before after) :
    after.2.nextGeneration = before.2.nextGeneration := by
  cases change with
  | rests _ session => exact session.next
  | proceeds _ _ _ _ _ _ _ session => exact session.next
  | opens _ _ _ _ _ _ _ session => exact session.next
  | withdraws site session reason =>
      exact session.deregister_next task
  | leaves _ _ session => exact session.next

end Task

/-! ## What others do -/

namespace Session

/-- What a session does to the watch with a generation when another task or the peer acts.  The
watch may be dismissed by it. -/
structure Spares (generation : Nat) (dismissed : Prop) (before after : Session) : Prop where
  said : after.saidBy generation = before.saidBy generation
  task : ∃ cancelled,
    after.task? generation = (before.task? generation).map (·.cancelIf cancelled) ∧
      (cancelled = true → dismissed)
  online : after.Online → before.Online
  offline : before.Online → ¬after.Online → dismissed
  registered : ∀ key, after.watches.get? key = some generation →
    before.watches.get? key = some generation
  next : before.nextGeneration ≤ after.nextGeneration

variable {session before after : Session} {generation : Nat} {dismissed : Prop}

theorem Spares.of_utters {origin : Option Nat} (utters : Utters origin before after)
    (other : origin ≠ some generation)
    (task : after.task? generation = before.task? generation)
    (registered : ∀ key, after.watches.get? key = some generation →
      before.watches.get? key = some generation)
    (next : before.nextGeneration ≤ after.nextGeneration) :
    Spares generation dismissed before after where
  said := utters.saidBy_of_ne other
  task := ⟨false, by rw [task]; simp, nofun⟩
  online := utters.online
  offline online gone := absurd (utters.stays online) gone
  registered := registered
  next := next

theorem Spares.refl (session : Session) : Spares generation dismissed session session :=
  .of_utters (Utters.refl session : Utters none session session) nofun rfl (fun _ => id)
    (Nat.le_refl _)

/-- A task that a message cancels was registered under a key that the message drops. -/
theorem Heeds.drops {control : Control} {dropped : List String} {started : List Task}
    (heeds : Heeds control before after dropped started) (sane : before.Sane) {task : Task}
    (present : task ∈ before.tasks) (registers : before.registers dropped task = true) :
    control.Drops task.key := by
  obtain ⟨key, left, registered⟩ := registers_iff.mp registers
  obtain rfl := sane.owner task present key registered
  have watched : task.key ∈ before.watched := mem_watched.mpr ⟨_, registered⟩
  have opened : before.isClosed = false := by
    by_contra closed
    rw [(sane.closed (by simpa using closed)).2] at registered
    cases registered
  by_contra stays
  have kept : task.key ∈ after.watched := heeds.watched opened ▸ Control.mem_heed watched stays
  rcases heeds.arranges.mem_watched_iff.mp kept with entered | ⟨present, _⟩
  · exact heeds.arranges.not_watched entered watched
  · exact present left

/-- A message cancels a watch only if it drops the key, and does nothing else to it. -/
theorem handle_spares (sane : session.Sane) (used : generation < session.nextGeneration)
    (active? : Option String) (control : Control)
    (drops : ∀ task, session.task? generation = some task → control.Drops task.key → dismissed) :
    Spares generation dismissed session (session.handle active? control) := by
  obtain ⟨dropped, started, heeds⟩ := session.handle_heeds active? control
  have utters := session.handle_utters active? control
  have arranges := heeds.arranges
  have old : ∀ task ∈ started, task.generation ≠ generation := fun task present equal =>
    absurd (arranges.generation_bounds present).1 (Nat.not_le.mpr (equal ▸ used))
  refine ⟨utters.saidBy_of_ne nofun, ?_, utters.online,
    fun online gone => absurd (utters.stays online) gone, fun key registered => ?_,
    arranges.next ▸ Nat.le_add_right _ _⟩
  · have tasks : (session.handle active? control).task? generation =
        (session.task? generation).map fun task =>
          task.cancelIf (session.registers dropped task) := by
      have unstarted : started.find? (·.generation == generation) = none :=
        List.find?_eq_none.mpr fun task present => by simpa using old task present
      unfold Session.task?
      rw [arranges.tasks, List.find?_append, unstarted, Option.or_none, List.find?_map]
      rfl
    cases found : session.task? generation with
    | none => exact ⟨false, by rw [tasks, found]; rfl, nofun⟩
    | some task =>
        obtain ⟨present, _⟩ := task?_eq_some found
        exact ⟨session.registers dropped task, by rw [tasks, found]; rfl,
          fun registers => drops task found (heeds.drops sane present registers)⟩
  · by_cases entered : key ∈ started.map Task.key
    · obtain ⟨task, present, rfl⟩ := List.mem_map.mp entered
      rw [arranges.registered task present] at registered
      exact absurd (Option.some.inj registered) (old task present)
    · rw [arranges.others key entered] at registered
      split at registered
      · cases registered
      · exact registered

theorem Spares.of_retains (retains : before.Retains after) (utters : Utters none before after)
    (tasks : after.tasks = before.tasks) : Spares generation dismissed before after :=
  .of_utters utters nofun (task?_of_tasks tasks) (fun _ registered => retains.watches ▸ registered)
    (Nat.le_of_eq retains.next.symm)

/-- The answers to the peer are about no watch, nor is what the peer receives. -/
theorem owe_spares (session : Session) (messages : List Message) :
    Spares generation dismissed session (session.owe messages) :=
  .of_retains (owe_retains session messages) (session.owe_utters messages) rfl

theorem reply_spares (session : Session) : Spares generation dismissed session session.reply :=
  .of_retains session.reply_retains session.reply_utters session.reply_tasks

theorem receive_spares (session : Session) (count : Nat) :
    Spares generation dismissed session (session.receive count) :=
  .of_retains ⟨rfl, rfl, id⟩ (session.receive_utters count) rfl

theorem hangUp_spares (session : Session) (dismisses : dismissed) :
    Spares generation dismissed session session.hangUp where
  said := rfl
  task := ⟨false, by simp [Session.hangUp, Session.task?], nofun⟩
  online := fun online => absurd online.2 (by simp [Session.hangUp])
  offline := fun _ _ => dismisses
  registered := fun _ => id
  next := Nat.le_refl _

theorem close_spares (session : Session) (dismisses : dismissed) :
    Spares generation dismissed session session.close where
  said := rfl
  task := ⟨false, by simp [Session.close, Session.task?], nofun⟩
  online := fun online => absurd online.1 (by simp [Session.close])
  offline := fun _ _ => dismisses
  registered := fun _ registered => absurd registered (by simp [Session.close])
  next := Nat.le_refl _

end Session

/-- A turn of another task leaves a watch alone. -/
theorem Task.Change.spares {task : Task} {before after : Turn} {generation : Nat}
    {dismissed : Prop} (change : task.Change before after)
    (utters : Session.Utters (some task.generation) before.2 after.2)
    (different : task.generation ≠ generation) :
    Session.Spares generation dismissed before.2 after.2 :=
  .of_utters utters (fun equal => different (Option.some.inj equal)) (change.task?_of_ne different)
    (fun key => (Session.change_shrinks change).1 key generation) (Nat.le_of_eq change.next.symm)

end Watch
end KubeLens
