import KubeLens.Proofs.Watch.Bystanders
import KubeLens.Proofs.Watch.Moves
import KubeLens.Proofs.Watch.Phases

/-!
# The context of a watch

A task is started with the context that its session has by then, and never has another one: what
happens later to the session or to the active connection does not change it.
-/

namespace KubeLens
namespace Watch
namespace Session

/-! ## New tasks -/

/-- Whether the tasks from a generation on have the context of the session. -/
def Binds (session : Session) (generation : Nat) : Prop :=
  ∀ task ∈ session.tasks, generation ≤ task.generation → task.context? = session.context?

namespace Binds

variable {session : Session} {generation : Nat}

/-- A session has no tasks from the next generation on. -/
theorem of_coherent (coherent : session.Coherent) {after : Session}
    (tasks : ∀ task ∈ after.tasks, ∃ earlier ∈ session.tasks,
      earlier.generation = task.generation) : after.Binds session.nextGeneration := by
  intro task present late
  obtain ⟨earlier, stored, same⟩ := tasks task present
  have below : earlier.generation < session.nextGeneration :=
    coherent.role_below _ (List.mem_map_of_mem stored)
  exact absurd (same ▸ below) (Nat.not_lt.mpr late)

theorem of_tasks (coherent : session.Coherent) {after : Session}
    (tasks : after.tasks = session.tasks) : after.Binds session.nextGeneration :=
  .of_coherent coherent fun task present => ⟨task, tasks ▸ present, rfl⟩

theorem start (binds : session.Binds generation) (descriptor : Descriptor) :
    (session.start descriptor).Binds generation := by
  intro task present late
  rcases List.mem_append.mp present with old | new
  · exact binds task old late
  · rw [List.mem_singleton.mp new]
    rfl

theorem foldl_start (binds : session.Binds generation) (descriptors : List Descriptor) :
    (descriptors.foldl Session.start session).Binds generation :=
  List.foldlRecOn (motive := (Binds · generation)) descriptors _ binds
    fun _ bindsSoFar descriptor _ => bindsSoFar.start descriptor

end Binds

theorem post_context? (session : Session) (origin : Option Nat) (message : Message) :
    (session.post origin message).context? = session.context? := by
  unfold Session.post
  split
  · rfl
  · split <;> rfl

variable {session : Session}

theorem subscribe_binds (coherent : session.Coherent) (active? : Option String)
    (descriptor : Descriptor) {after : Session}
    (subscribed : session.subscribe active? descriptor = .ok after) :
    after.Binds session.nextGeneration := by
  unfold Session.subscribe at subscribed
  split at subscribed
  · cases subscribed
  · split at subscribed <;> cases subscribed
    · exact .of_tasks coherent rfl
    · have pinned : (session.pin active?).Binds session.nextGeneration := .of_tasks coherent rfl
      exact pinned.start descriptor

theorem replace_binds (coherent : session.Coherent) (active? : Option String)
    (descriptors : List Descriptor) :
    (session.replace active? descriptors).Binds session.nextGeneration := by
  cases closed : session.isClosed with
  | true =>
      unfold Session.replace
      rw [if_pos closed]
      exact .of_tasks coherent rfl
  | false =>
      obtain ⟨context?, replaced⟩ := replace_eq closed active? descriptors
      rw [replaced]
      have dropped : ((session.dropped descriptors).foldl unwatch
          { session with context? }).Binds session.nextGeneration := by
        refine .of_coherent coherent fun task present => ?_
        rw [foldl_unwatch_tasks] at present
        obtain ⟨earlier, stored, rfl⟩ := List.mem_map.mp present
        exact ⟨earlier, stored, rfl⟩
      exact dropped.foldl_start _

/-- The tasks that a message starts have the context that the session has afterwards. -/
theorem handle_binds (coherent : session.Coherent) (active? : Option String)
    (control : Control) : (session.handle active? control).Binds session.nextGeneration := by
  unfold Session.handle
  split
  · exact replace_binds coherent active? _
  · rename_i resource
    unfold orReply
    split
    · exact subscribe_binds coherent active? resource ‹_›
    · exact .of_tasks coherent rfl
  · exact .of_tasks coherent rfl
  · rename_i resource
    refine .of_coherent coherent fun task present => ?_
    rw [Session.unsubscribe, unwatch_tasks] at present
    obtain ⟨earlier, stored, rfl⟩ := List.mem_map.mp present
    exact ⟨earlier, stored, rfl⟩
  · exact .of_tasks coherent rfl
  · exact .of_tasks coherent rfl

theorem handleText_binds (coherent : session.Coherent) (active? : Option String)
    (text : String) : (session.handleText active? text).Binds session.nextGeneration := by
  unfold Session.handleText
  split
  · exact handle_binds coherent active? _
  · exact .of_tasks coherent rfl

/-! ## Old tasks -/

end Session

/-- Whether a task is what became of an earlier one: it has the same context, and no other client
than that one had when it had found its connection, or had given up. -/
structure Task.Becomes (before after : Task) : Prop where
  generation : before.generation = after.generation
  context? : before.context? = after.context?
  started : before.phase ≠ .starting → after.phase ≠ .starting
  client : before.phase ≠ .starting →
    ∀ client ∈ after.phase.client?, client ∈ before.phase.client?

namespace Task

variable {task : Task}

namespace Becomes

theorem refl (task : Task) : task.Becomes task :=
  ⟨rfl, rfl, id, fun _ _ => id⟩

theorem trans {first second third : Task} (earlier : first.Becomes second)
    (later : second.Becomes third) : first.Becomes third where
  generation := earlier.generation.trans later.generation
  context? := earlier.context?.trans later.context?
  started := later.started ∘ earlier.started
  client started client present :=
    earlier.client started client (later.client (earlier.started started) client present)

end Becomes

theorem Leads.becomes {site : Site} {phase : Phase} (leads : task.Leads site phase) :
    task.Becomes { task with phase } :=
  ⟨rfl, rfl, fun _ => leads.ne_starting, leads.client_of_started⟩

end Task

namespace Session

/-- Whether every task of an earlier generation was there before. -/
structure Descends (before after : Session) : Prop where
  next : before.nextGeneration ≤ after.nextGeneration
  tasks : ∀ task ∈ after.tasks, task.generation < before.nextGeneration →
    ∃ earlier ∈ before.tasks, earlier.Becomes task

namespace Descends

theorem refl (session : Session) : session.Descends session :=
  ⟨Nat.le_refl _, fun task present _ => ⟨task, present, .refl task⟩⟩

theorem trans {first second third : Session} (earlier : first.Descends second)
    (later : second.Descends third) : first.Descends third := by
  refine ⟨Nat.le_trans earlier.next later.next, fun task present old => ?_⟩
  obtain ⟨middle, stored, becomes⟩ :=
    later.tasks task present (Nat.lt_of_lt_of_le old earlier.next)
  obtain ⟨source, known, became⟩ := earlier.tasks middle stored (becomes.generation ▸ old)
  exact ⟨source, known, became.trans becomes⟩

/-- Tasks stay as they are. -/
theorem of_tasks {before after : Session} (next : after.nextGeneration = before.nextGeneration)
    (tasks : after.tasks = before.tasks) : before.Descends after :=
  ⟨Nat.le_of_eq next.symm, fun task present _ => ⟨task, tasks ▸ present, .refl task⟩⟩

end Descends

/-- A message cancels old tasks and starts new ones. -/
theorem handle_descends (session : Session) (active? : Option String) (control : Control) :
    session.Descends (session.handle active? control) := by
  obtain ⟨dropped, started, heeds⟩ := session.handle_heeds active? control
  refine ⟨?_, fun task present old => ?_⟩
  · rw [heeds.arranges.next]
    exact Nat.le_add_right _ _
  · rw [heeds.arranges.tasks] at present
    rcases List.mem_append.mp present with kept | new
    · obtain ⟨earlier, stored, rfl⟩ := List.mem_map.mp kept
      exact ⟨earlier, stored, rfl, rfl, id, fun _ _ => id⟩
    · exact absurd old (Nat.not_lt.mpr (heeds.arranges.generation_bounds new).1)

/-- A turn of a task starts nothing, and tasks keep their context. -/
theorem turn_descends {task : Task} {before after : Turn} (coherent : before.2.Coherent)
    (present : task ∈ before.2.tasks) (change : task.Change before after)
    (advances : task.Advances before.1 before.2 after.2) : before.2.Descends after.2 := by
  have kept : ∀ other ∈ after.2.tasks, ∃ earlier ∈ before.2.tasks, earlier.Becomes other := by
    refine advances.each (fun other stored => ⟨other, stored, .refl other⟩)
      fun phase leads other stored same => ?_
    obtain rfl := coherent.task_unique stored present same
    exact ⟨other, stored, leads.becomes⟩
  exact ⟨Nat.le_of_eq change.next.symm, fun other stored _ => kept other stored⟩

theorem deed_descends {before after : Turn} (coherent : before.2.Coherent)
    (deed : Deed before after) : before.2.Descends after.2 := by
  cases deed with
  | asks active? control => exact before.2.handle_descends active? control
  | owes => exact .of_tasks rfl rfl
  | replies => exact .of_tasks before.2.reply_retains.next before.2.reply_tasks
  | receives => exact .of_tasks rfl rfl
  | hangsUp => exact .of_tasks rfl rfl
  | closes => exact .of_tasks rfl rfl
  | steps task present _ due =>
      exact turn_descends coherent present (task.step_change due before)
        (task.step_advances due _ _)
  | ticks task present period =>
      exact turn_descends coherent present (task.tick_change period before)
        (task.tick_advances period _ _)
  | rests => exact .refl _

end Session

/-! ## Happenings without new tasks -/

/-- Whether a happening may start tasks. -/
def Happening.starts : Happening → Bool
  | asks _ (.subscribe _ _) => true
  | _ => false

theorem Happening.turn_next {happening : Happening} (quiet : happening.starts = false)
    (turn : Turn) : (happening.turn turn).2.nextGeneration = turn.2.nextGeneration := by
  cases happening with
  | asks active? control =>
      cases control with
      | subscribe => cases quiet
      | unsubscribe resource? =>
          cases resource? with
          | some resource => exact turn.2.unwatch_next resource.key
          | none => rfl
      | setContext => rfl
  | garbles => rfl
  | replies => exact turn.2.reply_retains.next
  | receives => rfl
  | hangsUp => rfl
  | closes => rfl
  | step generation due =>
      unfold Happening.turn
      dsimp only
      split
      · split
        · exact (Task.step_change _ due _).next
        · rfl
      · rfl
  | tick generation period =>
      unfold Happening.turn
      dsimp only
      split
      · exact (Task.tick_change _ period _).next
      · rfl

/-! ## Moves -/

namespace Hub

variable {permits : Nat → Happening → Prop} {before after : Site × Hub}

/-- What a move does to the session at a place. -/
inductive Fate (permits : Nat → Happening → Prop) (id : Nat) (before after : Site × Hub) : Prop
  | rests (same : after.2.session id = before.2.session id)
  | happens (happening : Happening) (permitted : permits id happening)
      (meets : happening.Meets before.1)
      (turn : happening.turn (before.1, before.2.session id) = (after.1, after.2.session id))
  | opens (context? : Option String) (isCancelled : Bool) (blank : before.2.session id = {})
      (opened : after.2.session id =
        { context? := context?.filter (!·.isEmpty), isCancelled })

theorem Move.fate (move : Move permits before after) (id : Nat) : Fate permits id before after := by
  cases move with
  | serves => exact .rests rfl
  | happens site hub place happening permitted meets =>
      by_cases same : place = id
      · subst same
        by_cases inside : place < hub.sessions.length
        · refine .happens happening permitted meets ?_
          unfold Hub.happen
          dsimp only
          rw [session_put_self inside]
        · rw [happen_outside inside]
          exact .rests rfl
      · refine .rests ?_
        unfold Hub.happen
        exact session_put_of_ne hub same _
  | opens site hub context? =>
      rcases Nat.lt_trichotomy id hub.sessions.length with inside | rfl | beyond
      · refine .rests ?_
        simp [Hub.session, Hub.openSession, List.getElem?_append_left inside]
      · refine .opens context? hub.isCancelled (session_outside (Nat.lt_irrefl _)) ?_
        simp [Hub.session, Hub.openSession]
      · refine .rests ?_
        dsimp only
        rw [session_outside (Nat.not_lt.mpr beyond.le), session_outside]
        simp [Hub.openSession]
        omega
  | cancels => exact .rests rfl

/-- What every happening does to a session, a move does to the session at a place. -/
theorem Move.each {R : Session → Session → Prop} (move : Move permits before after)
    (refl : ∀ session, R session session) {id : Nat}
    (happen : ∀ happening, permits id happening → ∀ turn : Turn,
      R turn.2 (happening.turn turn).2)
    (fresh : ∀ context? isCancelled, R {} { context?, isCancelled }) :
    R (before.2.session id) (after.2.session id) := by
  cases move.fate id with
  | rests same =>
      rw [same]
      exact refl _
  | happens happening permitted _ turn =>
      have done := happen happening permitted (before.1, before.2.session id)
      rwa [turn] at done
  | opens context? isCancelled blank opened =>
      rw [blank, opened]
      exact fresh _ _

/-- What every happening does to a session, and what is done again by doing it twice, is done to a
session by every series of moves. -/
theorem Moves.each {R : Session → Session → Prop} (moves : Moves permits before after)
    (refl : ∀ session, R session session)
    (trans : ∀ first second third, R first second → R second third → R first third) {id : Nat}
    (happen : ∀ happening, permits id happening → ∀ turn : Turn,
      R turn.2 (happening.turn turn).2)
    (fresh : ∀ context? isCancelled, R {} { context?, isCancelled }) :
    R (before.2.session id) (after.2.session id) := by
  induction moves with
  | refl => exact refl _
  | tail _ move ih => exact trans _ _ _ ih (move.each refl happen fresh)

theorem Moves.descends (moves : Moves permits before after) {id : Nat}
    (sane : (before.2.session id).Sane) : (before.2.session id).Descends (after.2.session id) := by
  have kept : (before.2.session id).Sane →
      (after.2.session id).Sane ∧ (before.2.session id).Descends (after.2.session id) := by
    refine moves.each (R := fun before after => before.Sane → after.Sane ∧ before.Descends after)
      (fun session sane => ⟨sane, .refl session⟩) ?_ ?_ ?_
    · intro first second third earlier later sane
      obtain ⟨saneBetween, descended⟩ := earlier sane
      obtain ⟨saneAfter, descends⟩ := later saneBetween
      exact ⟨saneAfter, descended.trans descends⟩
    · exact fun happening _ turn sane => ⟨Session.deed_sane (happening.deed turn) sane,
        Session.deed_descends sane.coherent (happening.deed turn)⟩
    · exact fun context? isCancelled _ => ⟨.fresh context? isCancelled,
        Nat.le_refl _, List.forall_mem_nil _⟩
  exact (kept sane).2

/-- Moves that start no task use no generation. -/
theorem Moves.next (moves : Moves permits before after)
    {id : Nat} (quiet : ∀ happening, permits id happening → happening.starts = false) :
    (after.2.session id).nextGeneration = (before.2.session id).nextGeneration :=
  moves.each (R := fun earlier later => later.nextGeneration = earlier.nextGeneration)
    (fun _ => rfl) (fun _ _ _ first second => second.trans first)
    (fun happening permitted turn => happening.turn_next (quiet happening permitted) turn)
    (fun _ _ => rfl)

end Hub
end Watch
end KubeLens
