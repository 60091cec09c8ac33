import KubeLens.Proofs.Watch.Turns

/-!
# Who speaks in a session

Everything that a session sends is marked with its origin: the session itself, or the generation
of a task.  Control messages give the session answers to send, turns make their own task speak, and
nothing that was sent is taken back.
-/

namespace KubeLens
namespace Watch
namespace Session

/-- Whether the peer of a session still receives what is sent. -/
def Online (session : Session) : Prop :=
  session.isCancelled = false ∧ session.isAttached = true

/-- What the task with a generation has sent, oldest first. -/
def saidBy (session : Session) (generation : Nat) : List Message :=
  (session.outbox.filter (·.origin == some generation)).map (·.message)

/-! ## One origin at a time -/

/-- A session before and after something in which only `origin` speaks.  The answers that are owed
are the session's own.  When the peer is found gone the session is cancelled. -/
structure Utters (origin : Option Nat) (before after : Session) : Prop where
  outbox : ∃ messages : List Message,
    after.outbox = before.outbox ++ messages.map (Posting.mk origin)
  replies : origin ≠ none → after.replies = before.replies
  attached : after.isAttached = before.isAttached
  closed : after.isClosed = before.isClosed
  listed : after.isListed = before.isListed
  cancelled : after.isCancelled = before.isCancelled ∨
    (before.isAttached = false ∧ after.isCancelled = true)
  offline : ¬before.Online → after.outbox = before.outbox

namespace Utters

variable {origin : Option Nat} {before after : Session}

/-- Nobody speaks. -/
theorem quiet (outbox : after.outbox = before.outbox)
    (replies : origin ≠ none → after.replies = before.replies)
    (attached : after.isAttached = before.isAttached) (closed : after.isClosed = before.isClosed)
    (listed : after.isListed = before.isListed)
    (cancelled : after.isCancelled = before.isCancelled) : Utters origin before after :=
  ⟨⟨[], by simpa using outbox⟩, replies, attached, closed, listed, .inl cancelled, fun _ => outbox⟩

theorem refl (session : Session) : Utters origin session session :=
  quiet rfl (fun _ => rfl) rfl rfl rfl rfl

/-- A cancelled session stays so. -/
theorem uncancelled (utters : Utters origin before after) (alive : after.isCancelled = false) :
    before.isCancelled = false := by
  rcases utters.cancelled with same | ⟨_, cancelled⟩
  · rw [← same, alive]
  · rw [cancelled] at alive
    cases alive

/-- A session does not come back online. -/
theorem online (utters : Utters origin before after) (online : after.Online) : before.Online :=
  ⟨utters.uncancelled online.1, utters.attached ▸ online.2⟩

theorem trans {first second third : Session} (earlier : Utters origin first second)
    (later : Utters origin second third) : Utters origin first third := by
  obtain ⟨few, middle⟩ := earlier.outbox
  obtain ⟨more, last⟩ := later.outbox
  refine ⟨⟨few ++ more, by rw [last, middle, List.map_append, List.append_assoc]⟩,
    fun foreign => (later.replies foreign).trans (earlier.replies foreign),
    later.attached.trans earlier.attached, later.closed.trans earlier.closed,
    later.listed.trans earlier.listed, ?_,
    fun gone => (later.offline fun online => gone (earlier.online online)).trans
      (earlier.offline gone)⟩
  rcases later.cancelled with same | ⟨gone, cancelled⟩
  · rw [same]
    exact earlier.cancelled
  · exact .inr ⟨earlier.attached ▸ gone, cancelled⟩

theorem foldl {α : Type} (change : Session → α → Session) (items : List α) (session : Session)
    (each : ∀ earlier, ∀ item ∈ items, Utters origin earlier (change earlier item)) :
    Utters origin session (items.foldl change session) :=
  List.foldlRecOn (motive := Utters origin session) items change (.refl session)
    fun earlier uttered item present => uttered.trans (each earlier item present)

/-- A session with a peer is not cancelled by speaking. -/
theorem alive (utters : Utters origin before after) (attached : before.isAttached = true) :
    after.isCancelled = before.isCancelled := by
  rcases utters.cancelled with same | ⟨gone, _⟩
  · exact same
  · rw [attached] at gone
    cases gone

/-- An online session stays so. -/
theorem stays (utters : Utters origin before after) (online : before.Online) : after.Online :=
  ⟨(utters.alive online.2).trans online.1, utters.attached.trans online.2⟩

theorem saidBy_of_ne (utters : Utters origin before after) {generation : Nat}
    (other : origin ≠ some generation) : after.saidBy generation = before.saidBy generation := by
  obtain ⟨messages, outbox⟩ := utters.outbox
  have foreign : (messages.map (Posting.mk origin)).filter (·.origin == some generation) = [] := by
    refine List.filter_eq_nil_iff.mpr fun posting present => ?_
    obtain ⟨message, _, rfl⟩ := List.mem_map.mp present
    simpa using other
  unfold Session.saidBy
  rw [outbox, List.filter_append, foreign, List.append_nil]

theorem saidBy_offline (utters : Utters origin before after) (gone : ¬before.Online)
    (generation : Nat) : after.saidBy generation = before.saidBy generation := by
  unfold Session.saidBy
  rw [utters.offline gone]

end Utters

theorem saidBy_post {session : Session} (online : session.Online) (generation : Nat)
    (message : Message) :
    (session.post (some generation) message).saidBy generation =
      session.saidBy generation ++ [message] := by
  obtain ⟨alive, attached⟩ := online
  simp [Session.post, Session.saidBy, alive, attached, List.filter_append]

theorem post_utters (session : Session) (origin : Option Nat) (message : Message) :
    Utters origin session (session.post origin message) := by
  unfold Session.post
  split
  · exact .refl session
  · rename_i alive
    split
    · rename_i attached
      exact ⟨⟨[message], rfl⟩, fun _ => rfl, rfl, rfl, rfl, .inl rfl, fun gone =>
        absurd ⟨by simpa using alive, attached⟩ gone⟩
    · rename_i gone
      exact ⟨⟨[], (List.append_nil _).symm⟩, fun _ => rfl, rfl, rfl, rfl,
        .inr ⟨by simpa using gone, rfl⟩, fun _ => rfl⟩

/-! ## Control messages -/

theorem owe_utters (session : Session) (messages : List Message) :
    Utters none session (session.owe messages) :=
  .quiet rfl nofun rfl rfl rfl rfl

/-- The session sends what it owes. -/
theorem reply_utters (session : Session) : Utters none session session.reply := by
  unfold reply
  split
  · exact .refl session
  · rename_i message rest _
    split
    · have popped : Utters none session { session with replies := rest } :=
        .quiet rfl nofun rfl rfl rfl rfl
      exact popped.trans (post_utters _ none message)
    · exact .refl session

/-- Receiving makes nobody speak. -/
theorem receive_utters (session : Session) (count : Nat) {origin : Option Nat} :
    Utters origin session (session.receive count) :=
  .quiet rfl (fun _ => rfl) rfl rfl rfl rfl

theorem unwatch_utters (session : Session) (key : String) :
    Utters none session (session.unwatch key) := by
  unfold Session.unwatch
  split <;> exact .quiet rfl (fun _ => rfl) rfl rfl rfl rfl

theorem subscribe_utters {session after : Session} {active? : Option String}
    {descriptor : Descriptor} (subscribed : session.subscribe active? descriptor = .ok after) :
    Utters none session after := by
  unfold Session.subscribe at subscribed
  split at subscribed
  · cases subscribed
  · split at subscribed <;> cases subscribed <;> exact .quiet rfl (fun _ => rfl) rfl rfl rfl rfl

theorem replace_utters (session : Session) (active? : Option String)
    (descriptors : List Descriptor) :
    Utters none session (session.replace active? descriptors) := by
  unfold Session.replace
  split
  · exact .refl session
  · refine .trans (.trans (.trans ?_
      (.foldl _ _ _ fun earlier key _ => unwatch_utters earlier key))
      (.foldl _ _ _ fun earlier entry _ => ?_)) (owe_utters _ _)
    · split <;> exact .quiet rfl (fun _ => rfl) rfl rfl rfl rfl
    · split <;> exact .quiet rfl (fun _ => rfl) rfl rfl rfl rfl

theorem orReply_utters {session : Session} {answer : Except ServiceError Session}
    (answered : ∀ after, answer = .ok after → Utters none session after) :
    Utters none session (session.orReply answer) := by
  cases answer with
  | ok after => exact answered after rfl
  | error error => exact owe_utters session _

/-- A control message makes no task speak. -/
theorem handle_utters (session : Session) (active? : Option String) (control : Control) :
    Utters none session (session.handle active? control) := by
  cases control with
  | subscribe resource? resources? =>
      cases resources? with
      | some resources => exact replace_utters session active? resources
      | none =>
          cases resource? with
          | some resource => exact orReply_utters fun _ => subscribe_utters
          | none => exact owe_utters session _
  | unsubscribe resource? =>
      cases resource? with
      | some resource => exact unwatch_utters session resource.key
      | none => exact owe_utters session _
  | setContext context => exact .quiet rfl (fun _ => rfl) rfl rfl rfl rfl

end Session

/-! ## Turns -/

namespace Task

open Session

variable {task : Task}

theorem enter_utters (task : Task) (session : Session) (phase : Phase) {origin : Option Nat} :
    Utters origin session (task.enter session phase) :=
  .quiet rfl (fun _ => rfl) rfl rfl rfl rfl

theorem deregister_utters (task : Task) (session : Session) {origin : Option Nat} :
    Utters origin session (session.deregister task) := by
  unfold Session.deregister
  split <;> exact .quiet rfl (fun _ => rfl) rfl rfl rfl rfl

theorem dropTask_utters (session : Session) (generation : Nat) {origin : Option Nat} :
    Utters origin session (session.dropTask generation) :=
  .quiet rfl (fun _ => rfl) rfl rfl rfl rfl

/-- A step makes its own task speak. -/
theorem step_utters (task : Task) (due : Nat) (turn : Turn) :
    Utters (some task.generation) turn.2 (task.step due turn).2 := by
  obtain ⟨site, session⟩ := turn
  unfold step
  split
  · exact dropTask_utters session task.generation
  · split
    · unfold connect
      dsimp only
      split
      · exact task.enter_utters session _
      · exact task.enter_utters session _
    · unfold pin
      dsimp only
      refine .trans ?_ (task.enter_utters _ _)
      split <;> exact .quiet rfl (fun _ => rfl) rfl rfl rfl rfl
    · unfold subscribe
      dsimp only
      split <;> exact task.enter_utters session _
    · unfold readFirst
      dsimp only
      split
      · exact task.enter_utters session _
      · exact task.enter_utters session _
    · exact (post_utters session _ _).trans (task.enter_utters _ _)
    · unfold take
      dsimp only
      split <;> exact task.enter_utters session _
    · exact .refl session
    · exact (task.deregister_utters session).trans (task.enter_utters _ _)
    · exact (post_utters session _ _).trans (dropTask_utters _ _)

/-- A later read makes its own task speak. -/
theorem tick_utters (task : Task) (period : Nat) (turn : Turn) :
    Utters (some task.generation) turn.2 (task.tick period turn).2 := by
  obtain ⟨site, session⟩ := turn
  unfold tick
  split
  · exact dropTask_utters session task.generation
  · split
    · unfold readAgain
      dsimp only
      split <;> exact task.enter_utters session _
    · exact .refl session

end Task
end Watch
end KubeLens
