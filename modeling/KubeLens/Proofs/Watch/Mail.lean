import KubeLens.Proofs.Watch.Lineage

/-!
# The mail of a session

A session sends what its tasks tell and what it owes its peer, one message after the other, and
only while the queue has room.  So never more messages wait than the queue holds, and a peer that
goes on receiving makes room for everything.  What the session owes is sent in its order: nothing
but the peer's own messages adds to it, and nothing takes from it while the session is online.
-/

namespace KubeLens
namespace Watch

/-- Whether a control message is answered with nothing. -/
def Control.IsSound : Control → Prop
  | subscribe _ (some resources) => ∀ resource ∈ resources, resource.IsValid
  | subscribe (some resource) none => resource.IsValid
  | unsubscribe (some _) | setContext _ => True
  | _ => False

namespace Session

variable {session before after : Session}

/-! ## What leaves messages alone -/

/-- A session before and after something that concerns none of its messages. -/
structure SameMail (before after : Session) : Prop where
  outbox : after.outbox = before.outbox
  received : after.received = before.received
  replies : after.replies = before.replies

namespace SameMail

theorem refl (session : Session) : SameMail session session :=
  ⟨rfl, rfl, rfl⟩

theorem trans {first second third : Session} (earlier : SameMail first second)
    (later : SameMail second third) : SameMail first third :=
  ⟨later.outbox.trans earlier.outbox, later.received.trans earlier.received,
    later.replies.trans earlier.replies⟩

theorem foldl {α : Type} (change : Session → α → Session) (items : List α) (session : Session)
    (each : ∀ earlier item, SameMail earlier (change earlier item)) :
    SameMail session (items.foldl change session) :=
  List.foldlRecOn (motive := SameMail session) items change (.refl session)
    fun earlier same item _ => same.trans (each earlier item)

theorem unwatch (session : Session) (key : String) : SameMail session (session.unwatch key) := by
  unfold Session.unwatch
  split <;> exact ⟨rfl, rfl, rfl⟩

theorem deregister (session : Session) (task : Task) :
    SameMail session (session.deregister task) := by
  unfold Session.deregister
  split <;> exact ⟨rfl, rfl, rfl⟩

theorem subscribe {active? : Option String} {descriptor : Descriptor}
    (subscribed : session.subscribe active? descriptor = .ok after) : SameMail session after := by
  unfold Session.subscribe at subscribed
  split at subscribed
  · cases subscribed
  · split at subscribed <;> cases subscribed <;> exact ⟨rfl, rfl, rfl⟩

end SameMail

/-- A list of descriptors is answered with what is wrong with them, and concerns no other
messages. -/
theorem replace_mail (session : Session) (active? : Option String)
    (descriptors : List Descriptor) :
    ∃ messages, SameMail (session.owe messages) (session.replace active? descriptors) ∧
      (faults descriptors = [] → messages = []) := by
  cases closed : session.isClosed with
  | true =>
      refine ⟨[], ?_, fun _ => rfl⟩
      unfold replace
      rw [if_pos closed]
      exact ⟨rfl, rfl, (List.append_nil _).symm⟩
  | false =>
      obtain ⟨context?, replaced⟩ := replace_eq closed active? descriptors
      refine ⟨(faults descriptors).map fun error => .error error.message, ?_, fun none => ?_⟩
      · have dropped := SameMail.foldl unwatch (session.dropped descriptors)
          { session with context? } .unwatch
        have started := SameMail.foldl start ((session.entering descriptors).map (·.2))
          ((session.dropped descriptors).foldl unwatch { session with context? })
          fun _ _ => ⟨rfl, rfl, rfl⟩
        obtain ⟨outbox, received, replies⟩ := dropped.trans started
        rw [replaced]
        exact ⟨outbox, received, congrArg (· ++ _) replies⟩
      · rw [none]
        rfl

/-- A control message makes the session owe answers, and concerns no other messages. -/
theorem handle_mail (session : Session) (active? : Option String) (control : Control) :
    ∃ messages, SameMail (session.owe messages) (session.handle active? control) ∧
      (control.IsSound → messages = []) := by
  have unanswered {later : Session} (same : SameMail session later) :
      SameMail (session.owe []) later :=
    ⟨same.outbox, same.received, same.replies.trans (List.append_nil _).symm⟩
  unfold Session.handle
  split
  · rename_i resources
    obtain ⟨messages, same, silent⟩ := session.replace_mail active? resources
    refine ⟨messages, same, fun sound => silent (List.filterMap_eq_nil_iff.mpr ?_)⟩
    exact fun resource present => fault?_eq_none_iff.mpr (sound resource present)
  · rename_i resource
    unfold orReply
    split
    · exact ⟨[], unanswered (.subscribe ‹_›), fun _ => rfl⟩
    · rename_i error refused
      refine ⟨_, .refl _, fun sound => ?_⟩
      obtain ⟨after, subscribed⟩ := (session.subscribe_isOk active? resource).mpr sound
      cases refused.symm.trans subscribed
  · exact ⟨_, .refl _, False.elim⟩
  · exact ⟨[], unanswered (.unwatch session _), fun _ => rfl⟩
  · exact ⟨_, .refl _, False.elim⟩
  · exact ⟨[], unanswered ⟨rfl, rfl, rfl⟩, fun _ => rfl⟩

/-! ## How much waits -/

/-- Whether no more messages wait than the queue holds. -/
structure Bounded (session : Session) : Prop where
  received_le : session.received ≤ session.outbox.length
  outbox_le : session.outbox.length ≤ session.received + capacity

theorem Bounded.same (bounded : before.Bounded) (outbox : after.outbox = before.outbox)
    (received : after.received = before.received) : after.Bounded := by
  obtain ⟨below, above⟩ := bounded
  exact ⟨outbox ▸ received ▸ below, outbox ▸ received ▸ above⟩

/-- A message that is sent finds room. -/
theorem Bounded.post (bounded : session.Bounded) (room : session.accepts = true)
    (origin : Option Nat) (message : Message) : (session.post origin message).Bounded := by
  obtain ⟨below, above⟩ := bounded
  unfold Session.post
  split
  · exact ⟨below, above⟩
  · split
    · rename_i alive attached
      have free : session.outbox.length < session.received + capacity := by
        simpa [accepts, alive, attached] using room
      have longer : (session.outbox ++ [Posting.mk origin message]).length =
          session.outbox.length + 1 := List.length_append
      constructor
      · exact (Nat.le_succ_of_le below).trans_eq longer.symm
      · exact longer.trans_le free
    · exact ⟨below, above⟩

theorem Bounded.reply (bounded : session.Bounded) : session.reply.Bounded := by
  unfold Session.reply
  split
  · exact bounded
  · rename_i message rest _
    split
    · have popped : ({ session with replies := rest } : Session).Bounded := bounded.same rfl rfl
      exact popped.post ‹_› none message
    · exact bounded

theorem Bounded.receive (bounded : session.Bounded) (count : Nat) :
    (session.receive count).Bounded := by
  obtain ⟨below, above⟩ := bounded
  refine ⟨Nat.min_le_right _ _, ?_⟩
  unfold Session.receive
  dsimp only
  omega

/-- There is room when the peer has received something. -/
theorem Bounded.accepts_receive (bounded : session.Bounded) {count : Nat} (some : 0 < count) :
    (session.receive count).accepts = true := by
  have above := bounded.outbox_le
  have room : session.outbox.length <
      min (session.received + count) session.outbox.length + capacity := by
    unfold capacity at above ⊢
    omega
  unfold Session.accepts Session.receive
  simp [room]

/-- A task that need not wait sends at most one message, and finds room for it. -/
theorem Bounded.step {site : Site} {task : Task} (bounded : session.Bounded)
    (able : task.canStep site session = true) (due : Nat) :
    (task.step due (site, session)).2.Bounded := by
  unfold Task.step
  split
  · exact bounded.same rfl rfl
  · rename_i going
    unfold Task.canStep at able
    rw [Bool.eq_false_of_not_eq_true going, Bool.false_or] at able
    split
    · unfold Task.connect
      dsimp only
      split <;> exact bounded.same rfl rfl
    · unfold Task.pin
      dsimp only
      split <;> exact bounded.same rfl rfl
    · unfold Task.subscribe
      dsimp only
      split <;> exact bounded.same rfl rfl
    · unfold Task.readFirst
      dsimp only
      split <;> exact bounded.same rfl rfl
    · rename_i telling
      rw [telling] at able
      exact (bounded.post able _ _).same rfl rfl
    · unfold Task.take
      dsimp only
      split <;> exact bounded.same rfl rfl
    · exact bounded
    · have same := SameMail.deregister session task
      exact bounded.same same.outbox same.received
    · rename_i reporting
      rw [reporting] at able
      exact (bounded.post able _ _).same rfl rfl

theorem Bounded.tick {site : Site} {task : Task} (bounded : session.Bounded) (period : Nat) :
    (task.tick period (site, session)).2.Bounded := by
  unfold Task.tick
  split
  · exact bounded.same rfl rfl
  · split
    · unfold Task.readAgain
      dsimp only
      split <;> exact bounded.same rfl rfl
    · exact bounded

/-- Whatever happens, no more messages wait than the queue holds. -/
theorem Bounded.turn (bounded : session.Bounded) (site : Site) (happening : Happening) :
    (happening.turn (site, session)).2.Bounded := by
  have deed := happening.deed (site, session)
  generalize happening.turn (site, session) = after at deed
  cases deed with
  | asks active? control =>
      obtain ⟨_, same, _⟩ := session.handle_mail active? control
      exact bounded.same same.outbox same.received
  | owes => exact bounded.same rfl rfl
  | replies => exact bounded.reply
  | receives count => exact bounded.receive count
  | hangsUp => exact bounded.same rfl rfl
  | closes => exact bounded.same rfl rfl
  | steps task _ able due => exact bounded.step able due
  | ticks task _ period => exact bounded.tick period
  | rests => exact bounded

/-! ## Answers to the peer -/

/-- The answers to the peer that were sent, oldest first. -/
def answered (session : Session) : List Message :=
  (session.outbox.filter (·.origin == none)).map (·.message)

/-- The answers to the peer that were sent or are still to be sent. -/
def answers (session : Session) : List Message :=
  session.answered ++ session.replies

theorem SameMail.answers (same : SameMail before after) : after.answers = before.answers := by
  unfold Session.answers answered
  rw [same.outbox, same.replies]

theorem answers_owe (session : Session) (messages : List Message) :
    (session.owe messages).answers = session.answers ++ messages :=
  (List.append_assoc _ _ _).symm

/-- What a task tells is no answer. -/
theorem Utters.answers {generation : Nat} (utters : Utters (some generation) before after) :
    after.answers = before.answers := by
  obtain ⟨messages, outbox⟩ := utters.outbox
  have foreign : (messages.map (Posting.mk (some generation))).filter (·.origin == none) = [] := by
    refine List.filter_eq_nil_iff.mpr fun posting present => ?_
    obtain ⟨message, _, rfl⟩ := List.mem_map.mp present
    nofun
  unfold Session.answers answered
  rw [outbox, utters.replies nofun, List.filter_append, foreign, List.append_nil]

/-- An online session sends the next answer when there is room. -/
theorem reply_of_online (online : session.Online) {message : Message} {rest : List Message}
    (owing : session.replies = message :: rest) (room : session.accepts = true) :
    session.reply =
      { session with replies := rest, outbox := session.outbox ++ [⟨none, message⟩] } := by
  obtain ⟨alive, attached⟩ := online
  unfold Session.reply post
  rw [owing]
  simp [room, alive, attached]

theorem reply_answers (online : session.Online) : session.reply.answers = session.answers := by
  cases owing : session.replies with
  | nil =>
      unfold Session.reply
      rw [owing]
  | cons message rest =>
      cases room : session.accepts with
      | true =>
          rw [reply_of_online online owing room]
          simp [Session.answers, answered, owing, List.filter_append]
      | false =>
          unfold Session.reply
          rw [owing]
          simp [room]

end Session

/-- Whether a happening gives the session nothing new to answer. -/
def Happening.IsSound : Happening → Prop
  | asks _ control => control.IsSound
  | garbles => False
  | _ => True

/-- While a session is online, nothing but a message of the peer changes its answers. -/
theorem Happening.turn_answers {happening : Happening} (sound : happening.IsSound) (turn : Turn)
    (online : (happening.turn turn).2.Online) :
    turn.2.Online ∧ (happening.turn turn).2.answers = turn.2.answers := by
  obtain ⟨site, session⟩ := turn
  cases happening with
  | asks active? control =>
      obtain ⟨messages, same, silent⟩ := session.handle_mail active? control
      refine ⟨(session.handle_utters active? control).online online, same.answers.trans ?_⟩
      rw [silent sound, session.answers_owe, List.append_nil]
  | garbles => exact sound.elim
  | replies =>
      have earlier := session.reply_utters.online online
      exact ⟨earlier, Session.reply_answers earlier⟩
  | receives => exact ⟨online, rfl⟩
  | hangsUp => exact absurd online.2 (by simp [Happening.turn, Session.hangUp])
  | closes => exact absurd online.1 (by simp [Happening.turn, Session.close])
  | step generation due =>
      cases found : session.task? generation with
      | none =>
          simp only [Happening.turn, found] at online ⊢
          exact ⟨online, trivial⟩
      | some task =>
          by_cases able : task.canStep site session = true
          · simp only [Happening.turn, found, if_pos able] at online ⊢
            have utters := task.step_utters due (site, session)
            exact ⟨utters.online online, utters.answers⟩
          · simp only [Happening.turn, found, if_neg able] at online ⊢
            exact ⟨online, trivial⟩
  | tick generation period =>
      cases found : session.task? generation with
      | none =>
          simp only [Happening.turn, found] at online ⊢
          exact ⟨online, trivial⟩
      | some task =>
          simp only [Happening.turn, found] at online ⊢
          have utters := task.tick_utters period (site, session)
          exact ⟨utters.online online, utters.answers⟩

namespace Hub

variable {permits : Nat → Happening → Prop} {before after : Site × Hub} {id : Nat}

theorem Moves.answers (moves : Moves permits before after)
    (sound : ∀ happening, permits id happening → happening.IsSound)
    (online : (after.2.session id).Online) :
    (before.2.session id).Online ∧
      (after.2.session id).answers = (before.2.session id).answers := by
  refine moves.each (R := fun before after => after.Online →
    before.Online ∧ after.answers = before.answers) (fun _ online => ⟨online, rfl⟩) ?_ ?_ ?_ online
  · intro first second third earlier later online
    obtain ⟨middle, same⟩ := later online
    exact ⟨(earlier middle).1, same.trans (earlier middle).2⟩
  · exact fun happening permitted turn => happening.turn_answers (sound happening permitted) turn
  · exact fun _ _ _ => ⟨⟨rfl, rfl⟩, rfl⟩

theorem Moves.bounded (moves : Moves permits before after)
    (bounded : (before.2.session id).Bounded) : (after.2.session id).Bounded :=
  moves.each (R := fun before after => before.Bounded → after.Bounded)
    (fun _ bounded => bounded)
    (fun _ _ _ earlier later => later ∘ earlier)
    (fun happening _ turn bounded => bounded.turn turn.1 happening)
    (fun _ _ _ => ⟨Nat.le_refl _, Nat.zero_le _⟩) bounded

end Hub
end Watch
end KubeLens
