import KubeLens.Proofs.Lens.Moves
import KubeLens.Proofs.Watch.Mail
import KubeLens.Proofs.Watch.Settling

/-!
# Mail over runs

In every run no more messages wait for a peer than its queue holds.  A peer that goes on receiving
makes room for everyone: after some time nobody has anything left to do, and what is owed to the
peer was sent.  Until the peer asks for something else, it is owed nothing more.
-/

namespace KubeLens

open Watch

namespace Lens

variable {lens : Lens} {event : Event} {id : Nat}

/-! ## The queue -/

theorem act_bounded (sane : lens.hub.Sane) (bounded : (lens.session id).Bounded)
    (event : Event) : ((lens.act event).session id).Bounded := by
  cases outside : event.changesCluster with
  | false => exact (act_moves outside sane).moves.bounded bounded
  | true =>
      unfold Lens.session
      rwa [act_hub outside]

theorem run_bounded (settings : Settings) (host : Host) (events : List Event) (id : Nat) :
    (((onHost settings host).run events).session id).Bounded := by
  refine (run_induction (P := fun lens => lens.hub.Sane ∧ (lens.session id).Bounded)
    (onHost settings host) events
    ⟨run_sane settings host [], ⟨Nat.le_refl _, Nat.zero_le _⟩⟩ ?_).2
  intro before event _ ⟨sane, bounded⟩
  exact ⟨act_sane event sane, act_bounded sane bounded event⟩

/-! ## A peer that goes on receiving -/

/-- A peer receives one message after the other, and in between everyone goes on. -/
def rounds (id : Nat) : Nat → List Event
  | 0 => [.settle]
  | count + 1 => [.settle, .receive id 1] ++ rounds id count

theorem mem_rounds {count : Nat} (listed : event ∈ rounds id count) :
    event = .settle ∨ event = .receive id 1 := by
  induction count with
  | zero => exact .inl (List.mem_singleton.mp listed)
  | succ count ih =>
      rcases List.mem_append.mp listed with first | later
      · simpa using first
      · exact ih later

/-- How many steps suffice until everyone waits. -/
def stepBound (lens : Lens) : Nat :=
  Hub.stepBound lens.site lens.hub

theorem settle_isIdle (sane : lens.hub.Sane) : lens.settle.hub.isIdle lens.settle.site = true :=
  (Hub.settle_idles lens.hub sane lens.now lens.site).2

/-- Whoever goes on leaves less to be done. -/
theorem settle_cases (sane : lens.hub.Sane) :
    lens.settle = lens ∨ lens.settle.stepBound < lens.stepBound := by
  refine (Hub.settle_cases lens.hub sane lens.now lens.site).imp_left fun same => ?_
  unfold Lens.settle
  rw [same]

theorem stepBound_receive (lens : Lens) (id count : Nat) :
    (lens.receive id count).stepBound = lens.stepBound :=
  Hub.stepBound_receive lens.site lens.hub id count

/-- There is room when the peer has received a message. -/
theorem accepts_receive (bounded : (lens.session id).Bounded) :
    ((lens.receive id 1).session id).accepts = true := by
  unfold Lens.receive Lens.modifySession Lens.session
  by_cases inside : id < lens.hub.sessions.length
  · rw [Hub.session_put_self inside]
    exact bounded.accepts_receive Nat.one_pos
  · rw [Hub.session_outside (by simpa [Hub.put] using inside)]
    rfl

/-- After some rounds nobody has anything left to do, and there is room for more messages. -/
theorem rounds_room (lens : Lens) (sane : lens.hub.Sane) (bounded : (lens.session id).Bounded) :
    ∃ count, (lens.run (rounds id count)).hub.isIdle (lens.run (rounds id count)).site = true ∧
      ((lens.run (rounds id count)).session id).accepts = true := by
  -- The induction is on what is left to be done when everyone has gone on: either the room that
  -- the peer makes is used, and less is left, or it stays.
  generalize measure : lens.settle.stepBound = left
  induction left using Nat.strongRecOn generalizing lens with
  | ind left ih =>
      have settled := act_sane .settle sane
      have still := act_bounded sane bounded .settle
      have next := act_sane (.receive id 1) settled
      have room : ((lens.settle.receive id 1).session id).accepts = true := accepts_receive still
      rcases settle_cases next with same | fewer
      · have final : lens.run (rounds id 1) = lens.settle.receive id 1 := same
        have idle := settle_isIdle next
        rw [same] at idle
        exact ⟨1, final.symm ▸ ⟨idle, room⟩⟩
      · have less : (lens.settle.receive id 1).settle.stepBound < left :=
          fewer.trans_eq ((lens.settle.stepBound_receive id 1).trans measure)
        obtain ⟨count, found⟩ := ih _ less (lens.settle.receive id 1) next
          (act_bounded settled still (.receive id 1)) rfl
        exact ⟨count + 1, found⟩

/-! ## Answers -/

/-- What happens to a session in which no text of its peer is handled gives it nothing to answer. -/
theorem sound_of_permits (quiet : ∀ text, event ≠ .handleText id text) {happening : Happening}
    (permits : event.Permits id happening) : happening.IsSound := by
  cases happening with
  | asks active? control =>
      rcases permits with ⟨text, hears, _⟩ | ⟨descriptor, _, valid, rfl⟩ | ⟨descriptor, _, rfl⟩
      · exact absurd hears (quiet text)
      · exact valid
      · trivial
  | garbles =>
      obtain ⟨text, hears⟩ := permits
      exact absurd hears (quiet text)
  | _ => trivial

theorem act_answers_eq (sane : lens.hub.Sane) (quiet : ∀ text, event ≠ .handleText id text)
    (online : ((lens.act event).session id).Online) :
    (lens.session id).Online ∧
      ((lens.act event).session id).answers = (lens.session id).answers := by
  cases outside : event.changesCluster with
  | false =>
      exact (act_moves outside sane).moves.answers (fun _ => sound_of_permits quiet) online
  | true =>
      unfold Lens.session at online ⊢
      rw [act_hub outside] at online ⊢
      exact ⟨online, rfl⟩

/-- As long as a session is online and no text of its peer is handled, it has the same answers. -/
theorem run_answers (sane : lens.hub.Sane) {events : List Event}
    (quiet : ∀ text, Event.handleText id text ∉ events)
    (online : ((lens.run events).session id).Online) :
    ((lens.run events).session id).answers = (lens.session id).answers := by
  refine ((run_induction (P := fun later => later.hub.Sane ∧ ((later.session id).Online →
    (lens.session id).Online ∧ (later.session id).answers = (lens.session id).answers)) lens events
    ⟨sane, fun online => ⟨online, rfl⟩⟩ ?_).2 online).2
  intro before event listed ⟨still, earlier⟩
  refine ⟨act_sane event still, fun online => ?_⟩
  obtain ⟨middle, same⟩ :=
    act_answers_eq still (fun text hears => quiet text (hears ▸ listed)) online
  exact ⟨(earlier middle).1, same.trans (earlier middle).2⟩

/-- A peer that goes on receiving is sent everything that it is owed. -/
theorem exists_drained (inside : id < lens.hub.sessions.length)
    (bounded : (lens.session id).Bounded) (online : (lens.session id).Online) :
    ∃ events, (∀ event ∈ events, event = .receive id 1 ∨ event = .reply id) ∧
      ((lens.run events).session id).Online ∧ ((lens.run events).session id).replies = [] ∧
      ((lens.run events).session id).answered = (lens.session id).answers := by
  generalize owed : (lens.session id).replies = replies
  induction replies generalizing lens with
  | nil => exact ⟨[], nofun, online, owed, by simp [Session.answers, owed]⟩
  | cons message rest ih =>
      have received : (lens.receive id 1).session id = (lens.session id).receive 1 :=
        Hub.session_put_self inside _
      have still : id < (lens.receive id 1).hub.sessions.length := by
        simpa [Lens.receive, Lens.modifySession, Hub.put] using inside
      have replied : ((lens.receive id 1).reply id).session id =
          ((lens.session id).receive 1).reply :=
        (Hub.session_put_self still _).trans (congrArg Session.reply received)
      have heard : ((lens.session id).receive 1).Online := online
      have sent := Session.reply_of_online heard owed (bounded.accepts_receive Nat.one_pos)
      have same := Session.reply_answers heard
      obtain ⟨events, only, stays, none_left, all⟩ :=
        @ih ((lens.receive id 1).reply id)
          (by simpa [Lens.reply, Lens.modifySession, Hub.put] using still)
          (replied ▸ (bounded.receive 1).reply) (replied ▸ sent ▸ online) (replied ▸ sent ▸ rfl)
      refine ⟨.receive id 1 :: .reply id :: events, ?_, stays, none_left, all.trans ?_⟩
      · simpa using only
      · exact (congrArg Session.answers replied).trans same

end Lens
end KubeLens
