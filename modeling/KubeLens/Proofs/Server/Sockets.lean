import KubeLens.Proofs.Lens.Confined
import KubeLens.Proofs.Server.Serving

/-!
# Sockets as connections

A `Socket` is handled call by call, and nothing else happens during a call: a text is read, a
cancellation is noticed at once, and to end a connection is to close its session and wait until
its tasks have stopped.  Whatever such calls come to, connections that go on by themselves can come
to as well: each call is a run of the server.
-/

namespace KubeLens

open Watch

/-! ## Closing by steps -/

namespace Lens

/-- A task of a cancelled session winds up. -/
theorem act_step_cancelled (lens : Lens) (sane : lens.hub.Sane) {id : Nat} {task : Task}
    (present : task ∈ (lens.session id).tasks)
    (cancelled : (lens.session id).isCancelled = true) :
    lens.act (.step id task.generation) =
      { lens with
        site := (task.windUp (lens.site, lens.session id)).1
        hub := lens.hub.put id (task.windUp (lens.site, lens.session id)).2 } := by
  have found : (lens.session id).task? task.generation = some task :=
    Hub.task?_of_mem (sane.session id).coherent present
  refine (lens.stepTask_eq id task.generation).trans ?_
  unfold takeTurn
  rw [found]
  dsimp only
  rw [if_pos (Task.canStep_of_cancelled cancelled lens.site), Task.step_of_cancelled cancelled]

/-- To close a session is to mark it as closed and to let the tasks that served its keys stop. -/
theorem closeSession_run {lens : Lens} (sane : lens.hub.Sane) (id : Nat) :
    ∃ generations : List Nat,
      (lens.act (.markClosed id)).run (generations.map (Event.step id)) =
        lens.closeSession id := by
  by_cases inside : id < lens.hub.sessions.length
  · let during (turn : Turn) : Lens :=
      { lens with site := turn.1, hub := lens.hub.put id turn.2 }
    let Reached (turn : Turn) : Prop := ∃ generations : List Nat,
      (lens.act (.markClosed id)).run (generations.map (Event.step id)) = during turn
    have winds {task : Task} {turn : Turn} (present : task ∈ turn.2.tasks)
        (cancelled : turn.2.isCancelled = true) (earlier : Reached turn) :
        Reached (task.windUp turn) := by
      obtain ⟨generations, reached⟩ := earlier
      have saneThen : (during turn).hub.Sane :=
        reached ▸ sane_run (act_sane (.markClosed id) sane) _
      have own : (during turn).session id = turn.2 := Hub.session_put_self inside turn.2
      have stepped := (during turn).act_step_cancelled saneThen (own.symm ▸ present)
        (own.symm ▸ cancelled)
      rw [own, Hub.put_put] at stepped
      refine ⟨generations ++ [task.generation], ?_⟩
      rw [List.map_append, run_append, reached]
      exact stepped
    obtain ⟨generations, reached⟩ : Reached _ :=
      Hub.closing_induction (P := Reached) (sane.session id).coherent lens.site ⟨[], rfl⟩
        fun task turn present cancelled unwatched earlier => by
          have first := winds present cancelled earlier
          rcases Hub.stop_of_windUp present unwatched with once | ⟨last, left, twice⟩
          · exact once ▸ first
          · exact twice ▸ winds left (Task.windUp_isCancelled.trans cancelled) first
    refine ⟨generations, reached.trans ?_⟩
    unfold closeSession
    rw [Hub.closeSession_eq inside]
  · refine ⟨[], ?_⟩
    change lens.modifySession id Session.close = lens.closeSession id
    unfold modifySession closeSession
    rw [Hub.put_outside inside, Hub.closeSession_outside inside]

/-- What a session owes is sent in as many steps. -/
theorem answer_eq_run (lens : Lens) (id : Nat) :
    lens.answer id = lens.run ((lens.session id).replies.map fun _ => .reply id) := by
  unfold answer run
  rw [List.foldl_map]
  rfl

end Lens

namespace Server

/-! ## Calls as runs -/

namespace Socket

/-- Whether a connection is where a socket is. -/
structure Shows (socket : Socket) (connection : Connection) : Prop where
  session : socket.session = connection.session
  reads : connection.isOpen = !socket.isEnded
  /-- Nothing is left to read. -/
  read : connection.isOpen = true → connection.taken = connection.received.length

variable {socket : Socket} {connection : Connection}

theorem Shows.isOpen_of_ended (shows : socket.Shows connection) (ended : socket.isEnded = true) :
    connection.isOpen = false := by
  rw [shows.reads, ended, Bool.not_true]

theorem Shows.isOpen_of_unended (shows : socket.Shows connection)
    (unended : socket.isEnded = false) : connection.isOpen = true := by
  rw [shows.reads, unended, Bool.not_false]

theorem finish_of_ended (ended : socket.isEnded = true) (lens : Lens) :
    socket.finish lens = (socket, lens) :=
  if_pos ended

theorem finish_of_unended (unended : socket.isEnded = false) (lens : Lens) :
    socket.finish lens =
      ({ socket with isEnded := true }, lens.closeSession socket.session) := by
  unfold finish
  rw [unended, if_neg Bool.false_ne_true]

theorem finish_isEnded (socket : Socket) (lens : Lens) :
    (socket.finish lens).1.isEnded = true := by
  cases ended : socket.isEnded with
  | true => rw [finish_of_ended ended, ended]
  | false => rw [finish_of_unended ended]

end Socket

namespace Connection

/-- A connection when an input came in and the reader has taken it. -/
def fed (connection : Connection) (input : Input) : Connection :=
  { connection with
    received := connection.received ++ [input]
    taken := connection.taken + 1 }

theorem move_read (connection : Connection) {input : Input} (reads : connection.isOpen = true)
    (next : connection.received[connection.taken]? = some input) (session : Session) :
    connection.move session .read =
      { connection with taken := connection.taken + 1 }.heed session input := by
  have reading : connection.reader = .reading := by simpa [isOpen] using reads
  unfold Connection.move
  dsimp only
  rw [next, reading]

end Connection

namespace State

/-- Whether a server comes to the outcome of a call of the socket at a place while `inputs` come in
over the connection. -/
def Follows (state : State) (place : Nat) (connection : Connection) (inputs : List Input)
    (outcome : Socket × Lens) : Prop :=
  ∃ acts after,
    state.run acts = { lens := outcome.2, connections := state.connections.set place after } ∧
    outcome.1.Shows after ∧ after.received = connection.received ++ inputs

variable {state : State} {place : Nat} {connection : Connection} {socket : Socket}

theorem run_move (found : state.connections[place]? = some connection) (move : Connection.Move) :
    state.run [.move place move] =
      { lens := state.lens.run
          (connection.move (state.lens.session connection.session) move).2
        connections := state.connections.set place
          (connection.move (state.lens.session connection.session) move).1 } := by
  rw [run_cons, run_nil]
  unfold act
  rw [react_move found]

/-- What no connection brings about does nothing to the connections. -/
theorem run_serves {α : Type} (state : State) (event : α → Event)
    (foreign : ∀ item, (event item).isForeign = true) (items : List α) :
    state.run (items.map fun item => .serve (event item) (foreign item)) =
      { state with lens := state.lens.run (items.map event) } := by
  induction items generalizing state with
  | nil => rfl
  | cons first rest ih =>
      rw [List.map_cons, run_cons, ih]
      rfl

/-- A server closes a session. -/
theorem run_closes {lens : Lens} (sane : lens.hub.Sane) (id : Nat)
    (connections : List Connection) :
    ∃ acts, ({ lens := lens.act (.markClosed id), connections } : State).run acts =
      { lens := lens.closeSession id, connections } := by
  obtain ⟨generations, closed⟩ := Lens.closeSession_run sane id
  exact ⟨generations.map fun generation => .serve (.step id generation) rfl,
    (run_serves _ (Event.step id) (fun _ => rfl) generations).trans (by rw [closed])⟩

/-- An input comes in, and the reader takes it. -/
theorem run_reads (found : state.connections[place]? = some connection)
    (shows : socket.Shows connection) (reads : connection.isOpen = true) (input : Input) :
    let heeded := (connection.fed input).heed (state.lens.session connection.session) input
    state.run [.move place (.receive input), .move place .read] =
      { lens := state.lens.run heeded.2
        connections := state.connections.set place heeded.1 } := by
  intro heeded
  let waiting : Connection := { connection with received := connection.received ++ [input] }
  have inside : place < state.connections.length := (List.getElem?_eq_some_iff.mp found).1
  have received : state.act (.move place (.receive input)) =
      { state with connections := state.connections.set place waiting } :=
    run_move found (.receive input)
  have next : waiting.received[waiting.taken]? = some input := by
    change (connection.received ++ [input])[connection.taken]? = some input
    rw [shows.read reads, List.getElem?_concat_length]
  have taken : waiting.move (state.lens.session connection.session) .read = heeded :=
    waiting.move_read reads next _
  rw [run_cons, received, run_move (List.getElem?_set_self inside) .read, List.set_set]
  exact congrArg (fun result : Connection × List Event =>
    ({ lens := state.lens.run result.2, connections := state.connections.set place result.1 } :
      State)) taken

/-- Nothing happens. -/
theorem Follows.rests (found : state.connections[place]? = some connection)
    (shows : socket.Shows connection) :
    state.Follows place connection [] (socket, state.lens) := by
  obtain ⟨inside, same⟩ := List.getElem?_eq_some_iff.mp found
  refine ⟨[], connection, ?_, shows, (List.append_nil _).symm⟩
  rw [run_nil, ← same, List.set_getElem_self]

/-- Calls follow each other. -/
theorem Follows.trans {inputs later : List Input} {outcome last : Socket × Lens}
    (follows : state.Follows place connection inputs outcome) (sane : state.lens.hub.Sane)
    (found : state.connections[place]? = some connection)
    (next : ∀ (reached : State) (after : Connection), reached.lens.hub.Sane →
      reached.connections[place]? = some after → outcome.1.Shows after →
      reached.lens = outcome.2 → reached.Follows place after later last) :
    state.Follows place connection (inputs ++ later) last := by
  obtain ⟨acts, after, reached, shows, received⟩ := follows
  have saneAfter : outcome.2.hub.Sane := by
    have kept := Lens.sane_run sane (state.calls acts)
    rwa [← run_lens, reached] at kept
  have located := List.getElem?_set_self (a := after) (List.getElem?_eq_some_iff.mp found).1
  obtain ⟨more, final, ended, showsFinal, receivedFinal⟩ := next
    { lens := outcome.2, connections := state.connections.set place after } after saneAfter
    located shows rfl
  refine ⟨acts ++ more, final, ?_, showsFinal, ?_⟩
  · rw [run_append, reached, ended, List.set_set]
  · rw [receivedFinal, received, List.append_assoc]

/-- The reader closes the session, and waits until its tasks have stopped. -/
theorem Follows.leaves {acts : List Act} {inputs : List Input} (before : Connection)
    {session : Session} (sane : state.lens.hub.Sane) (shows : socket.Shows connection)
    (same : before.session = connection.session)
    (received : before.received = connection.received ++ inputs)
    (left : state.run acts =
      { lens := state.lens.run (before.leave session).2
        connections := state.connections.set place (before.leave session).1 }) :
    state.Follows place connection inputs
      ({ socket with isEnded := true }, state.lens.closeSession socket.session) := by
  obtain ⟨stops, stopped⟩ := run_closes sane socket.session
    (state.connections.set place (before.leave session).1)
  refine ⟨acts ++ stops, (before.leave session).1, ?_, ⟨?_, rfl, nofun⟩, received⟩
  · have closing : (before.leave session).2 = [.markClosed socket.session] := by
      rw [shows.session, ← same]
      rfl
    rw [run_append, left, closing]
    exact stopped
  · exact shows.session.trans same.symm

/-- Whatever comes in, an ended socket does nothing. -/
theorem Follows.ignores (found : state.connections[place]? = some connection)
    (shows : socket.Shows connection) (ended : socket.isEnded = true) (input : Input) :
    state.Follows place connection [input] (socket, state.lens) := by
  let after : Connection := { connection with received := connection.received ++ [input] }
  have closed : after.isOpen = false := shows.isOpen_of_ended ended
  refine ⟨[.move place (.receive input)], after, run_move found _, ⟨shows.session, shows.reads, ?_⟩,
    rfl⟩
  exact fun still => absurd (closed.symm.trans still) Bool.false_ne_true

/-- The reader takes an input that does not end the connection. -/
theorem Follows.takes (found : state.connections[place]? = some connection)
    (shows : socket.Shows connection) (unended : socket.isEnded = false) (input : Input)
    (events : List Event)
    (heeds : ∀ session, (connection.fed input).heed session input =
      (connection.fed input, events)) :
    state.Follows place connection [input] (socket, state.lens.run events) := by
  have taken := run_reads found shows (shows.isOpen_of_unended unended) input
  rw [heeds] at taken
  refine ⟨_, _, taken, ⟨shows.session, shows.reads, fun reads => ?_⟩, rfl⟩
  simp [Connection.fed, shows.read reads]

/-- The reader takes an input that ends the connection. -/
theorem Follows.stops (sane : state.lens.hub.Sane)
    (found : state.connections[place]? = some connection) (shows : socket.Shows connection)
    (unended : socket.isEnded = false) (input : Input)
    (heeds : ∀ session, (connection.fed input).heed session input =
      (connection.fed input).leave session) :
    state.Follows place connection [input] (socket.finish state.lens) := by
  have taken := run_reads found shows (shows.isOpen_of_unended unended) input
  rw [heeds] at taken
  rw [Socket.finish_of_unended unended]
  exact .leaves (connection.fed input) sane shows rfl rfl taken

/-- A socket that is ended when nothing comes any more. -/
theorem finish_follows (sane : state.lens.hub.Sane)
    (found : state.connections[place]? = some connection) (shows : socket.Shows connection) :
    state.Follows place connection [.stop] (socket.finish state.lens) := by
  cases ended : socket.isEnded with
  | true =>
      rw [Socket.finish_of_ended ended]
      exact .ignores found shows ended .stop
  | false => exact .stops sane found shows ended .stop fun _ => rfl

/-- A socket that notices that its session was cancelled. -/
theorem refresh_follows (sane : state.lens.hub.Sane)
    (found : state.connections[place]? = some connection) (shows : socket.Shows connection) :
    state.Follows place connection [] (socket.refresh state.lens) := by
  unfold Socket.refresh
  split
  · rename_i cancelled
    cases ended : socket.isEnded with
    | true =>
        rw [Socket.finish_of_ended ended]
        exact .rests found shows
    | false =>
        rw [shows.session] at cancelled
        have noticed : connection.move (state.lens.session connection.session) .notice =
            connection.leave (state.lens.session connection.session) :=
          if_pos (by rw [shows.isOpen_of_unended ended, cancelled]; rfl)
        have left := run_move found .notice
        rw [noticed] at left
        rw [Socket.finish_of_unended ended]
        exact .leaves connection sane shows rfl (List.append_nil _).symm left
  · exact .rests found shows

/-- A session that sends what it owes. -/
theorem answer_follows (found : state.connections[place]? = some connection)
    (shows : socket.Shows connection) :
    state.Follows place connection [] (socket, state.lens.answer socket.session) := by
  obtain ⟨inside, same⟩ := List.getElem?_eq_some_iff.mp found
  refine ⟨(state.lens.session socket.session).replies.map fun _ =>
    .serve (.reply socket.session) rfl, connection, ?_, shows, (List.append_nil _).symm⟩
  rw [run_serves state (fun _ => .reply socket.session) (fun _ => rfl), Lens.answer_eq_run, ← same,
    List.set_getElem_self]

/-- A socket that handles a frame. -/
theorem receive_follows (sane : state.lens.hub.Sane)
    (found : state.connections[place]? = some connection) (shows : socket.Shows connection)
    (frame : Frame) :
    state.Follows place connection [.frame frame] (socket.receive state.lens frame) := by
  unfold Socket.receive
  cases ended : socket.isEnded with
  | true =>
      rw [if_pos rfl]
      exact .ignores found shows ended _
  | false =>
      rw [if_neg Bool.false_ne_true]
      cases frame with
      | text content =>
          have handled : state.Follows place connection [.frame (.text content)]
              (socket, state.lens.handleText socket.session content) :=
            .takes found shows ended _ [.handleText socket.session content] fun _ =>
              shows.session ▸ rfl
          have answered := handled.trans sane found
            fun reached after saneAfter located showsAfter same =>
              same ▸ answer_follows located showsAfter
          refine answered.trans sane found fun reached after saneAfter located showsAfter same => ?_
          have refreshed := refresh_follows saneAfter located showsAfter
          rwa [same] at refreshed
      | binary => exact .takes found shows ended _ [] fun _ => rfl
      | ping => exact .takes found shows ended _ [] fun _ => rfl
      | close => exact .stops sane found shows ended _ fun _ => rfl

/-- A socket that handles frames until the last one, and is ended then. -/
theorem serve_follows (sane : state.lens.hub.Sane)
    (found : state.connections[place]? = some connection) (shows : socket.Shows connection)
    (frames : List Frame) :
    state.Follows place connection (frames.map Input.frame ++ [.stop])
      (socket.serve state.lens frames) := by
  unfold Socket.serve
  induction frames generalizing state connection socket with
  | nil => exact finish_follows sane found shows
  | cons frame rest ih =>
      refine (receive_follows sane found shows frame).trans sane found
        fun reached after saneAfter located showsAfter same => ?_
      have served := ih saneAfter located showsAfter
      rwa [same] at served

/-- A socket that is accepted. -/
theorem accept_follows (sane : state.lens.hub.Sane) (context? : Option String) :
    ∃ acts after,
      state.run acts =
        { lens := (Socket.accept state.lens context?).2
          connections := state.connections ++ [after] } ∧
      (Socket.accept state.lens context?).1.Shows after ∧ after.received = [] := by
  let fresh : Connection := { session := (state.lens.openSession context?).1 }
  let accepted : State :=
    { lens := (state.lens.openSession context?).2, connections := state.connections ++ [fresh] }
  have saneAfter : accepted.lens.hub.Sane := Lens.act_sane (.openSession context?) sane
  have shows : ({ session := fresh.session } : Socket).Shows fresh := ⟨rfl, rfl, fun _ => rfl⟩
  obtain ⟨acts, after, reached, showsAfter, received⟩ :=
    refresh_follows saneAfter List.getElem?_concat_length shows
  refine ⟨.accept context? :: acts, after, reached.trans ?_, showsAfter, received⟩
  have replaced : accepted.connections.set state.connections.length after =
      state.connections ++ [after] := by
    simp [accepted]
  rw [replaced]
  rfl

/-- Whatever happened to a server before: to serve frames to the end is to do what a connection has
to do. -/
theorem serve_owns (settings : Settings) (host : Host) (acts : List Act)
    (found : ((onHost settings host).run acts).connections[place]? = some connection)
    (shows : socket.Shows connection) (frames : List Frame) :
    let start := onHost settings host
    let outcome := socket.serve (start.run acts).lens frames
    ∃ more after,
      (start.run (acts ++ more)).lens = outcome.2 ∧
      (start.run (acts ++ more)).connections = (start.run acts).connections.set place after ∧
      outcome.1.isEnded = true ∧ after.isOpen = false ∧
      after.received = connection.received ++ (frames.map Input.frame ++ [.stop]) ∧
      after.Owns (outcome.2.session place) (askedOf place (start.calls (acts ++ more)))
        (start.Dismissed (acts ++ more) place) := by
  intro start outcome
  have sound := run_sound settings host acts
  obtain ⟨more, after, reached, showsAfter, received⟩ :=
    serve_follows sound.sane found shows frames
  have later := run_sound settings host (acts ++ more)
  have run : start.run (acts ++ more) =
      { lens := outcome.2, connections := (start.run acts).connections.set place after } :=
    (run_append start acts more).trans reached
  have located : (start.run (acts ++ more)).connections[place]? = some after := by
    rw [run]
    exact List.getElem?_set_self (List.getElem?_eq_some_iff.mp found).1
  have owns := (later.kept place after located).owns
  have ended : outcome.1.isEnded = true := Socket.finish_isEnded _ _
  have closed : after.isOpen = false := showsAfter.isOpen_of_ended ended
  refine ⟨more, after, congrArg State.lens run, congrArg State.connections run, ended, closed,
    received, ?_⟩
  rw [run] at owns
  exact owns

end State
end Server
end KubeLens
