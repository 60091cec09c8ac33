import KubeLens.Proofs.Server.Keeping
import KubeLens.Server.Health

/-!
# What connections own

Each connection owns a session of its own from when it is accepted to when it ends.  The session
is handed the texts that come in before something ends the connection, and nothing else.  A
connection that has ended has closed its session, and left nothing of it behind.
-/

namespace KubeLens
namespace Server

open Watch

/-! ## What is kept of a server -/

/-- What events ask of a session, in order. -/
def askedOf (id : Nat) (events : List Event) : List Event :=
  events.filter (Event.isAimedAt id)

theorem askedOf_append (id : Nat) (earlier later : List Event) :
    askedOf id (earlier ++ later) = askedOf id earlier ++ askedOf id later :=
  List.filter_append _ _

namespace State

/-- Whether the reader of a connection closes its session because it was cancelled. -/
def Dismisses (state : State) (act : Act) (place : Nat) : Prop :=
  act = .move place .notice ∧ (state.lens.session place).isCancelled = true ∧
    ∃ connection, state.connections[place]? = some connection ∧ connection.isOpen = true

/-- What holds of a server while it runs.  `calls` are the events that it asked for so far, and
`dismissed` says whose session was cancelled while the reader read. -/
structure Sound (state : State) (calls : List Event) (dismissed : Nat → Prop) : Prop where
  sane : state.lens.hub.Sane
  opened : state.lens.hub.sessions.length = state.connections.length
  /-- Sessions stand in the places of their connections. -/
  own : ∀ (place : Nat) (connection : Connection), state.connections[place]? = some connection →
    connection.session = place
  unheard : ∀ place, state.connections.length ≤ place → askedOf place calls = []
  kept : ∀ (place : Nat) (connection : Connection),
    state.connections[place]? = some connection →
    connection.Kept (state.lens.session place) (askedOf place calls) (dismissed place)

/-- The events of a move are aimed at the session of the connection. -/
theorem askedOf_of_ne {connection : Connection} {session : Session} {move : Connection.Move}
    {place : Nat} (different : connection.session ≠ place) :
    askedOf place (connection.move session move).2 = [] := by
  have change := connection.move_change session move
  generalize connection.move session move = result at change
  have closed : askedOf place [.markClosed connection.session] = [] := by
    simp [askedOf, Event.isAimedAt, different]
  cases change with
  | takes input => cases input.text? <;> simp [askedOf, Event.isAimedAt, different]
  | stops => exact closed
  | quits => exact closed
  | _ => rfl

theorem askedOf_of_isForeign {event : Event} (foreign : event.isForeign = true) (place : Nat) :
    askedOf place [event] = [] := by
  cases event <;> first | rfl | cases foreign

section Steps

variable {state : State} {calls : List Event} {dismissed later : Nat → Prop}

/-- A connection that does nothing meanwhile. -/
theorem Sound.stays (sound : state.Sound calls dismissed) {place : Nat} {connection : Connection}
    (found : state.connections[place]? = some connection) (events : List Event)
    (silent : askedOf place events = []) (implies : dismissed place → later place) :
    connection.Kept ((state.lens.run events).session place) (askedOf place (calls ++ events))
      (later place) := by
  have inside : place < state.lens.hub.sessions.length :=
    sound.opened.symm ▸ (List.getElem?_eq_some_iff.mp found).1
  rw [askedOf_append, silent, List.append_nil]
  exact (Lens.run_keeps_session
    (P := fun session => connection.Kept session (askedOf place calls) (dismissed place))
    sound.sane inside (sound.kept place connection found)
    (fun site happening kept => kept.turn site happening) events).mono implies

/-- The connections after one was accepted. -/
theorem found_append {connections : List Connection} {new connection : Connection} {place : Nat}
    (found : (connections ++ [new])[place]? = some connection) :
    connections[place]? = some connection ∨ place = connections.length ∧ connection = new := by
  rw [List.getElem?_append] at found
  split at found
  · exact .inl found
  · rename_i outside
    obtain ⟨first, same⟩ := List.getElem?_eq_some_iff.mp found
    rw [List.length_singleton] at first
    exact .inr ⟨by omega, by simpa using same.symm⟩

theorem Sound.accept (sound : state.Sound calls dismissed) (context? : Option String)
    (implies : ∀ place, dismissed place → later place) :
    (state.act (.accept context?)).Sound (calls ++ (state.react (.accept context?)).2) later := by
  have length : (state.lens.openSession context?).2.hub.sessions.length =
      state.lens.hub.sessions.length + 1 :=
    List.length_append
  have connected : (state.act (.accept context?)).connections.length =
      state.connections.length + 1 :=
    List.length_append
  refine ⟨Lens.sane_run sound.sane _, ?_, fun place connection found => ?_, fun place outside => ?_,
    fun place connection found => ?_⟩
  · rw [connected, ← sound.opened]
    exact length
  · rcases found_append found with old | ⟨rfl, rfl⟩
    · exact sound.own place connection old
    · exact sound.opened
  · have silent := sound.unheard place (by omega)
    rw [askedOf_append, silent]
    rfl
  · rcases found_append found with old | ⟨rfl, rfl⟩
    · exact sound.stays old [.openSession context?] rfl (implies place)
    · have opened : (state.lens.openSession context?).2.session state.connections.length =
          { context? := context?.filter (!·.isEmpty),
            isCancelled := state.lens.hub.isCancelled } := by
        unfold Lens.openSession Lens.session Hub.session Hub.openSession
        rw [← sound.opened, List.getElem?_concat_length]
        rfl
      rw [askedOf_append, sound.unheard _ (Nat.le_refl _)]
      exact opened.symm ▸ Connection.Kept.fresh _ _ _

/-- Moves of connections open no sessions. -/
theorem run_move_length (lens : Lens) (connection : Connection) (session : Session)
    (move : Connection.Move) :
    (lens.run (connection.move session move).2).hub.sessions.length =
      lens.hub.sessions.length := by
  have change := connection.move_change session move
  generalize connection.move session move = result at change
  cases change with
  | takes input =>
      cases input.text? with
      | none => rfl
      | some text => exact List.length_set
  | stops => exact List.length_set
  | quits => exact List.length_set
  | writes => exact List.length_set
  | fails => exact List.length_set
  | _ => rfl

/-- A connection keeps its session. -/
theorem move_session (connection : Connection) (session : Session) (move : Connection.Move) :
    (connection.move session move).1.session = connection.session := by
  have change := connection.move_change session move
  generalize connection.move session move = result at change
  cases change <;> rfl

/-- A connection after it moved. -/
theorem Sound.moved (sound : state.Sound calls dismissed) {place : Nat} {connection : Connection}
    (found : state.connections[place]? = some connection) (move : Connection.Move)
    (implies : dismissed place → later place)
    (dismisses : state.Dismisses (.move place move) place → later place) :
    let result := connection.move (state.lens.session place) move
    result.1.Kept ((state.lens.run result.2).session place) (askedOf place (calls ++ result.2))
      (later place) := by
  intro result
  have own := sound.own place connection found
  have inside : place < state.lens.hub.sessions.length :=
    sound.opened.symm ▸ (List.getElem?_eq_some_iff.mp found).1
  have kept : connection.Kept ((state.lens.run result.2).session place) (askedOf place calls)
      (dismissed place) :=
    Lens.run_keeps_session
      (P := fun session => connection.Kept session (askedOf place calls) (dismissed place))
      sound.sane inside (sound.kept place connection found)
      (fun site happening kept => kept.turn site happening) result.2
  have changed := kept.change (connection.move_change (state.lens.session place) move)
    (fun idle => ?_) (fun sent => ?_) (fun closed => ?_) implies fun notices reads cancelled =>
      dismisses ⟨by rw [notices], cancelled, connection, found, reads⟩
  · rw [own] at changed
    rw [askedOf_append]
    exact changed
  · exact congrArg (fun events => (state.lens.run events).session place) idle
  · have received : (state.lens.run result.2).session place =
        (state.lens.receive place 1).session place :=
      congrArg (fun events => (state.lens.run events).session place) (own ▸ sent)
    rw [received]
    exact state.lens.receive_outbox place 1
  · have marked : (state.lens.run result.2).session place =
        (state.lens.run [.markClosed place]).session place :=
      congrArg (fun events => (state.lens.run events).session place) (own ▸ closed)
    have shut : (state.lens.run [.markClosed place]).session place =
        (state.lens.session place).close :=
      Hub.session_put_self inside _
    rw [marked, shut]
    exact Session.close_shut _

theorem Sound.move (sound : state.Sound calls dismissed) (place : Nat) (move : Connection.Move)
    (implies : ∀ place, dismissed place → later place)
    (dismisses : ∀ other, state.Dismisses (.move place move) other → later other) :
    (state.act (.move place move)).Sound (calls ++ (state.react (.move place move)).2) later := by
  cases found : state.connections[place]? with
  | none =>
      unfold act
      rw [react_move_of_none found, List.append_nil]
      exact { sound with
        kept := fun place connection found =>
          (sound.kept place connection found).mono (implies place) }
  | some connection =>
      have own := sound.own place connection found
      have inside : place < state.connections.length := (List.getElem?_eq_some_iff.mp found).1
      unfold act
      rw [react_move found, own]
      refine ⟨Lens.sane_run sound.sane _, ?_, fun other after located => ?_,
        fun other outside => ?_, fun other after located => ?_⟩
      · rw [run_move_length, List.length_set]
        exact sound.opened
      · by_cases same : place = other
        · subst same
          rw [List.getElem?_set_self inside] at located
          rw [← Option.some.inj located, move_session, own]
        · rw [List.getElem?_set_ne same] at located
          exact sound.own other after located
      · rw [List.length_set] at outside
        rw [askedOf_append, sound.unheard other outside,
          askedOf_of_ne (own.symm ▸ (Nat.lt_of_lt_of_le inside outside).ne)]
        rfl
      · by_cases same : place = other
        · subst same
          rw [List.getElem?_set_self inside] at located
          rw [← Option.some.inj located]
          exact sound.moved found move (implies place) (dismisses place)
        · rw [List.getElem?_set_ne same] at located
          exact sound.stays located _ (askedOf_of_ne (own ▸ same)) (implies other)

theorem Sound.serve (sound : state.Sound calls dismissed) (event : Event)
    (foreign : event.isForeign = true) (implies : ∀ place, dismissed place → later place) :
    (state.act (.serve event foreign)).Sound (calls ++ (state.react (.serve event foreign)).2)
      later where
  sane := Lens.act_sane event sound.sane
  opened := (Lens.act_length sound.sane foreign).trans sound.opened
  own := sound.own
  unheard := fun place outside => by
    rw [askedOf_append, sound.unheard place outside]
    exact askedOf_of_isForeign foreign place
  kept := fun place connection found =>
    sound.stays found [event] (askedOf_of_isForeign foreign place) (implies place)

/-- Every act keeps a server sound. -/
theorem Sound.act (sound : state.Sound calls dismissed) (act : Act)
    (implies : ∀ place, dismissed place → later place)
    (dismisses : ∀ place, state.Dismisses act place → later place) :
    (state.act act).Sound (calls ++ (state.react act).2) later := by
  cases act with
  | accept context? => exact sound.accept context? implies
  | move place move => exact sound.move place move implies dismisses
  | serve event foreign => exact sound.serve event foreign implies

end Steps

/-- Whether the reader of a connection closed its session because it was cancelled. -/
def Dismissed (start : State) (acts : List Act) (place : Nat) : Prop :=
  ∃ earlier act later, acts = earlier ++ act :: later ∧ (start.run earlier).Dismisses act place

theorem run_sound (settings : Settings) (host : Host) (acts : List Act) :
    ((onHost settings host).run acts).Sound ((onHost settings host).calls acts)
      ((onHost settings host).Dismissed acts) := by
  induction acts using List.reverseRecOn with
  | nil =>
      exact ⟨Lens.run_sane settings host [], rfl, nofun, fun _ _ => rfl, nofun⟩
  | append_singleton acts act ih =>
      rw [run_append, calls_append, run_cons, run_nil, State.calls, State.calls, List.append_nil]
      refine ih.act act (fun place => ?_) fun place dismisses => ⟨acts, act, [], rfl, dismisses⟩
      rintro ⟨earlier, first, later, rfl, dismisses⟩
      exact ⟨earlier, first, later ++ [act], by simp, dismisses⟩

/-! ## How many sessions are counted -/

/-- Whether the sessions that are counted are those of the open connections. -/
def Counted (state : State) : Prop :=
  state.lens.hub.listing = state.connections.map (·.isOpen)

/-- A connection that moves takes its session off the list when it closes it, and leaves the list
alone otherwise. -/
theorem Counted.move {state : State} (counted : state.Counted) {place : Nat}
    {connection : Connection} (found : state.connections[place]? = some connection)
    (own : connection.session = place) (move : Connection.Move) :
    (state.act (.move place move)).Counted := by
  have still : (state.connections.map (·.isOpen)).set place connection.isOpen =
      state.connections.map (·.isOpen) := by
    obtain ⟨inside, rfl⟩ := List.getElem?_eq_some_iff.mp found
    rw [← List.map_set, List.set_getElem_self]
  have closed : (state.lens.run [.markClosed connection.session]).hub.listing =
      (state.connections.map (·.isOpen)).set place false := by
    refine (Hub.listing_put _ _ _).trans ?_
    rw [own, counted]
    rfl
  have received : (state.lens.run [.receive connection.session 1]).hub.listing =
      state.connections.map (·.isOpen) := by
    refine Eq.trans ?_ counted
    exact @Hub.listing_put_same state.lens.hub connection.session _ rfl
  have hung : (state.lens.run [.hangUp connection.session]).hub.listing =
      state.connections.map (·.isOpen) := by
    refine Eq.trans ?_ counted
    exact @Hub.listing_put_same state.lens.hub connection.session _ rfl
  unfold act Counted
  rw [react_move found, List.map_set]
  have change := connection.move_change (state.lens.session connection.session) move
  generalize connection.move (state.lens.session connection.session) move = result at change
  cases change with
  | takes input =>
      refine Eq.trans ?_ still.symm
      cases input.text? with
      | none => exact counted
      | some text => exact (state.lens.handleText_listed connection.session text).trans counted
  | stops => exact closed
  | quits => exact closed
  | releases closing =>
      have gone : connection.isOpen = false := by simp [Connection.isOpen, closing]
      exact counted.trans (gone ▸ still).symm
  | writes => exact received.trans still.symm
  | fails => exact hung.trans still.symm
  | _ => exact counted.trans still.symm

/-- As long as the program does not shut down. -/
theorem run_counted (settings : Settings) (host : Host) (acts : List Act)
    (up : ∀ foreign, .serve .shutdown foreign ∉ acts) :
    ((onHost settings host).run acts).Counted := by
  induction acts using List.reverseRecOn with
  | nil => rfl
  | append_singleton acts act ih =>
      have counted := ih fun foreign present => up foreign (List.mem_append_left _ present)
      rw [run_append, run_cons, run_nil]
      cases act with
      | accept context? =>
          unfold Counted State.act react
          dsimp only
          rw [List.map_append, ← counted]
          exact Hub.listing_openSession _ context?
      | move place move =>
          cases found : ((onHost settings host).run acts).connections[place]? with
          | none =>
              unfold State.act
              rw [react_move_of_none found]
              exact counted
          | some connection =>
              exact counted.move found ((run_sound settings host acts).own place connection found)
                move
      | serve event foreign =>
          refine (Lens.act_listing _ foreign fun down => ?_).trans counted
          subst down
          exact up foreign (by simp)

/-! ## Writers -/

/-- A writer receives and sends the next message, if there is one. -/
theorem move_write {connection : Connection} {session : Session} {queued : List Message}
    (writing : connection.writer = .writing)
    (queue : queued = session.outbox.map (·.message)) (written : connection.written <+: queued) :
    ∃ events, connection.move session .write =
        ({ connection with written := queued.take (connection.written.length + 1) }, events) ∧
      (events = [] ∨ events = [.receive connection.session 1]) := by
  have more : queued.take (connection.written.length + 1) =
      connection.written ++ (connection.next? session).toList := by
    rw [List.take_add_one, ← List.prefix_iff_eq_take.mp written, queue]
    rfl
  rw [more]
  unfold Connection.move
  dsimp only
  split
  · rename_i message _ next
    rw [next]
    exact ⟨_, rfl, .inr rfl⟩
  · rename_i stuck
    cases next : connection.next? session with
    | none => exact ⟨_, by rw [Option.toList_none, List.append_nil], .inl rfl⟩
    | some message => exact absurd next (stuck message writing)

/-- A writer that is not disturbed sends all that is queued. -/
theorem run_writes (state : State) (connection : Connection) {place : Nat}
    (found : state.connections[place]? = some connection)
    (writing : connection.writer = .writing) {queued : List Message}
    (queue : queued = (state.lens.session connection.session).outbox.map (·.message))
    (written : connection.written <+: queued) (count : Nat) :
    (state.run (List.replicate count (.move place .write))).connections[place]? =
      some { connection with
        written := queued.take (connection.written.length + count) } := by
  induction count generalizing state connection with
  | zero =>
      rw [Nat.add_zero, ← List.prefix_iff_eq_take.mp written]
      exact found
  | succ count ih =>
      have inside : place < state.connections.length := (List.getElem?_eq_some_iff.mp found).1
      obtain ⟨events, moved, received⟩ := move_write writing queue written
      have sent : state.act (.move place .write) =
          { lens := state.lens.run events
            connections := state.connections.set place
              { connection with
                written := queued.take (connection.written.length + 1) } } := by
        unfold act
        rw [react_move found, moved]
      have still : ((state.lens.run events).session connection.session).outbox =
          (state.lens.session connection.session).outbox := by
        rcases received with rfl | rfl
        · rfl
        · exact state.lens.receive_outbox connection.session 1
      have rest := ih (state.act (.move place .write))
        { connection with written := queued.take (connection.written.length + 1) }
        (by rw [sent]; exact List.getElem?_set_self inside) writing
        (by rw [sent, still]; exact queue) (List.take_prefix _ _)
      rw [List.replicate_succ, run_cons, rest]
      have length := written.length_le
      congr 2
      rw [List.length_take, List.take_eq_take_iff]
      omega

/-! ## From first to last -/

end State

/-- What a connection has to do with its session.  `asked` is what was asked of the session, and
`dismissed` says that it was cancelled while the reader read. -/
structure Connection.Owns (connection : Connection) (session : Session) (asked : List Event)
    (dismissed : Prop) : Prop where
  /-- The session is asked to handle what it is handed, to close in the end, and nothing else. -/
  asks : asked =
    connection.handed.map (Event.handleText connection.session) ++ connection.closing
  /-- Whatever ends a connection, the reader closes the session at once. -/
  reads : connection.isOpen = true → ∀ input ∈ connection.heard, input.isLast = false
  /-- The session is handed the texts before the input that ends the connection, in order. -/
  early : connection.handed <+: Input.textsBefore connection.received
  /-- In the end it was handed all of them, unless it was cancelled. -/
  all : connection.isOpen = false →
    connection.handed = Input.textsBefore connection.received ∨ dismissed
  /-- Then it is closed for good, and its tasks end. -/
  closed : connection.isOpen = false → session.Shut ∧ session.Ends
  /-- A connection does not end before the tasks of all that was watched have. -/
  ended : connection.isEnded = true →
    ∀ task ∈ session.tasks, task.generation ∉ connection.awaited
  /-- The peer is sent what the session says, in order. -/
  written : connection.written <+: session.outbox.map (·.message)
  /-- A writer that is not disturbed stops when all is sent and nothing is left of the session. -/
  finished : connection.writer = .finished → session.Over ∧ session.tasks = [] ∧
    connection.written = session.outbox.map (·.message)

namespace Connection

variable {connection : Connection} {session : Session} {asked : List Event} {dismissed : Prop}

theorem heard_append (connection : Connection) :
    connection.received = connection.heard ++ connection.received.drop connection.taken :=
  (List.take_append_drop _ _).symm

theorem handed_of_plain (plain : ∀ input ∈ connection.heard, input.isLast = false) :
    connection.handed <+: Input.textsBefore connection.received := by
  rw [connection.heard_append, Input.textsBefore_append plain]
  exact List.prefix_append _ _

theorem handed_of_stopped (stopped : connection.Stopped) :
    connection.handed = Input.textsBefore connection.received := by
  obtain ⟨front, last, heard, ends, plain⟩ := stopped
  unfold handed
  rw [connection.heard_append, heard, List.append_assoc, Input.textsBefore_append plain,
    List.singleton_append, Input.textsBefore_of_isLast ends, List.filterMap_append]
  simp [Input.text?_of_isLast ends]

/-- What is kept of a connection while the server runs is what it has to do. -/
theorem Kept.owns (kept : connection.Kept session asked dismissed) :
    connection.Owns session asked dismissed where
  asks := kept.asks
  reads := kept.reads
  early := by
    cases reads : connection.isOpen with
    | true => exact handed_of_plain (kept.reads reads)
    | false =>
        rcases kept.left reads with stopped | ⟨_, plain⟩
        · exact handed_of_stopped stopped ▸ List.prefix_refl _
        · exact handed_of_plain plain
  all := fun closed => (kept.left closed).imp handed_of_stopped And.left
  closed := fun closed => ⟨kept.shut closed, (kept.shut closed).ends⟩
  ended := fun ended => by
    simp only [isEnded, Bool.and_eq_true, beq_iff_eq] at ended
    exact kept.released ended.1
  written := kept.written
  finished := fun finished => by
    obtain ⟨gone, idle, complete⟩ := kept.finished finished
    refine ⟨(kept.shut (isOpen_of_gone gone)).toOver fun task present => ?_, idle, complete⟩
    exact absurd (idle ▸ present) List.not_mem_nil

end Connection

namespace State

/-- What is queued for a peer stays queued, until it is written. -/
theorem queued_later {state : State} {calls : List Event} {dismissed : Nat → Prop}
    (sound : state.Sound calls dismissed) {place : Nat} {connection : Connection}
    (found : state.connections[place]? = some connection) (later : List Act) :
    (state.lens.session place).outbox <+: ((state.run later).lens.session place).outbox := by
  have inside : place < state.lens.hub.sessions.length :=
    sound.opened.symm ▸ (List.getElem?_eq_some_iff.mp found).1
  rw [run_lens]
  exact Lens.run_keeps_session
    (P := fun session => (state.lens.session place).outbox <+: session.outbox) sound.sane inside
    (List.prefix_refl _)
    (fun site happening kept => kept.trans (Session.happening_outbox _ site happening).1) _

theorem respond_health (lens : Lens) :
    respond lens "/health" = { status := 200, body? := some (health lens) } := by
  have path : pathOf "/health" = "/health" := by decide
  unfold respond
  rw [path]
  rfl

/-- Each connection of a server owns one session, in its own place, from first to last.  Nothing
but the connections opens sessions, hands them texts or closes them, unless the program shuts
down; as long as it does not, the report on the state of the service counts the connections that
have not closed their sessions.  Whatever is queued for a peer is written in order, after the
session is closed as well, if nothing disturbs the writer. -/
theorem connections_own_sessions (settings : Settings) (host : Host) (acts : List Act) :
    let start := onHost settings host
    let state := start.run acts
    let calls := start.calls acts
    state.lens = start.lens.run calls ∧
    state.lens.hub.sessions.length = state.connections.length ∧
    (∀ (place : Nat) (connection : Connection), state.connections[place]? = some connection →
      let queued := (state.lens.session place).outbox.map (·.message)
      connection.session = place ∧
      connection.Owns (state.lens.session place) (askedOf place calls)
        (start.Dismissed acts place) ∧
      (connection.writer = .writing →
        (state.run (List.replicate queued.length (.move place .write))).connections[place]? =
          some { connection with written := queued }) ∧
      ∀ (later : List Act) (after : Connection),
        (state.run later).connections[place]? = some after → after.writer = .finished →
        queued <+: after.written) ∧
    ((∀ foreign, .serve .shutdown foreign ∉ acts) →
      (respond state.lens "/health").body? = some (.obj
        [("status", .str "ok"), ("currentContext", .ofText? state.lens.current?),
          ("watchSessions", .int (state.connections.countP (·.isOpen)))])) := by
  intro start state calls
  have sound : state.Sound calls (start.Dismissed acts) := run_sound settings host acts
  refine ⟨start.run_lens acts, sound.opened, fun place connection found => ?_, fun up => ?_⟩
  · intro queued
    have own := sound.own place connection found
    have kept := sound.kept place connection found
    refine ⟨own, kept.owns, fun writing => ?_, fun later after located finished => ?_⟩
    · have queue : queued = (state.lens.session connection.session).outbox.map (·.message) := by
        rw [own]
      refine (run_writes state connection found writing queue kept.written _).trans ?_
      rw [List.take_of_length_le (Nat.le_add_left _ _)]
    · have soundLater := run_sound settings host (acts ++ later)
      rw [run_append] at soundLater
      rw [((soundLater.kept place after located).finished finished).2.2]
      exact (queued_later sound found later).map _
  · have count : state.lens.hub.sessionCount = state.connections.countP (·.isOpen) := by
      rw [Hub.sessionCount_eq_listing, run_counted settings host acts up, List.countP_map]
      rfl
    rw [respond_health, health, count]

/-- Two peers connect.  Each sends a text that asks for nothing; the first one closes the
connection, and sends another text after that. -/
def closedAfterText : List Act :=
  [.accept none, .accept none,
    .move 0 (.receive (.frame (.text "a"))), .move 0 .read, .serve (.reply 0) rfl,
    .move 1 (.receive (.frame (.text "b"))), .move 1 .read,
    .move 0 (.receive (.frame .ping)), .move 0 .read,
    .move 0 (.receive (.frame .close)), .move 0 (.receive (.frame (.text "c"))), .move 0 .read,
    .move 0 .release, .move 0 .write, .move 0 .finish]

theorem connections_own_sessions_closedAfterText :
    let start := onHost (.defaults none) (.storing ["dev"])
    let state := start.run closedAfterText
    let asked := askedOf 0 (start.calls closedAfterText)
    ∃ connection, state.connections[0]? = some connection ∧ connection.isEnded = true ∧
      connection.received.length = 4 ∧ connection.written.length = 1 ∧
      connection.Owns (state.lens.session 0) asked (start.Dismissed closedAfterText 0) ∧
      asked = [.handleText 0 "a", .markClosed 0] ∧
      (respond state.lens "/health").body? = some (.obj
        [("status", .str "ok"), ("currentContext", .null), ("watchSessions", .int 1)]) := by
  intro start state asked
  obtain ⟨_, _, owned, counts⟩ :=
    connections_own_sessions (.defaults none) (.storing ["dev"]) closedAfterText
  have up : ∀ foreign, .serve .shutdown foreign ∉ closedAfterText := by
    intro foreign present
    simp only [closedAfterText, List.mem_cons, List.not_mem_nil, reduceCtorEq, false_or,
      or_false] at present
    cases present
  have reading : state.connections.countP (·.isOpen) = 1 := by decide +kernel
  have first : (state.connections[0]?).any (fun connection => connection.isEnded &&
      connection.received.length == 4 && connection.written.length == 1 &&
      connection.handed == ["a"]) = true := by
    decide +kernel
  obtain ⟨connection, found, done⟩ := (Option.any_eq_true _ _).mp first
  simp only [Bool.and_eq_true, beq_iff_eq] at done
  obtain ⟨⟨⟨ended, received⟩, written⟩, handed⟩ := done
  obtain ⟨own, owns, _⟩ := owned 0 connection found
  refine ⟨connection, found, ended, received, written, owns, ?_, ?_⟩
  · have closed : connection.isOpen = false := by
      simp only [Connection.isEnded, Bool.and_eq_true, beq_iff_eq] at ended
      exact Connection.isOpen_of_gone ended.1
    refine owns.asks.trans ?_
    rw [handed, own, Connection.closing, closed, own]
    rfl
  · have current : state.lens.current? = none := by decide +kernel
    have counted := counts up
    rw [reading, current] at counted
    exact counted

end State
end Server
end KubeLens
