import KubeLens.Proofs.Lens.Run
import KubeLens.Server.Socket

/-!
# Connections as they go on

Each connection has a reader and a writer, which go on by themselves while the service does other
things.  The reader hands texts to the session of the connection until something ends it; then it
closes the session, waits for the tasks of what was watched, and lets go of the session.  The
writer receives what the session says and sends it, until the peer is gone or nobody can say
anything any more.  The session sends its answers in its own time, as there is room for them.
What a `Socket` does in one call is a run of several such moves.
-/

namespace KubeLens

namespace Event

/-- Whether an event opens no session, and no connection brings it about for one. -/
def isForeign : Event → Bool
  | openSession _ | handleText _ _ | subscribe _ _ | unsubscribe _ _ => false
  | receive _ _ | hangUp _ | markClosed _ | closeSession _ => false
  | _ => true

/-- Whether an event asks something of a session. -/
def isAimedAt (id : Nat) : Event → Bool
  | handleText place _ | subscribe place _ | unsubscribe place _ => place == id
  | markClosed place | closeSession place => place == id
  | _ => false

end Event

namespace Server

/-! ## Inputs -/

/-- What comes in over a connection. -/
inductive Input
  | frame (frame : Frame)
  /-- Reading fails. -/
  | failure
  /-- Nothing comes any more. -/
  | stop
  deriving DecidableEq, Repr

namespace Input

/-- Whether the reader goes no further than to an input. -/
def isLast : Input → Bool
  | frame .close | failure | stop => true
  | _ => false

/-- The text in an input. -/
def text? : Input → Option String
  | frame (.text content) => some content
  | _ => none

/-- The texts before the first input that the reader goes no further than. -/
def textsBefore (inputs : List Input) : List String :=
  (inputs.takeWhile fun input => !input.isLast).filterMap text?

theorem text?_of_isLast {input : Input} (last : input.isLast = true) : input.text? = none := by
  cases input with
  | frame frame => cases frame <;> first | rfl | cases last
  | failure => rfl
  | stop => rfl

end Input

/-! ## One connection -/

/-- How far the reader of a connection is. -/
inductive Reader
  | reading
  /-- The session is closed; some of its tasks have yet to end. -/
  | closing
  /-- The reader has let go of the session. -/
  | gone
  deriving DecidableEq, Repr

/-- How far the writer of a connection is. -/
inductive Writer
  | writing
  /-- The peer takes no messages any more. -/
  | broken
  /-- There were no more messages. -/
  | finished
  deriving DecidableEq, Repr

/-- A connection. -/
structure Connection where
  session : Nat
  /-- Everything that came in, oldest first. -/
  received : List Input := []
  /-- How much of it the reader has taken. -/
  taken : Nat := 0
  reader : Reader := .reading
  /-- The generations of the tasks that the reader waits for. -/
  awaited : List Nat := []
  writer : Writer := .writing
  /-- The messages that were sent to the peer, oldest first. -/
  written : List Watch.Message := []

/-- Something that a connection does. -/
inductive Connection.Move
  /-- Something comes in. -/
  | receive (input : Input)
  /-- The reader takes what came in next. -/
  | read
  /-- The reader notices that the session is cancelled. -/
  | notice
  /-- The reader lets go of the session; the tasks that it waited for have ended. -/
  | release
  /-- The writer receives the next message, and sends it. -/
  | write
  /-- The writer finds the peer gone when it sends the next message. -/
  | fail
  /-- The writer finds that nobody can say anything any more. -/
  | finish
  deriving DecidableEq, Repr

namespace Connection

/-- Whether the reader has not closed the session yet. -/
def isOpen (connection : Connection) : Bool :=
  connection.reader == .reading

/-- Whether both the reader and the writer have done their work. -/
def isEnded (connection : Connection) : Bool :=
  connection.reader == .gone && connection.writer != .writing

/-- What the reader has taken. -/
def heard (connection : Connection) : List Input :=
  connection.received.take connection.taken

/-- The message that the writer sends next. -/
def next? (connection : Connection) (session : Watch.Session) : Option Watch.Message :=
  (session.outbox.map (·.message))[connection.written.length]?

/-- The reader closes the session, and waits for the tasks of all that is watched. -/
def leave (connection : Connection) (session : Watch.Session) : Connection × List Event :=
  ({ connection with reader := .closing, awaited := session.watches.map (·.2) },
    [.markClosed connection.session])

/-- What the reader does with an input. -/
def heed (connection : Connection) (session : Watch.Session) :
    Input → Connection × List Event
  | .frame (.text content) => (connection, [.handleText connection.session content])
  | .frame .binary | .frame .ping => (connection, [])
  | .frame .close | .failure | .stop => connection.leave session

/-- What becomes of a connection, and what the service is asked to do.  `session` is the session
as it is. -/
def move (connection : Connection) (session : Watch.Session) : Move → Connection × List Event
  | .receive input => ({ connection with received := connection.received ++ [input] }, [])
  | .read =>
    match connection.reader, connection.received[connection.taken]? with
    | .reading, some input => { connection with taken := connection.taken + 1 }.heed session input
    | _, _ => (connection, [])
  | .notice =>
    if connection.isOpen && session.isCancelled then connection.leave session
    else (connection, [])
  | .release =>
    if connection.reader = .closing &&
        session.tasks.all fun task => !connection.awaited.contains task.generation then
      ({ connection with reader := .gone }, [])
    else (connection, [])
  | .write =>
    match connection.writer, connection.next? session with
    | .writing, some message =>
      ({ connection with written := connection.written ++ [message] },
        [.receive connection.session 1])
    | _, _ => (connection, [])
  | .fail =>
    match connection.writer, connection.next? session with
    | .writing, some _ => ({ connection with writer := .broken }, [.hangUp connection.session])
    | _, _ => (connection, [])
  | .finish =>
    if connection.writer = .writing && connection.reader = .gone && session.tasks.isEmpty &&
        (connection.next? session).isNone then
      ({ connection with writer := .finished }, [])
    else (connection, [])

end Connection

/-! ## The server -/

/-- A server: the service and all connections that it ever accepted. -/
structure State where
  lens : Lens
  connections : List Connection := []

/-- Something that happens to a server. -/
inductive Act
  /-- A peer connects. -/
  | accept (context? : Option String)
  | move (place : Nat) (move : Connection.Move)
  /-- Something else that happens to the service. -/
  | serve (event : Event) (foreign : event.isForeign = true)

namespace State

/-- What becomes of the connections, and what the service is asked to do. -/
def react (state : State) : Act → List Connection × List Event
  | .accept context? =>
    (state.connections ++ [{ session := (state.lens.openSession context?).1 }],
      [.openSession context?])
  | .move place move =>
    match state.connections[place]? with
    | none => (state.connections, [])
    | some connection =>
      let (connection, events) :=
        connection.move (state.lens.session connection.session) move
      (state.connections.set place connection, events)
  | .serve event _ => (state.connections, [event])

/-- What an act does. -/
def act (state : State) (act : Act) : State :=
  let (connections, events) := state.react act
  { lens := state.lens.run events, connections }

theorem react_move {state : State} {place : Nat} {connection : Connection}
    (found : state.connections[place]? = some connection) (move : Connection.Move) :
    state.react (.move place move) =
      (state.connections.set place
          (connection.move (state.lens.session connection.session) move).1,
        (connection.move (state.lens.session connection.session) move).2) := by
  unfold react
  dsimp only
  rw [found]

/-- Where there is no connection nothing happens. -/
theorem react_move_of_none {state : State} {place : Nat} (none : state.connections[place]? = none)
    (move : Connection.Move) : state.react (.move place move) = (state.connections, []) := by
  unfold react
  dsimp only
  rw [none]

/-- What acts do one after the other. -/
def run (state : State) (acts : List Act) : State :=
  acts.foldl act state

/-- All that acts ask the service to do. -/
def calls (state : State) : List Act → List Event
  | [] => []
  | first :: rest => (state.react first).2 ++ (state.act first).calls rest

@[simp] theorem run_nil (state : State) : state.run [] = state := rfl

@[simp] theorem run_cons (state : State) (first : Act) (rest : List Act) :
    state.run (first :: rest) = (state.act first).run rest := rfl

theorem run_append (state : State) (earlier later : List Act) :
    state.run (earlier ++ later) = (state.run earlier).run later :=
  List.foldl_append

theorem calls_append (state : State) (earlier later : List Act) :
    state.calls (earlier ++ later) = state.calls earlier ++ (state.run earlier).calls later := by
  induction earlier generalizing state with
  | nil => rfl
  | cons first rest ih =>
      rw [List.cons_append, calls, ih, calls, run_cons, List.append_assoc]

/-- Nothing happens to the service but what the acts ask for. -/
theorem run_lens (state : State) (acts : List Act) :
    (state.run acts).lens = state.lens.run (state.calls acts) := by
  induction acts generalizing state with
  | nil => rfl
  | cons first rest ih =>
      rw [run_cons, ih, calls, Lens.run_append]
      rfl

/-- The server on a host, before anything happened. -/
def onHost (settings : Settings) (host : Host) : State :=
  { lens := .onHost settings host }

end State
end Server
end KubeLens
