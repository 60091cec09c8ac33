import KubeLens.Lens

/-!
# Watch connections

A connection has a session of its own from its start to its end.  Text frames go to the session,
which answers them as far as there is room; the connection ends with a close frame, when the peer
vanishes, and when the session is cancelled.
-/

namespace KubeLens
namespace Server

/-- A frame from the peer. -/
inductive Frame
  | text (content : String)
  | binary
  | ping
  | close
  deriving DecidableEq, Repr

/-- A connection. -/
structure Socket where
  session : Nat
  isEnded : Bool := false
  deriving DecidableEq, Repr

namespace Socket

/-- Ends a connection and closes its session. -/
def finish (socket : Socket) (lens : Lens) : Socket × Lens :=
  if socket.isEnded then (socket, lens)
  else ({ socket with isEnded := true }, lens.closeSession socket.session)

/-- Ends a connection whose session was cancelled. -/
def refresh (socket : Socket) (lens : Lens) : Socket × Lens :=
  if (lens.session socket.session).isCancelled then socket.finish lens else (socket, lens)

/-- Accepts a connection. -/
def accept (lens : Lens) (context? : Option String) : Socket × Lens :=
  let (session, lens) := lens.openSession context?
  refresh { session } lens

/-- Handles a frame. -/
def receive (socket : Socket) (lens : Lens) (frame : Frame) : Socket × Lens :=
  if socket.isEnded then (socket, lens)
  else
    match frame with
    | .text content =>
      refresh socket ((lens.handleText socket.session content).answer socket.session)
    | .binary | .ping => (socket, lens)
    | .close => socket.finish lens

/-- Handles frames until the connection ends, and ends it with the last one. -/
def serve (socket : Socket) (lens : Lens) (frames : List Frame) : Socket × Lens :=
  let (socket, lens) :=
    frames.foldl (fun state frame => receive state.1 state.2 frame) (socket, lens)
  socket.finish lens

end Socket
end Server
end KubeLens
