import KubeLens.Watch.Progress

/-!
# The hub of all sessions

The hub opens and closes sessions and lets their tasks run.  A session is known by its place in
the list.  `settle` lets tasks run until each of them waits, `advance` lets time pass.
-/

namespace KubeLens
namespace Watch

/-- All sessions. -/
structure Hub where
  /-- The time between two reads of a watched object. -/
  period : Nat
  isCancelled : Bool := false
  sessions : List Session := []
  deriving Inhabited

namespace Hub

/-- A hub with a period of at least a second. -/
def ofResync (resync : Nat) : Hub :=
  { period := max resync 1000 }

/-- The session at a place. -/
def session (hub : Hub) (id : Nat) : Session :=
  (hub.sessions[id]?).getD {}

/-- Replaces the session at a place. -/
def put (hub : Hub) (id : Nat) (session : Session) : Hub :=
  { hub with sessions := hub.sessions.set id session }

/-- Opens a session.  After a shutdown it is cancelled from the start. -/
def openSession (hub : Hub) (context? : Option String) : Nat × Hub :=
  (hub.sessions.length,
    { hub with
      sessions := hub.sessions ++
        [{ context? := context?.filter (!·.isEmpty), isCancelled := hub.isCancelled }] })

/-- How many sessions are counted. -/
def sessionCount (hub : Hub) : Nat :=
  hub.sessions.countP (·.isListed)

/-- Closes a session and waits until the tasks that serve its keys have stopped.  A task that no
longer serves a key stops in its own time. -/
def closeSession (hub : Hub) (site : Site) (id : Nat) : Site × Hub :=
  match hub.sessions[id]? with
  | none => (site, hub)
  | some session =>
    let (site, session) :=
      session.registered.foldl (fun turn task => task.stop turn) (site, session.close)
    (site, hub.put id session)

/-- Closes every session, for good. -/
def shutdown (hub : Hub) (site : Site) : Site × Hub :=
  (List.range hub.sessions.length).foldl (fun state id => closeSession state.2 state.1 id)
    (site, { hub with isCancelled := true })

/-- Lets a task of a session do something. -/
def runTask (site : Site) (hub : Hub) (id generation : Nat) (act : Task → Turn → Turn) :
    Site × Hub :=
  match (hub.session id).task? generation with
  | none => (site, hub)
  | some task =>
    let (site, session) := act task (site, hub.session id)
    (site, hub.put id session)

/-- Lets a task make its next step. -/
def stepTask (now : Nat) (site : Site) (hub : Hub) (id generation : Nat) : Site × Hub :=
  runTask site hub id generation fun task turn => task.step (now + hub.period) turn

/-- The session and the generation of each task that `p` holds of. -/
def tasksWhere (hub : Hub) (p : Session → Task → Bool) : List (Nat × Nat) :=
  hub.sessions.zipIdx.flatMap fun entry =>
    (entry.1.tasks.filter (p entry.1)).map fun task => (entry.2, task.generation)

/-- The first session that can send a message which it owes its peer. -/
def answering? (hub : Hub) : Option Nat :=
  hub.sessions.findIdx? Session.canReply

/-- The first task that can make a step. -/
def ready? (site : Site) (hub : Hub) : Option (Nat × Nat) :=
  (hub.tasksWhere fun session task => task.canStep site session).head?

/-- Whether every task waits. -/
def isIdle (site : Site) (hub : Hub) : Bool :=
  (ready? site hub).isNone

/-- Lets sessions send what they owe their peers, and tasks make steps, one after the other. -/
def run (now : Nat) : Nat → Site → Hub → Site × Hub
  | 0, site, hub => (site, hub)
  | fuel + 1, site, hub =>
    match hub.answering?, ready? site hub with
    | some id, _ => run now fuel site (hub.put id (hub.session id).reply)
    | none, some (id, generation) =>
      let (site, hub) := stepTask now site hub id generation
      run now fuel site hub
    | none, none => (site, hub)

/-- How many steps suffice until everyone waits. -/
def stepBound (site : Site) (hub : Hub) : Nat :=
  hub.sessions.foldr (fun session left => session.stepsLeft site + left) 0

/-- Lets sessions and tasks go on until each of them waits. -/
def settle (hub : Hub) (now : Nat) (site : Site) : Site × Hub :=
  run now (stepBound site hub) site hub

/-- The earliest time at which a task reads its object again. -/
def nextDue? (hub : Hub) : Option Nat :=
  ((hub.sessions.flatMap (·.tasks)).filterMap Task.due?).min?

/-- Lets the tasks read whose time has come. -/
def tickAll (now : Nat) (site : Site) (hub : Hub) : Site × Hub :=
  (hub.tasksWhere fun _ task => task.due?.any (· ≤ now)).foldl
    (fun state place =>
      runTask state.1 state.2 place.1 place.2 fun task turn => task.tick hub.period turn)
    (site, hub)

/-- Lets time pass up to `goal`, from one time at which a task reads to the next. -/
def passTo (goal : Nat) : Nat → Site → Hub → Site × Hub
  | 0, site, hub => (site, hub)
  | fuel + 1, site, hub =>
    match hub.nextDue? with
    | none => (site, hub)
    | some due =>
      if due ≤ goal then
        let (site, hub) := tickAll due site hub
        let (site, hub) := hub.settle due site
        passTo goal fuel site hub
      else (site, hub)

/-- Lets `span` pass from the time `now` on.  A task reads at most once in each period, but may
have been held up. -/
def advance (hub : Hub) (now span : Nat) (site : Site) : Site × Hub :=
  let goal := now + span
  let reads := (hub.sessions.flatMap (·.tasks)).length * (goal / hub.period + 1)
  passTo goal reads site hub

end Hub
end Watch
end KubeLens
