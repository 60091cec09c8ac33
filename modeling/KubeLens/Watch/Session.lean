import KubeLens.Watch.Control
import KubeLens.Watch.Task

/-!
# Watch sessions

A session belongs to one peer.  It holds the keys of the objects that are watched for it, the
tasks that serve them, and everything that was sent.  What was sent waits in a queue until the peer
receives it; while the queue is full nothing can be sent.  A session that is cancelled sends
nothing; it becomes so when it is closed, when the program shuts down, and when its peer is found
gone.
-/

namespace KubeLens
namespace Watch

/-- A message that was sent, with the generation of the task that sent it. -/
structure Posting where
  origin : Option Nat
  message : Message
  deriving Inhabited

/-- A session. -/
structure Session where
  /-- The context for new watches; the active one when there is none. -/
  context? : Option String := none
  /-- The generation of the task that serves each key. -/
  watches : Assoc String Nat := []
  nextGeneration : Nat := 0
  /-- Whether the session was closed. -/
  isClosed : Bool := false
  isCancelled : Bool := false
  /-- Whether the peer still receives. -/
  isAttached : Bool := true
  /-- Whether the hub counts the session. -/
  isListed : Bool := true
  /-- Everything that was sent, oldest first. -/
  outbox : List Posting := []
  /-- How much of what was sent the peer has received. -/
  received : Nat := 0
  /-- The answers to the peer that are still to be sent, oldest first. -/
  replies : List Message := []
  tasks : List Task := []
  deriving Inhabited

namespace Session

/-- The keys of the watched objects in order. -/
def watchedKeys (session : Session) : List String :=
  (Assoc.keys session.watches).mergeSort fun a b => decide (a ≤ b)

/-- How many messages may wait for the peer. -/
def capacity : Nat := 256

/-- Whether a message can be sent at once: the queue has room, or nobody waits for room any more
since the session is cancelled or the peer is gone. -/
def accepts (session : Session) : Bool :=
  session.isCancelled || !session.isAttached ||
    session.outbox.length < session.received + capacity

/-- Sends a message.  When the peer is gone the session is cancelled. -/
def post (session : Session) (origin : Option Nat) (message : Message) : Session :=
  if session.isCancelled then session
  else if session.isAttached then
    { session with outbox := session.outbox ++ [⟨origin, message⟩] }
  else { session with isCancelled := true }

/-- The peer receives some of the messages that wait, at most `count`. -/
def receive (session : Session) (count : Nat) : Session :=
  { session with received := min (session.received + count) session.outbox.length }

/-- Has messages to send to the peer that are about none of the watches. -/
def owe (session : Session) (messages : List Message) : Session :=
  { session with replies := session.replies ++ messages }

/-- Sends the next message that is owed to the peer, when the queue has room. -/
def reply (session : Session) : Session :=
  match session.replies with
  | [] => session
  | message :: rest =>
    if session.accepts then { session with replies := rest }.post none message else session

/-- Whether there is a message that is owed and can be sent at once. -/
def canReply (session : Session) : Bool :=
  !session.replies.isEmpty && session.accepts

/-- Uses the active context from now on, unless the session has one. -/
def pin (session : Session) (active? : Option String) : Session :=
  { session with context? := session.context?.or active? }

/-- Starts a task for an object that is not watched. -/
def start (session : Session) (descriptor : Descriptor) : Session :=
  { session with
    nextGeneration := session.nextGeneration + 1
    watches := session.watches.put descriptor.key session.nextGeneration
    tasks := session.tasks ++
      [{ generation := session.nextGeneration, descriptor, context? := session.context? }] }

/-- Cancels the task with a generation. -/
def cancelTask (session : Session) (generation : Nat) : Session :=
  { session with
    tasks := session.tasks.map fun task =>
      if task.generation = generation then { task with isCancelled := true } else task }

/-- Stops watching a key. -/
def unwatch (session : Session) (key : String) : Session :=
  match session.watches.get? key with
  | some generation => { session with watches := session.watches.erase key }.cancelTask generation
  | none => session

/-- What is wrong with a descriptor. -/
def fault? (descriptor : Descriptor) : Option ServiceError :=
  let blank? (field value : String) : Option ServiceError :=
    if Text.isBlankText value then some (.fieldRequired ("resource " ++ field)) else none
  ((blank? "apiVersion" descriptor.apiVersion).or (blank? "kind" descriptor.kind)).or
    (blank? "name" descriptor.name)

/-- Watches an object; nothing happens when it is watched already. -/
def subscribe (session : Session) (active? : Option String) (descriptor : Descriptor) :
    Except ServiceError Session :=
  match fault? descriptor with
  | some error => .error error
  | none =>
    if session.isClosed || session.watches.has descriptor.key then .ok session
    else .ok ((session.pin active?).start descriptor)

/-- The valid descriptors of a list by key; the last one of a key counts. -/
def wanted (descriptors : List Descriptor) : Assoc String Descriptor :=
  (descriptors.filter fun descriptor => (fault? descriptor).isNone).foldl
    (fun wanted descriptor => Assoc.put wanted descriptor.key descriptor) []

/-- What is wrong with the descriptors of a list. -/
def faults (descriptors : List Descriptor) : List ServiceError :=
  descriptors.filterMap fault?

/-- Watches exactly the objects of a list.  Objects that are watched already keep their task;
what is wrong with invalid descriptors is told to the peer. -/
def replace (session : Session) (active? : Option String) (descriptors : List Descriptor) :
    Session :=
  if session.isClosed then session
  else
    let wanted := wanted descriptors
    let session := if wanted.isEmpty then session else session.pin active?
    let dropped := (Assoc.keys session.watches).filter fun key => !Assoc.has wanted key
    let session := dropped.foldl unwatch session
    let session := wanted.foldl (fun session entry =>
      if session.watches.has entry.1 then session else session.start entry.2) session
    session.owe ((faults descriptors).map fun error => .error error.message)

/-- Stops watching an object. -/
def unsubscribe (session : Session) (descriptor : Descriptor) : Session :=
  session.unwatch descriptor.key

/-- Uses another context for new watches. -/
def setContext (session : Session) (context : String) : Session :=
  { session with context? := if context.isEmpty then none else some context }

/-- The session after an operation that may fail; the peer is told the error. -/
def orReply (session : Session) : Except ServiceError Session → Session
  | .ok session => session
  | .error error => session.owe [.error error.message]

/-- Does what a control message asks for.  `active?` is the active context. -/
def handle (session : Session) (active? : Option String) : Control → Session
  | .subscribe _ (some resources) => session.replace active? resources
  | .subscribe (some resource) none => session.orReply (session.subscribe active? resource)
  | .subscribe none none =>
    session.orReply (.error (.protocol "subscribe requires a resource or resources"))
  | .unsubscribe (some resource) => session.unsubscribe resource
  | .unsubscribe none => session.orReply (.error (.protocol "unsubscribe requires a resource"))
  | .setContext context => session.setContext context

/-- Handles a text of the peer.  A text that is no control message is answered with an error. -/
def handleText (session : Session) (active? : Option String) (text : String) : Session :=
  match Control.read? text with
  | some control => session.handle active? control
  | none => session.owe [.error "Invalid message format"]

/-- Whether a task serves a watched key. -/
def isRegistered (session : Session) (task : Task) : Bool :=
  session.watches.any fun entry => entry.2 == task.generation

/-- The tasks that serve the watched keys. -/
def registered (session : Session) : List Task :=
  session.tasks.filter session.isRegistered

/-- Marks the session as closed. -/
def close (session : Session) : Session :=
  { session with isClosed := true, isCancelled := true, isListed := false, watches := [] }

/-- The peer stops receiving. -/
def hangUp (session : Session) : Session :=
  { session with isAttached := false }

/-- The task with a generation. -/
def task? (session : Session) (generation : Nat) : Option Task :=
  session.tasks.find? (·.generation == generation)

/-- Puts a task in a phase. -/
def setPhase (session : Session) (generation : Nat) (phase : Phase) : Session :=
  { session with
    tasks := session.tasks.map fun task =>
      if task.generation = generation then { task with phase } else task }

/-- Forgets a task. -/
def dropTask (session : Session) (generation : Nat) : Session :=
  { session with tasks := session.tasks.filter (·.generation != generation) }

/-- No longer counts the object of a task as watched, unless another task serves it. -/
def deregister (session : Session) (task : Task) : Session :=
  if session.watches.get? task.key = some task.generation then
    { session with watches := session.watches.erase task.key }
  else session

end Session
end Watch
end KubeLens
