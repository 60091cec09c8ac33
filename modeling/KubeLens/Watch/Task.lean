import KubeLens.Switchboard
import KubeLens.Watch.Descriptor
import KubeLens.Watch.Message

/-!
# Watch tasks

Each watched object is served by a task.  A task connects, opens a feed, reads the object once,
and then tells every change until it is cancelled or its feed ends.  It goes on to the next change
only when it has told the one before.  Tasks of a session are told
apart by their generation.
-/

namespace KubeLens
namespace Watch

/-- Where the changes of a watched object come from. -/
structure Source where
  client : Client
  type : ResourceType
  /-- The place of the feed in the cluster. -/
  place : Nat
  deriving DecidableEq, Repr

/-- Why a task ends by itself. -/
inductive Ending
  /-- The feed ended. -/
  | finished
  /-- The watch could not start. -/
  | failed (error : ServiceError)
  deriving DecidableEq, Repr

/-- How far a task is. -/
inductive Phase
  /-- It has no connection yet. -/
  | starting
  /-- It has found its connection, and its session does not know of it yet. -/
  | resolved (handle : Handle)
  /-- It has a connection. -/
  | connected (handle : Handle)
  /-- It has a feed, and has not read the object yet. -/
  | opened (source : Source)
  /-- It has a message to send, and waits for room.  The object is read again at the time `due?`;
  when there is none, this is the first message. -/
  | telling (source : Source) (message : Message) (due? : Option Nat)
  /-- It waits for changes; the object is read again at the time `due`. -/
  | streaming (source : Source) (due : Nat)
  /-- It waits for an answer that never comes. -/
  | stalled (source : Source)
  /-- It ends, and its object still counts as watched. -/
  | ending (reason : Ending)
  /-- Its object is no longer watched; it has a last message to send. -/
  | reporting (reason : Ending)

namespace Phase

/-- The source that a task in this phase reads. -/
def source? : Phase → Option Source
  | opened source | telling source _ _ | streaming source _ | stalled source => some source
  | _ => none

/-- The phase of a task that goes on with its feed, once it has sent the message if there is one. -/
def goingOn (source : Source) (message? : Option Message) (due : Nat) : Phase :=
  match message? with
  | some message => telling source message (some due)
  | none => streaming source due

/-- Whether a cancelled task stops in this phase. -/
def isRunning : Phase → Bool
  | ending _ | reporting _ => false
  | _ => true

/-- How many steps a task in this phase makes at most, when its feed has nothing to read. -/
def rank : Phase → Nat
  | starting => 8
  | resolved _ => 7
  | connected _ => 6
  | opened _ => 5
  | telling _ _ _ => 4
  | streaming _ _ => 3
  | ending _ => 2
  | stalled _ | reporting _ => 1

end Phase

/-- A task that serves one watched object. -/
structure Task where
  generation : Nat
  descriptor : Descriptor
  /-- The context of the session when the task was started. -/
  context? : Option String
  isCancelled : Bool := false
  phase : Phase := .starting

namespace Task

/-- The key of the object. -/
def key (task : Task) : String :=
  task.descriptor.key

/-- The object in a message. -/
def subject (task : Task) : String :=
  task.descriptor.kind ++ " " ++ task.descriptor.name

/-- The last message of a task that ends by itself. -/
def farewell (task : Task) : Ending → Message
  | .finished => .error ("watch for " ++ task.subject ++ " ended")
  | .failed error => .error ("watch for " ++ task.subject ++ " failed: " ++ error.message)

/-- The message for an error that a feed delivers. -/
def feedError (task : Task) (error : ClusterError) : Message :=
  .error ("watch error for " ++ task.subject ++ ": " ++ error.message)

/-- The message for a first read that fails. -/
def readError (task : Task) (error : ClusterError) : Message :=
  .error ("failed to get " ++ task.subject ++ ": " ++ error.message)

end Task

namespace Descriptor

/-- Whether a document is the watched object. -/
def isAbout (descriptor : Descriptor) (document : Json) : Bool :=
  document.objectName? == some descriptor.name &&
    descriptor.space?.all fun space => document.objectNamespace? == some space

/-- What an event tells about the watched object, if it is about it. -/
def change? (descriptor : Descriptor) (event : ObjectEvent) : Option Change :=
  if descriptor.isAbout event.document then
    match event with
    | .applied document => some (.updated document)
    | .deleted _ => some (.deleted descriptor.stub)
  else none

end Descriptor

namespace Task

/-- The message for an item of the feed, if there is one. -/
def itemMessage? (task : Task) : FeedItem → Option Message
  | .ok event => (task.descriptor.change? event).map Change.message
  | .error error => some (task.feedError error)

/-- The message for the first read of the object. -/
def firstMessage (task : Task) : Except ClusterError Json → Message
  | .ok document => (Change.added document).message
  | .error error =>
    if error.isNotFound then (Change.deleted task.descriptor.stub).message
    else task.readError error

/-- The message for a later read of the object, if there is one. -/
def laterMessage? (task : Task) : Except ClusterError Json → Option Message
  | .ok document => some (Change.updated document).message
  | .error error =>
    if error.isNotFound then some (Change.deleted task.descriptor.stub).message else none

end Task
end Watch
end KubeLens
