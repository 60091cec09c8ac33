import KubeLens.Site
import KubeLens.Watch.Session

/-!
# Progress of a watch task

One step takes a task from its phase to the next one.  Between two steps of a task anything else
may happen.  A cancelled task stops before its next step, and its feed is closed.
-/

namespace KubeLens
namespace Watch

/-- What a step may change besides the site. -/
abbrev Turn := Site × Session

namespace Source

/-- The feed of a source. -/
def feed? (source : Source) (site : Site) : Option Feed :=
  (source.client.cluster site.fleet).feeds[source.place]?

/-- Changes the feed of a source. -/
def modify (source : Source) (site : Site) (change : Feed → Feed) : Site :=
  { site with
    fleet := site.fleet.modify source.client.context fun cluster =>
      cluster.modifyFeed source.place change }

end Source

namespace Task

/-- Closes the feed of a task. -/
def release (task : Task) (site : Site) : Site :=
  match task.phase.source? with
  | some source => source.modify site Feed.close
  | none => site

/-- Whether the task stops before its next step. -/
def isStopping (task : Task) (session : Session) : Bool :=
  (task.isCancelled || session.isCancelled) && task.phase.isRunning

/-- Stops a cancelled task. -/
def stop (task : Task) : Turn → Turn
  | (site, session) => (task.release site, session.dropTask task.generation)

/-- Sends a message of the task. -/
def tell (task : Task) (session : Session) (message : Message) : Session :=
  session.post (some task.generation) message

/-- Puts the task in a phase. -/
def enter (task : Task) (session : Session) (phase : Phase) : Session :=
  session.setPhase task.generation phase

/-- Finds the connection. -/
def connect (task : Task) : Turn → Turn
  | (site, session) =>
    match site.resolve task.context? with
    | (.error error, site) => (site, task.enter session (.ending (.failed error)))
    | (.ok handle, site) => (site, task.enter session (.resolved handle))

/-- Goes on with a connection.  A task without a context of its own gives the session the one of
the connection, unless the session has one by now. -/
def pin (task : Task) (handle : Handle) : Turn → Turn
  | (site, session) =>
    let session :=
      if task.context?.isNone then session.pin (some handle.context) else session
    (site, task.enter session (.connected handle))

/-- Opens the feed. -/
def subscribe (task : Task) (handle : Handle) : Turn → Turn
  | (site, session) =>
    let d := task.descriptor
    match GroupVersion.parseAllowCore d.apiVersion with
    | .error fault =>
      (site, task.enter session (.ending (.failed (.ofApiVersion d.apiVersion fault))))
    | .ok gv =>
      let (plural, site) := site.pluralOf handle.client gv d.kind d.plural?
      let type := ResourceType.ofGroupVersion gv d.kind plural
      let (place, fleet) := handle.client.watch site.fleet type d.space? d.name
      ({ site with fleet }, task.enter session (.opened ⟨handle.client, type, place⟩))

/-- Reads the object over the connection of a source. -/
def read (task : Task) (source : Source) (site : Site) :
    Option (Except ClusterError Json) × Site :=
  site.getWith source.client source.type task.descriptor.space? task.descriptor.name

/-- Reads the object for the first time; what it finds is to be told. -/
def readFirst (task : Task) (source : Source) : Turn → Turn
  | (site, session) =>
    match task.read source site with
    | (none, site) => (site, task.enter session (.stalled source))
    | (some answer, site) =>
      (site, task.enter session (.telling source (task.firstMessage answer) none))

/-- Takes the next item of the feed, which may have to be told, or ends with the feed. -/
def take (task : Task) (source : Source) (due : Nat) : Turn → Turn
  | (site, session) =>
    match (source.feed? site).bind Feed.next? with
    | some item =>
      (source.modify site Feed.advance,
        task.enter session (.goingOn source (task.itemMessage? item) due))
    | none => (task.release site, task.enter session (.ending .finished))

/-- Reads the object again; what it finds may have to be told. -/
def readAgain (task : Task) (source : Source) (due : Nat) : Turn → Turn
  | (site, session) =>
    match task.read source site with
    | (none, site) => (site, task.enter session (.stalled source))
    | (some answer, site) =>
      (site, task.enter session (.goingOn source (task.laterMessage? answer) due))

/-- Whether the feed of a source has an item to read, or has ended. -/
def hasInput (source : Source) (site : Site) : Bool :=
  (source.feed? site).any fun feed => feed.next?.isSome || feed.isFinished

/-- Whether a task can make a step without waiting. -/
def canStep (task : Task) (site : Site) (session : Session) : Bool :=
  task.isStopping session ||
    match task.phase with
    | .telling _ _ _ | .reporting _ => session.accepts
    | .streaming source _ => hasInput source site
    | .stalled _ => false
    | _ => true

/-- The next step of a task.  `due` is the time of the second read for a task that has told the
first one. -/
def step (task : Task) (due : Nat) (turn : Turn) : Turn :=
  if task.isStopping turn.2 then task.stop turn
  else
    match task.phase with
    | .starting => task.connect turn
    | .resolved handle => task.pin handle turn
    | .connected handle => task.subscribe handle turn
    | .opened source => task.readFirst source turn
    | .telling source message due? =>
      (turn.1, task.enter (task.tell turn.2 message) (.streaming source (due?.getD due)))
    | .streaming source due => task.take source due turn
    | .stalled _ => turn
    | .ending reason =>
      (turn.1, task.enter (turn.2.deregister task) (.reporting reason))
    | .reporting reason =>
      (turn.1, (task.tell turn.2 (task.farewell reason)).dropTask task.generation)

/-- What a task does when the time of its next read has come. -/
def tick (task : Task) (period : Nat) (turn : Turn) : Turn :=
  if task.isStopping turn.2 then task.stop turn
  else
    match task.phase with
    | .streaming source due => task.readAgain source (due + period) turn
    | _ => turn

/-- How many steps a task makes at most, when its feed gets no more items: each item that was not read
yet is read and told. -/
def stepsLeft (task : Task) (site : Site) : Nat :=
  2 * (task.phase.source?.bind (·.feed? site)).elim 0 Feed.unread + task.phase.rank

/-- When a task reads its object again. -/
def due? (task : Task) : Option Nat :=
  match task.phase with
  | .streaming _ due => some due
  | _ => none

end Task

/-- How many steps a session and its tasks make at most, when no feed gets more items: each message
that is owed is sent once. -/
def Session.stepsLeft (session : Session) (site : Site) : Nat :=
  session.replies.length + session.tasks.foldr (fun task left => task.stepsLeft site + left) 0

end Watch
end KubeLens
