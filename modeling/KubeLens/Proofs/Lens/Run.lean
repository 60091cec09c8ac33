import KubeLens.Lens
import KubeLens.Proofs.Site.Evolution

/-!
# Runs of the service

A run is a list of events: requests of callers, texts of peers, steps of tasks, time that
passes, and changes of the surroundings.  Events follow each other in any order.  The requests
that use the active connection more than once are events as a whole, and the looks that they
take at the switchboard are events of their own, so that anything may happen between two looks.
-/

namespace KubeLens

/-- Something that happens to the service. -/
inductive Event
  /-- The program starts. -/
  | start
  /-- A request looks for its connection. -/
  | resolve (context? : Option String)
  /-- A request that did not find its context active makes it so. -/
  | activate (name : String)
  | setContext (name : String)
  | addContexts (raw : String)
  | removeContext (name : String)
  | clearFailed (name : String)
  | check (context? : Option String)
  | list (request : ListRequest)
  | get (request : GetRequest)
  | events (kind name : String) (rawSpace? context? : Option String)
  | resolvePlural (apiVersion kind : String) (context? : Option String)
  | managed (clock : Nat) (context? : Option String) (force : Bool)
  | clearManaged (context? : Option String)
  | openSession (context? : Option String)
  | handleText (id : Nat) (text : String)
  | subscribe (id : Nat) (descriptor : Watch.Descriptor)
  | unsubscribe (id : Nat) (descriptor : Watch.Descriptor)
  /-- A session sends the next message that it owes its peer, if it can. -/
  | reply (id : Nat)
  /-- The peer of a session receives messages that wait. -/
  | receive (id count : Nat)
  /-- The peer of a session stops receiving. -/
  | hangUp (id : Nat)
  /-- A session is marked as closed; its tasks have yet to stop. -/
  | markClosed (id : Nat)
  | closeSession (id : Nat)
  | shutdown
  /-- A task makes its next step, if it need not wait. -/
  | step (id generation : Nat)
  /-- A task reads its object again, if it is time. -/
  | tick (id generation : Nat)
  /-- Time passes, and no task does anything. -/
  | wait (span : Nat)
  /-- Tasks run until each of them waits. -/
  | settle
  /-- Time passes, and tasks do what they can. -/
  | pass (span : Nat)
  /-- Someone else writes the kubeconfig file. -/
  | write (file : KubeconfigFile)
  /-- Storing the kubeconfig file fails at these steps from now on. -/
  | obstruct (faults : List SaveStep)
  /-- These contexts cannot be connected to from now on. -/
  | isolate (unreachable : List String)
  /-- A cluster changes; what was called and the feeds stay. -/
  | reshape (context : String) (content : Cluster)
  /-- A cluster delivers something to the feeds of an object. -/
  | push (context address : String) (item : FeedItem)
  /-- A cluster ends the feeds of an object. -/
  | detach (context address : String)

namespace Event

/-- Whether somebody else than the service writes the kubeconfig file. -/
def writesFile : Event → Bool
  | write _ => true
  | _ => false

/-- Whether a cluster stops answering gets. -/
def stalls : Event → Bool
  | reshape _ content => content.isStalled
  | _ => false

end Event

namespace Lens

/-! ## Parts of operations -/

/-- Changes the fleet from outside. -/
def withFleet (lens : Lens) (fleet : Fleet) : Lens :=
  { lens with site := { lens.site with fleet } }

/-- Changes what a cluster delivers to its feeds. -/
def withFeeds (lens : Lens) (context : String) (change : Feeds → Feeds) : Lens :=
  lens.withFleet (lens.site.fleet.modify context fun cluster =>
    { cluster with feeds := change cluster.feeds })

/-- The task of a session with a generation, if it satisfies `p`. -/
def taskWhere? (lens : Lens) (id generation : Nat) (p : Watch.Session → Watch.Task → Bool) :
    Option Watch.Task :=
  ((lens.session id).task? generation).filter (p (lens.session id))

/-- Lets a task make its next step, if it need not wait. -/
def stepTask (lens : Lens) (id generation : Nat) : Lens :=
  match lens.taskWhere? id generation fun session task => task.canStep lens.site session with
  | some _ =>
    let (site, hub) := Watch.Hub.stepTask lens.now lens.site lens.hub id generation
    { lens with site, hub }
  | none => lens

/-- Lets a task read its object again, if it is time. -/
def tickTask (lens : Lens) (id generation : Nat) : Lens :=
  match lens.taskWhere? id generation fun _ task => task.due?.any (· ≤ lens.now) with
  | some _ =>
    let (site, hub) :=
      Watch.Hub.runTask lens.site lens.hub id generation fun task turn =>
        task.tick lens.hub.period turn
    { lens with site, hub }
  | none => lens

/-! ## Events -/

/-- What an event does. -/
def act (lens : Lens) : Event → Lens
  | .start => lens.start
  | .resolve context? => { lens with site := (lens.site.resolve context?).2 }
  | .activate name => { lens with site := (lens.site.activate name).2 }
  | .setContext name => (lens.setContext name).2
  | .addContexts raw => (lens.addContexts raw).2
  | .removeContext name => (lens.removeContext name).2
  | .clearFailed name => lens.clearFailed name
  | .check context? => (lens.check context?).2
  | .list request => (lens.list request).2
  | .get request => (lens.get request).2
  | .events kind name rawSpace? context? => (lens.events kind name rawSpace? context?).2
  | .resolvePlural apiVersion kind context? => (lens.resolvePlural apiVersion kind context?).2
  | .managed clock context? force => (lens.managed clock context? force).2
  | .clearManaged context? => lens.clearManaged context?
  | .openSession context? => (lens.openSession context?).2
  | .handleText id text => lens.handleText id text
  | .subscribe id descriptor => (lens.subscribe id descriptor).2
  | .unsubscribe id descriptor => lens.unsubscribe id descriptor
  | .reply id => lens.reply id
  | .receive id count => lens.receive id count
  | .hangUp id => lens.hangUp id
  | .markClosed id => lens.modifySession id Watch.Session.close
  | .closeSession id => lens.closeSession id
  | .shutdown => lens.shutdown
  | .step id generation => lens.stepTask id generation
  | .tick id generation => lens.tickTask id generation
  | .wait span => { lens with now := lens.now + span }
  | .settle => lens.settle
  | .pass span => lens.pass span
  | .write kubeconfig =>
    { lens with site := { lens.site with host := { lens.site.host with kubeconfig } } }
  | .obstruct faults =>
    { lens with site := { lens.site with host := { lens.site.host with faults } } }
  | .isolate unreachable => lens.withFleet { lens.site.fleet with unreachable }
  | .reshape context content =>
    let cluster := lens.site.fleet.cluster context
    lens.withFleet (lens.site.fleet.put context
      { content with calls := cluster.calls, feeds := cluster.feeds })
  | .push context address item => lens.withFeeds context fun feeds => feeds.push address item
  | .detach context address => lens.withFeeds context fun feeds => feeds.detachAll address

/-- What events do one after the other. -/
def run (lens : Lens) (events : List Event) : Lens :=
  events.foldl act lens

@[simp] theorem run_nil (lens : Lens) : lens.run [] = lens := rfl

@[simp] theorem run_cons (lens : Lens) (event : Event) (events : List Event) :
    lens.run (event :: events) = (lens.act event).run events := rfl

theorem run_append (lens : Lens) (earlier later : List Event) :
    lens.run (earlier ++ later) = (lens.run earlier).run later :=
  List.foldl_append

/-- What holds at first, and what every event keeps, holds after every run. -/
theorem run_induction {P : Lens → Prop} (lens : Lens) (events : List Event)
    (initial : P lens)
    (keeps : ∀ before event, event ∈ events → P before → P (before.act event)) :
    P (lens.run events) :=
  List.foldlRecOn events act initial fun before holds event present =>
    keeps before event present holds

/-- The service on a host, before anything happened. -/
def onHost (settings : Settings) (host : Host) : Lens :=
  { site := { settings, host }, hub := .ofResync settings.resync }

end Lens

/-- A host with a stored document that has contexts with these names. -/
def Host.storing (names : List String) : Host :=
  { kubeconfig := .saved { contexts := names.map fun name => { name } } }

end KubeLens
