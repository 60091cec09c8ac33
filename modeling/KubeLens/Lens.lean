import KubeLens.Managed.Cache
import KubeLens.Read.Events
import KubeLens.Read.Get
import KubeLens.Watch.Hub

/-!
# The service

A lens looks at the clusters of a fleet through one active connection.  It answers reads, keeps
collected objects, and runs watch sessions.  Every operation gives its answer and the lens
afterwards.
-/

namespace KubeLens

/-- The state of the service. -/
structure Lens where
  site : Site
  cache : Managed.Cache := []
  hub : Watch.Hub
  /-- Milliseconds since the start, by which watches read again. -/
  now : Nat := 0

namespace Lens

/-- The service with its settings, before anything happened. -/
def ofSettings (settings : Settings) : Lens :=
  { site := { settings }, hub := .ofResync settings.resync }

/-! ## Time and tasks -/

/-- Lets every task run until it waits. -/
def settle (lens : Lens) : Lens :=
  let (site, hub) := lens.hub.settle lens.now lens.site
  { lens with site, hub }

/-- Lets time pass. -/
def pass (lens : Lens) (span : Nat) : Lens :=
  let (site, hub) := lens.hub.advance lens.now span lens.site
  { lens with site, hub, now := lens.now + span }

/-! ## Contexts -/

/-- Makes the mounted credentials active when there are any. -/
def start (lens : Lens) : Lens :=
  let site := lens.site
  let (board, fleet) := site.board.start site.settings site.host site.fleet
  { lens with site := { site with board, fleet } }

/-- The active context. -/
def current? (lens : Lens) : Option String :=
  lens.site.board.current

/-- The names of all contexts. -/
def listContexts (lens : Lens) : Except ServiceError (List String) :=
  Switchboard.listContexts lens.site.settings lens.site.host

/-- Makes a context active. -/
def setContext (lens : Lens) (name : String) : Except ServiceError Unit × Lens :=
  let (answer, site) := lens.site.setActive name
  (answer, { lens with site })

/-- Adds the contexts of a kubeconfig text: the names that are new. -/
def addContexts (lens : Lens) (raw : String) : Except ServiceError (List String) × Lens :=
  let (answer, host) := Switchboard.addContexts lens.site.settings lens.site.host raw
  (answer, { lens with site := { lens.site with host } })

/-- Removes a context and forgets what was collected from it. -/
def removeContext (lens : Lens) (name : String) : Except ServiceError Unit × Lens :=
  let site := lens.site
  match site.board.removeContext site.settings site.host site.fleet name with
  | (.error error, board, host, fleet) =>
    (.error error, { lens with site := { site with board, host, fleet } })
  | (.ok (), board, host, fleet) =>
    (.ok (), { lens with
      site := { site with board, host, fleet }, cache := lens.cache.clear (some name) })

/-- No longer bars a context. -/
def clearFailed (lens : Lens) (name : String) : Lens :=
  { lens with
    site := { lens.site with board := lens.site.board.clearFailed lens.site.host name } }

/-- Makes the context active again that was active before a probe of `probed`. -/
def restore (lens : Lens) (previous? : Option String) (probed : String) : Lens :=
  match previous?.filter (· != probed) with
  | some name => (lens.setContext name).2
  | none => lens

/-- What a probe that takes `delay` says when it may take `limit`. -/
def verdict (answer : Except ClusterError Unit) (delay limit : Nat) : Except ServiceError Bool :=
  if delay ≤ limit then (answer.map fun _ => true).mapError .cluster
  else .error (.timeout limit)

/-- Whether the cluster of a context answers.  The context that was active before is made active
again. -/
def check (lens : Lens) (context? : Option String) : Except ServiceError Bool × Lens :=
  let previous? := lens.current?
  match lens.site.resolve context? with
  | (.error error, site) => (.error error, { lens with site })
  | (.ok handle, site) =>
    let limit := site.settings.probeTimeout
    let ((answer, delay), fleet) := handle.client.probe site.fleet
    let lens := ({ lens with site := { site with fleet } }).pass (min delay limit)
    (verdict answer delay limit, lens.restore previous? handle.context)

/-! ## Reads -/

/-- Answers a request for objects of a type. -/
def list (lens : Lens) (request : ListRequest) : Except ServiceError ObjectPage × Lens :=
  let (answer, site) := lens.site.list request
  (answer, { lens with site })

/-- Answers a request for an object; none when there is never an answer. -/
def get (lens : Lens) (request : GetRequest) : Option (Except ServiceError Json) × Lens :=
  let (answer, site) := lens.site.get request
  (answer, { lens with site })

/-- The events about an object. -/
def events (lens : Lens) (kind name : String) (rawSpace? context? : Option String) :
    Except ServiceError (List Json) × Lens :=
  let (answer, site) := lens.site.events kind name rawSpace? context?
  (answer, { lens with site })

/-- The plural of a kind.  An `apiVersion` that cannot be read is the caller's fault. -/
def resolvePlural (lens : Lens) (apiVersion kind : String) (context? : Option String) :
    Except ServiceError String × Lens :=
  match GroupVersion.parseAllowCore apiVersion with
  | .error fault =>
    (.error (.validation (ClusterError.ofApiVersion apiVersion fault).message), lens)
  | .ok gv =>
    match lens.site.resolve context? with
    | (.error error, site) => (.error error, { lens with site })
    | (.ok handle, site) =>
      let (plural, site) := site.pluralOf handle.client gv kind none
      (.ok plural, { lens with site })

/-- The managed objects of a context.  `clock` is the time by which they grow old. -/
def managed (lens : Lens) (clock : Nat) (context? : Option String) (force : Bool) :
    Except ServiceError Managed.Result × Lens :=
  let (answer, cache, site) := lens.site.managed lens.cache clock context? force
  (answer, { lens with cache, site })

/-- Forgets what was collected from a context, or from all of them. -/
def clearManaged (lens : Lens) (context? : Option String) : Lens :=
  { lens with cache := lens.cache.clear context? }

/-! ## Sessions -/

/-- The session at a place. -/
def session (lens : Lens) (id : Nat) : Watch.Session :=
  lens.hub.session id

/-- Changes the session at a place. -/
def modifySession (lens : Lens) (id : Nat) (change : Watch.Session → Watch.Session) : Lens :=
  { lens with hub := lens.hub.put id (change (lens.hub.session id)) }

/-- Opens a session. -/
def openSession (lens : Lens) (context? : Option String) : Nat × Lens :=
  let (id, hub) := lens.hub.openSession context?
  (id, { lens with hub })

/-- Closes a session. -/
def closeSession (lens : Lens) (id : Nat) : Lens :=
  let (site, hub) := lens.hub.closeSession lens.site id
  { lens with site, hub }

/-- Handles a text of a session's peer. -/
def handleText (lens : Lens) (id : Nat) (text : String) : Lens :=
  lens.modifySession id fun session => session.handleText lens.current? text

/-- Watches an object for a session. -/
def subscribe (lens : Lens) (id : Nat) (descriptor : Watch.Descriptor) :
    Except ServiceError Unit × Lens :=
  match (lens.session id).subscribe lens.current? descriptor with
  | .error error => (.error error, lens)
  | .ok session => (.ok (), { lens with hub := lens.hub.put id session })

/-- Stops watching an object for a session. -/
def unsubscribe (lens : Lens) (id : Nat) (descriptor : Watch.Descriptor) : Lens :=
  lens.modifySession id fun session => session.unsubscribe descriptor

/-- A session sends the next message that it owes its peer, if it can. -/
def reply (lens : Lens) (id : Nat) : Lens :=
  lens.modifySession id Watch.Session.reply

/-- A session sends what it owes its peer, as far as there is room. -/
def answer (lens : Lens) (id : Nat) : Lens :=
  (lens.session id).replies.foldl (fun lens _ => lens.reply id) lens

/-- The peer of a session receives messages that wait. -/
def receive (lens : Lens) (id count : Nat) : Lens :=
  lens.modifySession id (·.receive count)

/-- The peer of a session stops receiving. -/
def hangUp (lens : Lens) (id : Nat) : Lens :=
  lens.modifySession id Watch.Session.hangUp

/-- Closes every session, for good. -/
def shutdown (lens : Lens) : Lens :=
  let (site, hub) := lens.hub.shutdown lens.site
  { lens with site, hub }

end Lens
end KubeLens
