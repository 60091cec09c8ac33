import KubeLens.Cluster.Fleet
import KubeLens.Kubeconfig.Edit
import KubeLens.Kubeconfig.Store

/-!
# The active connection

A switchboard holds at most one connection, the active one, and the contexts that could not be
connected to.  Such a context is barred: it is not tried again until it is cleared or removed.
Inside a cluster every context means the mounted credentials.
-/

namespace KubeLens

/-- A connection to use: a context and the client made for it. -/
structure Handle where
  context : String
  client : Client
  deriving DecidableEq, Repr

/-- The active connection and the barred contexts. -/
structure Switchboard where
  current : Option String := none
  client : Option Client := none
  failed : List String := []
  deriving DecidableEq, Repr, Inhabited

namespace Switchboard

/-- The active connection. -/
def handle? (board : Switchboard) : Option Handle :=
  match board.current, board.client with
  | some context, some client => some ⟨context, client⟩
  | _, _ => none

/-- The context that a name means. -/
def target (host : Host) (name : String) : String :=
  if host.inCluster then inClusterContext else name

/-- The active connection, if it is the one to `target`. -/
def active? (board : Switchboard) (target : String) : Option Handle :=
  if board.current = some target then board.handle? else none

/-- Whether a context is barred. -/
def isBarred (board : Switchboard) (target : String) : Bool :=
  board.failed.contains target

/-- No longer bars a context. -/
def unbar (board : Switchboard) (target : String) : Switchboard :=
  { board with failed := board.failed.filter (· != target) }

/-- Bars a context. -/
def bar (board : Switchboard) (target : String) : Switchboard :=
  if board.isBarred target then board else { board with failed := board.failed ++ [target] }

/-- Whether a client for a context can be described.  Outside a cluster the context must be in
a stored document that describes clients. -/
def describes (settings : Settings) (host : Host) (name : String) : Except ServiceError Unit :=
  if host.inCluster then .ok ()
  else if name.isEmpty then .error .contextRequired
  else
    match host.load settings with
    | .error error => .error error
    | .ok document =>
      if document.hasContext name then document.clientConfig.map fun _ => ()
      else .error (.contextUnknown name)

/-- The switchboard with a new active connection. -/
def switchTo (board : Switchboard) (target : String) (client : Client) : Switchboard :=
  { board with current := some target, client := some client }.unbar target

/-- Connects to a context that is not barred and makes the connection the active one.  When
connecting fails the context is barred. -/
def dial (board : Switchboard) (fleet : Fleet) (target : String) :
    Except ServiceError Handle × Switchboard × Fleet :=
  match fleet.connect target with
  | (.ok client, fleet) => (.ok ⟨target, client⟩, board.switchTo target client, fleet)
  | (.error cause, fleet) => (.error (.connectFailed target cause), board.bar target, fleet)

/-- Makes a context active, while nothing else changes the switchboard. -/
def activate (settings : Settings) (host : Host) (board : Switchboard) (fleet : Fleet)
    (name : String) : Except ServiceError Handle × Switchboard × Fleet :=
  let target := target host name
  match board.active? target with
  | some handle => (.ok handle, board, fleet)
  | none =>
    if board.isBarred target then (.error (.contextBarred target), board, fleet)
    else
      match describes settings host name with
      | .error error => (.error error, board, fleet)
      | .ok () => board.dial fleet target

/-- Makes a context active; for the active context nothing happens. -/
def ensureActive (settings : Settings) (host : Host) (board : Switchboard) (fleet : Fleet)
    (name : String) : Except ServiceError Handle × Switchboard × Fleet :=
  match board.active? (target host name) with
  | some handle => (.ok handle, board, fleet)
  | none => board.activate settings host fleet name

/-- A context that is given, and not empty. -/
def wanted? (context? : Option String) : Option String :=
  context?.filter (!·.isEmpty)

/-- The connection for a request: to the context that it names, or else the active one.  When
none is active the empty name is tried, which means something only inside a cluster. -/
def resolve (settings : Settings) (host : Host) (board : Switchboard) (fleet : Fleet)
    (context? : Option String) : Except ServiceError Handle × Switchboard × Fleet :=
  match wanted? context? with
  | some name => board.ensureActive settings host fleet name
  | none =>
    match board.handle? with
    | some handle => (.ok handle, board, fleet)
    | none => board.ensureActive settings host fleet ""

/-- Makes the mounted credentials active when there are any.  A failure is left for the first
request to meet again. -/
def start (settings : Settings) (host : Host) (board : Switchboard) (fleet : Fleet) :
    Switchboard × Fleet :=
  if host.inCluster then (board.ensureActive settings host fleet inClusterContext).2
  else (board, fleet)

/-- The names of all contexts. -/
def listContexts (settings : Settings) (host : Host) : Except ServiceError (List String) :=
  if host.inCluster then .ok [inClusterContext]
  else (host.load settings).map Kubeconfig.contextNames

/-- Adds the contexts of a kubeconfig text to the stored document: the names that are new.  The
document is read again after it was stored. -/
def addContexts (settings : Settings) (host : Host) (raw : String) :
    Except ServiceError (List String) × Host :=
  if host.inCluster then (.error (.contextsFixed "add"), host)
  else
    match Kubeconfig.parse raw, host.loadOrBlank settings with
    | .error error, _ => (.error error, host)
    | .ok _, .error error => (.error error, host)
    | .ok incoming, .ok document =>
      match host.save (document.merge incoming) with
      | (.error error, host) => (.error error, host)
      | (.ok (), host) => ((host.load settings).map fun _ => document.addedContexts incoming, host)

/-- The context that takes the place of a removed one: the current context of what is left, or
else the first one. -/
def promoted? (document : Kubeconfig) : Option String :=
  (document.current.filter document.hasContext).or document.contextNames.head?

/-- The switchboard without an active connection. -/
def disconnect (board : Switchboard) : Switchboard :=
  { board with current := none, client := none }

/-- Drops a context from the stored document: what is left of it. -/
def dropContext (settings : Settings) (host : Host) (name : String) :
    Except ServiceError Kubeconfig × Host :=
  if host.inCluster then (.error (.contextsFixed "remove"), host)
  else
    match host.load settings with
    | .error error => (.error error, host)
    | .ok document =>
      match document.removeContext name with
      | none => (.error (.contextAbsent name), host)
      | some left =>
        let (saved, host) := host.save left
        (saved.map fun _ => left, host)

/-- Removes a context.  When it was active, another one is promoted; if that cannot be
activated, none is active. -/
def removeContext (settings : Settings) (host : Host) (board : Switchboard) (fleet : Fleet)
    (name : String) : Except ServiceError Unit × Switchboard × Host × Fleet :=
  match dropContext settings host name with
  | (.error error, host) => (.error error, board, host, fleet)
  | (.ok left, host) =>
    let board := board.unbar name
    if board.current = some name then
      let board := board.disconnect
      match promoted? left with
      | none => (.ok (), board, host, fleet)
      | some next =>
        let (_, board, fleet) := board.activate settings host fleet next
        (.ok (), board, host, fleet)
    else (.ok (), board, host, fleet)

/-- No longer bars the context that a name means. -/
def clearFailed (host : Host) (board : Switchboard) (name : String) : Switchboard :=
  board.unbar (target host name)

end Switchboard
end KubeLens
