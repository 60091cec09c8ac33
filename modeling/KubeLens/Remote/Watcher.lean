import KubeLens.Cluster.Feed
import KubeLens.Remote.Link

/-!
# Watching over the wire

A watcher lists the objects that it follows, page by page, and then asks for a stream of changes
from the state that the list showed.  A stream that ends is asked for again from the last state
that is known.  When that state is lost, the watcher starts over with a list.
-/

namespace KubeLens
namespace Remote

/-- What a watcher asks for next. -/
inductive WatchPhase
  /-- A page of the list: the first one, or the one at a token. -/
  | listing (token : Option String)
  /-- The changes after a state. -/
  | streaming (version : String)
  deriving DecidableEq, Repr

/-- One line of a stream. -/
inductive StreamLine
  | added (document : Json)
  | modified (document : Json)
  | removed (document : Json)
  /-- A state without a change. -/
  | bookmark (version : String)
  | refused (status : Status)

/-- The state that an object shows, if it says. -/
def objectVersion? (document : Json) : Option String :=
  (document.strAt? ["metadata", "resourceVersion"]).filter (!·.isEmpty)

namespace StreamLine

/-- Reads the state of a bookmark. -/
def bookmarkVersion? (value : Json) : Option String := do
  let members ← value.asObj?
  let _ ← (← (← single? members "apiVersion")).asStr?
  let _ ← (← (← single? members "kind")).asStr?
  let metadata ← (← single? members "metadata")
  let record ← metadata.record? ["resourceVersion", "annotations"]
  match record.get? "annotations" with
  | none => pure ()
  | some value => let _ ← Typed.dictOf Typed.text value
  (← record.get? "resourceVersion").asStr?

/-- Reads a line. -/
def ofJson? (value : Json) : Option StreamLine := do
  let record ← value.record? ["type", "object"]
  let content ← record.get? "object"
  match ← (← record.get? "type").asStr? with
  | "ADDED" => (anyObject content).map added
  | "MODIFIED" => (anyObject content).map modified
  | "DELETED" => (anyObject content).map removed
  | "BOOKMARK" => (bookmarkVersion? content).map bookmark
  | "ERROR" => (Status.ofJson? content).map refused
  | _ => none

end StreamLine

namespace WatchPhase

/-- What follows a failure that loses the state: a new list. -/
def restart : WatchPhase :=
  .listing none

/-- How many objects a page of the list has at most. -/
def pageSize : Nat := 500

/-- What a failed list is reported as. -/
def listFailed : FeedItem :=
  .error (.watch "failed to perform initial object list")

/-- What a state that is not told is reported as. -/
def versionMissing : FeedItem :=
  .error (.watch "no metadata.resourceVersion in watch result (does resource support watch?)")

/-- What a line that cannot be read is reported as. -/
def lineFailed : FeedItem :=
  .error (.watch "watch stream failed")

/-- What a refusal in a stream is reported as. -/
def refused (status : Status) : FeedItem :=
  .error (.watch ("error returned by apiserver during watch: " ++ status.message))

/-- What is asked for in a phase. -/
def parameters (phase : WatchPhase) (name : String) : List (String × String) :=
  let selector := "metadata.name=" ++ name
  match phase with
  | listing token =>
    listParameters
      { fieldSelector := some selector, limit := some pageSize, continueToken := token }
  | streaming version =>
    [("watch", "true"), ("fieldSelector", selector), ("allowWatchBookmarks", "true"),
      ("resourceVersion", version)]

/-- Reads a page of the list. -/
def receivePage (reply : Reply) : List FeedItem × WatchPhase :=
  match reply.decode (ListReply.ofJson? anyObject) with
  | .error _ => ([listFailed], restart)
  | .ok page =>
    let items : List FeedItem := page.items.map fun document => .ok (.applied document)
    match page.continueToken?, page.version? with
    | some token, _ => (items, listing (some token))
    | none, some version => (items, streaming version)
    | none, none => ([versionMissing], restart)

/-- Puts an item in front of what a stream gives. -/
def withItem (item : FeedItem) (read : List FeedItem × WatchPhase) : List FeedItem × WatchPhase :=
  (item :: read.1, read.2)

/-- Reads the lines of a stream after a state.  A line that is cut off is skipped, one that
cannot be read is reported, and an object that does not tell its state loses it. -/
def receiveLines (version : String) : List String → List FeedItem × WatchPhase
  | [] => ([], streaming version)
  | line :: rest =>
    match Json.read line with
    | .error .ended => receiveLines version rest
    | .error .malformed => withItem lineFailed (receiveLines version rest)
    | .ok value =>
      match StreamLine.ofJson? value with
      | none => withItem lineFailed (receiveLines version rest)
      | some (.bookmark version) => receiveLines version rest
      | some (.refused status) =>
        if status.code = 410 then ([refused status], restart)
        else withItem (refused status) (receiveLines version rest)
      | some (.added document) | some (.modified document) =>
        match objectVersion? document with
        | some version => withItem (.ok (.applied document)) (receiveLines version rest)
        | none => ([versionMissing], restart)
      | some (.removed document) =>
        match objectVersion? document with
        | some version => withItem (.ok (.deleted document)) (receiveLines version rest)
        | none => ([versionMissing], restart)

/-- The lines of a text; a carriage return at the end of a line does not count. -/
def linesOf (text : String) : List String :=
  (Text.splitAll '\n' text.toList).map fun line =>
    String.ofList (if line.getLast? == some '\r' then line.dropLast else line)

/-- Reads the reply to what is asked for in a phase: what is reported, and the next phase. -/
def receive (phase : WatchPhase) (reply : Reply) : List FeedItem × WatchPhase :=
  match phase with
  | listing _ => receivePage reply
  | streaming version => receiveLines version (linesOf reply.body)

/-- The phase after some replies, and what was reported until then. -/
def run (phase : WatchPhase) : List Reply → List FeedItem × WatchPhase
  | [] => ([], phase)
  | reply :: rest =>
    let (items, next) := phase.receive reply
    let (later, last) := next.run rest
    (items ++ later, last)

/-- The phases in which the replies come, and the one that waits for ever after them. -/
def phases (phase : WatchPhase) : List Reply → List WatchPhase
  | [] => [phase]
  | reply :: rest => phase :: (phase.receive reply).2.phases rest

end WatchPhase

namespace Link

/-- Follows an object until no reply is left: what is reported.  None when the requests cannot
be written, and so nothing is ever answered. -/
def watch (link : Link) (type : ResourceType) (space : Option String) (name : String) :
    Option (List FeedItem) × Link :=
  let replies := link.wire.replies
  let requests? := (WatchPhase.restart.phases replies).mapM fun phase =>
    Request.ofPath? (collectionPath type space) (phase.parameters name)
  match requests? with
  | none => (none, link)
  | some requests =>
    (some (WatchPhase.restart.run replies).1,
      { link with wire := { replies := [], sent := link.wire.sent ++ requests } })

end Link
end Remote
end KubeLens
