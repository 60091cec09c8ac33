import KubeLens.Api.Page
import KubeLens.Error

/-!
# Watch feeds

A feed carries the changes of one object from a cluster to one watch.  It keeps everything that
was delivered to it and how much of that was read.  The watch ends a feed by closing it, the
cluster by detaching it; what was delivered before can still be read.
-/

namespace KubeLens

/-- What a feed delivers. -/
abbrev FeedItem := Except ClusterError ObjectEvent

/-- A feed of one watched object. -/
structure Feed where
  /-- The text under which the cluster finds the feeds of an object. -/
  address : String
  /-- Everything that was delivered. -/
  delivered : List FeedItem := []
  /-- How much of it was read. -/
  taken : Nat := 0
  /-- Whether the cluster still delivers to it. -/
  isAttached : Bool := true
  /-- Whether the watch still reads it. -/
  isOpen : Bool := true
  deriving Inhabited

namespace Feed

/-- The text under which the feeds of an object are found. -/
def addressOf (plural : String) (space : Option String) (name : String) : String :=
  plural ++ "/" ++ space.getD "" ++ "/" ++ name

/-- Whether events still reach the watch. -/
def isLive (feed : Feed) : Bool :=
  feed.isAttached && feed.isOpen

/-- Whether the cluster has this feed for an object. -/
def isFor (feed : Feed) (address : String) : Bool :=
  feed.address == address && feed.isAttached

/-- Whether this is a live feed of an object. -/
def serves (feed : Feed) (address : String) : Bool :=
  feed.address == address && feed.isLive

/-- The feed with one more item. -/
def deliver (feed : Feed) (item : FeedItem) : Feed :=
  { feed with delivered := feed.delivered ++ [item] }

/-- The next item that was not read. -/
def next? (feed : Feed) : Option FeedItem :=
  feed.delivered[feed.taken]?

/-- How many items were not read yet. -/
def unread (feed : Feed) : Nat :=
  feed.delivered.length - feed.taken

/-- The feed after one item was read. -/
def advance (feed : Feed) : Feed :=
  { feed with taken := feed.taken + 1 }

/-- Whether everything was read and nothing will follow. -/
def isFinished (feed : Feed) : Bool :=
  !feed.isAttached && feed.next?.isNone

/-- The feed after the watch stopped reading. -/
def close (feed : Feed) : Feed :=
  { feed with isOpen := false }

/-- The feed after the cluster stopped delivering. -/
def detach (feed : Feed) : Feed :=
  { feed with isAttached := false }

end Feed

/-- The feeds of a cluster; a feed is known by its place in the list. -/
abbrev Feeds := List Feed

namespace Feeds

/-- Gives up the feeds of an object that are no longer read. -/
def prune (feeds : Feeds) (address : String) : Feeds :=
  feeds.map fun feed => if feed.address == address && !feed.isOpen then feed.detach else feed

/-- Hands an item on from feed to feed of an object, and counts who took it.  An event is copied
while there is a next feed; an error cannot be copied and stays with the first feed. -/
def handOn (address : String) : Option FeedItem → Feeds → Nat × Feeds
  | none, feeds => (0, feeds)
  | some _, [] => (0, [])
  | some item, feed :: rest =>
    if feed.isFor address then
      let next :=
        match item with
        | .ok event => if rest.any (·.isFor address) then some (.ok event) else none
        | .error _ => none
      let (count, rest) := handOn address next rest
      if feed.isOpen then (count + 1, feed.deliver item :: rest) else (count, feed :: rest)
    else
      let (count, rest) := handOn address (some item) rest
      (count, feed :: rest)

/-- The feeds after an item was pushed to an object. -/
def push (feeds : Feeds) (address : String) (item : FeedItem) : Feeds :=
  (handOn address (some item) (feeds.prune address)).2

/-- How many feeds take an item that is pushed to an object. -/
def reach (feeds : Feeds) (address : String) (item : FeedItem) : Nat :=
  (handOn address (some item) (feeds.prune address)).1

/-- How many live feeds an object has. -/
def liveCount (feeds : Feeds) (address : String) : Nat :=
  feeds.countP (·.serves address)

/-- How many feeds are live. -/
def totalLive (feeds : Feeds) : Nat :=
  feeds.countP (·.isLive)

/-- Ends the feeds of an object. -/
def detachAll (feeds : Feeds) (address : String) : Feeds :=
  feeds.map fun feed => if feed.address == address then feed.detach else feed

end Feeds
end KubeLens
