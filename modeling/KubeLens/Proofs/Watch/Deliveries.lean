import KubeLens.Proofs.Cluster.Pushing
import KubeLens.Proofs.Watch.Feeds

/-!
# What becomes of a feed

Clusters deliver to feeds and end them.  Items are taken by the task that holds the feed, and by
nobody else.  Whoever does something, nothing that was delivered is lost, and no task changes
what is stored.
-/

namespace KubeLens

/-! ## One feed -/

namespace Feed

/-- A feed before and after something that loses nothing.  Nothing follows once the cluster has
ended it. -/
structure Extends (before after : Feed) : Prop where
  delivered : before.delivered <+: after.delivered
  detached : before.isAttached = false →
    after.isAttached = false ∧ after.delivered = before.delivered

/-- A feed before and after something that its cluster does. -/
structure Receives (before after : Feed) : Prop extends Extends before after where
  taken : after.taken = before.taken
  isOpen : after.isOpen = before.isOpen

theorem Extends.refl (feed : Feed) : feed.Extends feed :=
  ⟨List.prefix_rfl, fun ended => ⟨ended, rfl⟩⟩

/-- What was taken from a feed stays the same when more is delivered. -/
theorem Extends.take_taken {feed later : Feed} (longer : feed.Extends later)
    (taken : later.taken = feed.taken) (within : feed.taken ≤ feed.delivered.length) :
    feed.delivered.take feed.taken = later.delivered.take later.taken ∧
      later.taken ≤ later.delivered.length := by
  obtain ⟨more, delivered⟩ := longer.delivered
  rw [taken, ← delivered, List.take_append_of_le_length within]
  exact ⟨rfl, Nat.le_trans within (by simp)⟩

theorem Extends.trans {first second third : Feed} (earlier : first.Extends second)
    (later : second.Extends third) : first.Extends third := by
  refine ⟨earlier.delivered.trans later.delivered, fun ended => ?_⟩
  obtain ⟨still, few⟩ := earlier.detached ended
  obtain ⟨last, same⟩ := later.detached still
  exact ⟨last, same.trans few⟩

theorem Receives.refl (feed : Feed) : feed.Receives feed :=
  ⟨.refl feed, rfl, rfl⟩

theorem Receives.trans {first second third : Feed} (earlier : first.Receives second)
    (later : second.Receives third) : first.Receives third :=
  ⟨earlier.toExtends.trans later.toExtends, later.taken.trans earlier.taken,
    later.isOpen.trans earlier.isOpen⟩

theorem deliver_receives {feed : Feed} {address : String} (serves : feed.serves address = true)
    (item : FeedItem) : feed.Receives (feed.deliver item) := by
  refine ⟨⟨List.prefix_append _ _, fun ended => ?_⟩, rfl, rfl⟩
  simp [Feed.serves, isLive, ended] at serves

theorem detach_receives (feed : Feed) : feed.Receives feed.detach :=
  ⟨⟨List.prefix_rfl, fun _ => ⟨rfl, rfl⟩⟩, rfl, rfl⟩

end Feed

/-! ## The feeds of a cluster -/

namespace Feeds

/-- The feeds of a cluster before and after something that the cluster does. -/
def Receive (before after : Feeds) : Prop :=
  ∀ place : Nat, Option.Rel Feed.Receives before[place]? after[place]?

theorem rel_receives_refl (feed? : Option Feed) : Option.Rel Feed.Receives feed? feed? := by
  cases feed? with
  | none => exact .none
  | some feed => exact .some (.refl feed)

theorem Receive.trans {first second third : Feeds} (earlier : first.Receive second)
    (later : second.Receive third) : first.Receive third := by
  intro place
  have one := earlier place
  have other := later place
  generalize first[place]? = start at one ⊢
  generalize second[place]? = middle at one other
  generalize third[place]? = last at other ⊢
  cases one with
  | none =>
      cases other with
      | none => exact .none
  | some few =>
      cases other with
      | some more => exact .some (few.trans more)

theorem receive_map (feeds : Feeds) {change : Feed → Feed}
    (each : ∀ feed : Feed, feed.Receives (change feed)) : feeds.Receive (feeds.map change) := by
  intro place
  rw [List.getElem?_map]
  cases feeds[place]? with
  | none => exact .none
  | some feed => exact .some (each feed)

theorem prune_receive (feeds : Feeds) (address : String) : feeds.Receive (feeds.prune address) := by
  refine feeds.receive_map fun feed => ?_
  split
  · exact feed.detach_receives
  · exact .refl feed

/-- Whoever an item is handed on to, it was attached. -/
theorem handOn_receive (address : String) (item? : Option FeedItem) (feeds : Feeds) :
    feeds.Receive (handOn address item? feeds).2 := by
  intro place
  induction feeds generalizing item? place with
  | nil => cases item? <;> exact rel_receives_refl _
  | cons feed rest ih =>
      cases item? with
      | none => exact rel_receives_refl _
      | some item =>
          unfold handOn
          split
          · rename_i own
            dsimp only
            split
            · rename_i reading
              have serves : feed.serves address = true := by simp [feed.serves_eq, own, reading]
              cases place with
              | zero => exact .some (Feed.deliver_receives serves item)
              | succ place => exact ih _ place
            · cases place with
              | zero => exact .some (.refl feed)
              | succ place => exact ih _ place
          · cases place with
            | zero => exact .some (.refl feed)
            | succ place => exact ih _ place

theorem push_receive (feeds : Feeds) (address : String) (item : FeedItem) :
    feeds.Receive (feeds.push address item) :=
  (feeds.prune_receive address).trans (handOn_receive address (some item) _)

theorem detachAll_receive (feeds : Feeds) (address : String) :
    feeds.Receive (feeds.detachAll address) := by
  refine feeds.receive_map fun feed => ?_
  split
  · exact feed.detach_receives
  · exact .refl feed

end Feeds

/-! ## All feeds -/

namespace Fleet

/-- A fleet before and after something that clusters do to their feeds. -/
structure Delivers (before after : Fleet) : Prop where
  feeds : ∀ spot, Option.Rel Feed.Receives (before.feedAt? spot) (after.feedAt? spot)
  keys_nodup : (Assoc.keys before.clusters).Nodup → (Assoc.keys after.clusters).Nodup

/-- A fleet before and after something that takes items from one feed at most. -/
def Touches (own? : Option Spot) (before after : Fleet) : Prop :=
  ∀ spot feed, before.feedAt? spot = some feed →
    ∃ later, after.feedAt? spot = some later ∧ feed.Extends later ∧
      (own? ≠ some spot → later.taken = feed.taken)

/-- Two fleets whose clusters differ at most in their feeds and in the calls that they
recorded. -/
def SameStores (before after : Fleet) : Prop :=
  ∀ context, ∃ calls feeds,
    after.cluster context = { before.cluster context with calls, feeds }

/-- A fleet before and after a task took a turn. -/
structure Turns (own? : Option Spot) (before after : Fleet) : Prop where
  touches : before.Touches own? after
  stores : before.SameStores after

variable {own? : Option Spot} {before after first second third : Fleet}

/-- A cluster is replaced by one whose feeds received something. -/
theorem put_delivers (fleet : Fleet) {context : String} {cluster : Cluster}
    (receive : (fleet.cluster context).feeds.Receive cluster.feeds) :
    fleet.Delivers (fleet.put context cluster) := by
  refine ⟨fun spot => ?_, Assoc.keys_put_nodup _ _ _⟩
  by_cases same : context = spot.1
  · obtain ⟨_, place⟩ := spot
    subst same
    rw [feedAt?_put_self]
    exact receive place
  · rw [feedAt?_put_of_ne _ _ same]
    exact Feeds.rel_receives_refl _

theorem Delivers.isOpenAt (delivers : before.Delivers after) (spot : Spot) :
    after.isOpenAt spot = before.isOpenAt spot := by
  have received := delivers.feeds spot
  unfold Fleet.isOpenAt
  generalize before.feedAt? spot = earlier at received ⊢
  generalize after.feedAt? spot = later at received ⊢
  cases received with
  | none => rfl
  | some receives => exact receives.isOpen

theorem Delivers.sameOpen (delivers : before.Delivers after)
    (answers : before.Answers → after.Answers) : before.SameOpen after :=
  .of_isOpenAt delivers.isOpenAt answers delivers.keys_nodup

theorem Delivers.touches (delivers : before.Delivers after) : before.Touches none after := by
  intro spot feed found
  have received := delivers.feeds spot
  rw [found] at received
  generalize after.feedAt? spot = later at received ⊢
  cases received with
  | some receives => exact ⟨_, rfl, receives.toExtends, fun _ => receives.taken⟩

theorem Touches.trans (earlier : first.Touches own? second) (later : second.Touches own? third) :
    first.Touches own? third := by
  intro spot feed found
  obtain ⟨middle, here, few, same⟩ := earlier spot feed found
  obtain ⟨last, there, more, still⟩ := later spot middle here
  exact ⟨last, there, few.trans more, fun other => (still other).trans (same other)⟩

theorem SameStores.refl (fleet : Fleet) : fleet.SameStores fleet :=
  fun _ => ⟨_, _, rfl⟩

theorem SameStores.trans (earlier : first.SameStores second) (later : second.SameStores third) :
    first.SameStores third := by
  intro context
  obtain ⟨_, _, middle⟩ := earlier context
  obtain ⟨calls, feeds, last⟩ := later context
  exact ⟨calls, feeds, by rw [last, middle]⟩

theorem put_sameStores (fleet : Fleet) (context : String) (feeds : Feeds) :
    fleet.SameStores (fleet.put context { fleet.cluster context with feeds }) := by
  intro other
  by_cases same : context = other
  · subst same
    exact ⟨_, feeds, by rw [cluster_put_self]⟩
  · exact ⟨_, _, by rw [cluster_put_of_ne _ _ same]⟩

/-- Requests touch no feed. -/
theorem Steady.touches (steady : before.Steady after) : before.Touches own? after := by
  refine fun spot feed found => ⟨feed, ?_, .refl feed, fun _ => rfl⟩
  obtain ⟨calls, same⟩ := steady.contents spot.1
  unfold Fleet.feedAt? at found ⊢
  rwa [same]

theorem Steady.sameStores (steady : before.Steady after) : before.SameStores after := by
  intro context
  obtain ⟨calls, same⟩ := steady.contents context
  exact ⟨calls, _, same⟩

namespace Turns

theorem trans (earlier : first.Turns own? second) (later : second.Turns own? third) :
    first.Turns own? third :=
  ⟨earlier.touches.trans later.touches, earlier.stores.trans later.stores⟩

theorem of_steady (steady : before.Steady after) : before.Turns own? after :=
  ⟨steady.touches, steady.sameStores⟩

theorem refl (fleet : Fleet) : fleet.Turns own? fleet :=
  of_steady (.refl fleet)

/-- A feed is changed by its watch. -/
theorem modifyFeed (fleet : Fleet) (spot : Spot) {change : Feed → Feed}
    (extending : ∀ feed : Feed, feed.Extends (change feed)) :
    fleet.Turns (some spot)
      (fleet.modify spot.1 fun cluster => cluster.modifyFeed spot.2 change) := by
  refine ⟨fun other feed found => ?_, fleet.put_sameStores _ _⟩
  unfold Fleet.modify
  by_cases same : spot.1 = other.1
  · obtain ⟨context, place⟩ := spot
    obtain ⟨_, otherPlace⟩ := other
    obtain rfl : context = _ := same
    unfold feedAt? at found
    rw [feedAt?_put_self]
    unfold Cluster.modifyFeed
    rw [List.getElem?_modify, found]
    by_cases here : place = otherPlace
    · subst here
      exact ⟨change feed, by simp, extending feed, fun different => absurd rfl different⟩
    · exact ⟨feed, by simp [here], .refl feed, fun _ => rfl⟩
  · rw [feedAt?_put_of_ne _ _ same]
    exact ⟨feed, found, .refl feed, fun _ => rfl⟩

end Turns
end Fleet

/-- A new feed changes no other. -/
theorem Client.watch_feedAt?_of_ne (client : Client) (fleet : Fleet) (type : ResourceType)
    (space : Option String) (name : String) {spot : Spot}
    (other : spot ≠ (client.context, (client.watch fleet type space name).1)) :
    (client.watch fleet type space name).2.feedAt? spot = fleet.feedAt? spot := by
  unfold Client.watch Cluster.watch Client.cluster at *
  dsimp only at *
  by_cases same : client.context = spot.1
  · obtain ⟨_, place⟩ := spot
    subst same
    rw [Fleet.feedAt?_put_self]
    unfold Fleet.feedAt?
    rcases Nat.lt_trichotomy place (fleet.cluster client.context).feeds.length with
      inside | last | beyond
    · exact List.getElem?_append_left inside
    · exact absurd (by rw [last]) other
    · rw [List.getElem?_eq_none (Nat.le_of_lt beyond), List.getElem?_eq_none]
      rw [List.length_append]
      exact beyond
  · exact Fleet.feedAt?_put_of_ne _ _ same

theorem Client.watch_turns (client : Client) (fleet : Fleet) (type : ResourceType)
    (space : Option String) (name : String) {own? : Option Spot} :
    fleet.Turns own? (client.watch fleet type space name).2 := by
  refine ⟨fun spot feed found => ⟨feed, ?_, .refl feed, fun _ => rfl⟩,
    fleet.put_sameStores client.context _⟩
  rw [client.watch_feedAt?_of_ne fleet type space name, found]
  rintro rfl
  obtain ⟨inside, -⟩ := List.getElem?_eq_some_iff.mp found
  exact Nat.lt_irrefl _ inside

/-- A new feed has nothing to read yet. -/
theorem Client.watch_feedAt? (client : Client) (fleet : Fleet) (type : ResourceType)
    (space : Option String) (name : String) :
    (client.watch fleet type space name).2.feedAt?
        (client.context, (client.watch fleet type space name).1) =
      some { address := Feed.addressOf type.plural space name } := by
  unfold Client.watch Cluster.watch Client.cluster
  dsimp only
  rw [Fleet.feedAt?_put_self]
  simp

/-! ## Turns of tasks -/

namespace Watch

theorem Source.modify_turns (source : Source) (site : Site) {change : Feed → Feed}
    (extending : ∀ feed : Feed, feed.Extends (change feed)) :
    site.fleet.Turns (some source.spot) (source.modify site change).fleet :=
  .modifyFeed site.fleet source.spot extending

namespace Task

theorem release_turns (task : Task) (site : Site) :
    site.fleet.Turns task.spot? (task.release site).fleet := by
  unfold release Task.spot? Phase.spot?
  split
  · rename_i source held
    rw [held]
    exact source.modify_turns site fun feed => ⟨List.prefix_rfl, fun ended => ⟨ended, rfl⟩⟩
  · exact .refl site.fleet

theorem read_turns (task : Task) (source : Source) (site : Site) {own? : Option Spot} :
    site.fleet.Turns own? (task.read source site).2.fleet :=
  .of_steady (site.getWith_evolves source.client source.type task.descriptor.space?
    task.descriptor.name).steady

/-- A step takes items from the feed that the task holds, and from no other. -/
theorem step_turns (task : Task) (due : Nat) (turn : Turn) :
    turn.1.fleet.Turns task.spot? (task.step due turn).1.fleet := by
  obtain ⟨site, session⟩ := turn
  unfold step
  split
  · exact task.release_turns site
  · split
    · have resolved := (site.resolve_evolves task.context?).steady
      unfold connect
      dsimp only
      split
      all_goals
        rename_i answer
        rw [answer] at resolved
        exact .of_steady resolved
    · exact .refl site.fleet
    · rename_i handle _
      unfold subscribe
      dsimp only
      split
      · exact .refl site.fleet
      · exact Fleet.Turns.trans (.of_steady (site.pluralOf_evolves handle.client _ _ _).steady)
          (handle.client.watch_turns _ _ _ _)
    · rename_i source _
      have asked : site.fleet.Turns task.spot? _ := task.read_turns source site
      unfold readFirst
      dsimp only
      split
      all_goals
        rename_i answer
        rw [answer] at asked
        exact asked
    · exact .refl site.fleet
    · rename_i source _ streaming
      have own : task.spot? = some source.spot := by
        simp [Task.spot?, streaming, Phase.spot?, Phase.source?]
      unfold take
      dsimp only
      split
      · rw [own]
        exact source.modify_turns site fun feed => ⟨List.prefix_rfl, fun ended => ⟨ended, rfl⟩⟩
      · exact task.release_turns site
    · exact .refl site.fleet
    · exact .refl site.fleet
    · exact .refl site.fleet

theorem tick_turns (task : Task) (period : Nat) (turn : Turn) :
    turn.1.fleet.Turns task.spot? (task.tick period turn).1.fleet := by
  obtain ⟨site, session⟩ := turn
  unfold tick
  split
  · exact task.release_turns site
  · split
    · rename_i source _ _
      have asked : site.fleet.Turns task.spot? _ := task.read_turns source site
      unfold readAgain
      dsimp only
      split
      all_goals
        rename_i answer
        rw [answer] at asked
        exact asked
    · exact .refl site.fleet

end Task
end Watch
end KubeLens
