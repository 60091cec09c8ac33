import Mathlib.Algebra.GroupWithZero.Nat
import Mathlib.Data.List.Nodup
import KubeLens.Proofs.Site.Evolution
import KubeLens.Watch.Hub

/-!
# Open feeds and the tasks that hold them

A feed is found at a spot: a cluster and a place in it.  A task holds the feed of its source.
The books are balanced when each open feed is held once and nothing else is held.
-/

namespace KubeLens

/-- A cluster and a place among its feeds. -/
abbrev Spot := String × Nat

/-! ## Open feeds -/

namespace Fleet

/-- The feed at a spot. -/
def feedAt? (fleet : Fleet) (spot : Spot) : Option Feed :=
  (fleet.cluster spot.1).feeds[spot.2]?

/-- Whether there is a feed at a spot that a watch still reads. -/
def isOpenAt (fleet : Fleet) (spot : Spot) : Bool :=
  (fleet.feedAt? spot).any Feed.isOpen

/-- Whether no cluster has stopped answering gets. -/
def Answers (fleet : Fleet) : Prop :=
  ∀ context, (fleet.cluster context).isStalled = false

/-- A fleet before and after something that closes at most one feed and opens none. -/
structure Closing (closed? : Option Spot) (before after : Fleet) : Prop where
  isOpenAt : ∀ spot, after.isOpenAt spot = (before.isOpenAt spot && decide (closed? ≠ some spot))
  answers : before.Answers → after.Answers
  keys_nodup : (Assoc.keys before.clusters).Nodup → (Assoc.keys after.clusters).Nodup

/-- A fleet before and after something that neither opens nor closes a feed. -/
abbrev SameOpen : Fleet → Fleet → Prop :=
  Closing none

theorem SameOpen.isOpenAt {before after : Fleet} (same : before.SameOpen after) (spot : Spot) :
    after.isOpenAt spot = before.isOpenAt spot := by
  simpa using Closing.isOpenAt same spot

theorem SameOpen.of_isOpenAt {before after : Fleet}
    (isOpenAt : ∀ spot, after.isOpenAt spot = before.isOpenAt spot)
    (answers : before.Answers → after.Answers)
    (keys_nodup : (Assoc.keys before.clusters).Nodup → (Assoc.keys after.clusters).Nodup) :
    before.SameOpen after :=
  ⟨fun spot => by simpa using isOpenAt spot, answers, keys_nodup⟩

theorem SameOpen.refl (fleet : Fleet) : fleet.SameOpen fleet :=
  .of_isOpenAt (fun _ => rfl) id id

/-- Requests neither open nor close feeds. -/
theorem Steady.sameOpen {before after : Fleet} (steady : before.Steady after) :
    before.SameOpen after := by
  refine .of_isOpenAt (fun spot => ?_) (fun answers context => ?_) steady.keys_nodup
  · obtain ⟨calls, same⟩ := steady.contents spot.1
    unfold Fleet.isOpenAt Fleet.feedAt?
    rw [same]
  · obtain ⟨calls, same⟩ := steady.contents context
    rw [same]
    exact answers context

/-- Replacing the feeds of one cluster. -/
theorem feedAt?_put_self (fleet : Fleet) (context : String) (cluster : Cluster) (place : Nat) :
    (fleet.put context cluster).feedAt? (context, place) = cluster.feeds[place]? := by
  unfold feedAt?
  rw [cluster_put_self]

theorem feedAt?_put_of_ne (fleet : Fleet) {context : String} (cluster : Cluster) {spot : Spot}
    (different : context ≠ spot.1) :
    (fleet.put context cluster).feedAt? spot = fleet.feedAt? spot := by
  unfold feedAt?
  rw [cluster_put_of_ne _ _ different]

theorem put_answers {fleet : Fleet} {context : String} {cluster : Cluster}
    (answers : fleet.Answers) (clusterAnswers : cluster.isStalled = false) :
    (fleet.put context cluster).Answers := by
  intro other
  by_cases same : context = other
  · subst same
    rwa [cluster_put_self]
  · rw [cluster_put_of_ne _ _ same]
    exact answers other

/-- A cluster is replaced by one in which the same places have open feeds. -/
theorem put_sameOpen {fleet : Fleet} {context : String} {cluster : Cluster}
    (answers : fleet.Answers → cluster.isStalled = false)
    (feeds : ∀ place : Nat, cluster.feeds[place]?.any Feed.isOpen =
      (fleet.cluster context).feeds[place]?.any Feed.isOpen) :
    fleet.SameOpen (fleet.put context cluster) := by
  refine .of_isOpenAt (fun spot => ?_) (fun before => put_answers before (answers before))
    (Assoc.keys_put_nodup _ _ _)
  unfold isOpenAt
  by_cases same : context = spot.1
  · obtain ⟨_, place⟩ := spot
    subst same
    rw [feedAt?_put_self]
    exact feeds place
  · rw [feedAt?_put_of_ne _ _ same]

/-- A feed is changed, but neither closed nor opened. -/
theorem modifyFeed_sameOpen (fleet : Fleet) (spot : Spot) (change : Feed → Feed)
    (same : ∀ feed, (change feed).isOpen = feed.isOpen) :
    fleet.SameOpen
      (fleet.modify spot.1 fun cluster => cluster.modifyFeed spot.2 change) := by
  refine put_sameOpen (fun answers => answers spot.1) ?_
  intro place
  simp only [Cluster.modifyFeed, List.getElem?_modify]
  cases (fleet.cluster spot.1).feeds[place]? with
  | none => rfl
  | some feed =>
      by_cases here : spot.2 = place
      · simp [here, same feed]
      · simp [here]

/-- A feed is closed. -/
theorem closeFeed_closing (fleet : Fleet) (spot : Spot) :
    Closing (some spot) fleet
      (fleet.modify spot.1 fun cluster => cluster.modifyFeed spot.2 Feed.close) := by
  refine ⟨fun other => ?_, fun answers => put_answers answers (answers spot.1),
    Assoc.keys_put_nodup _ _ _⟩
  unfold isOpenAt
  by_cases same : spot.1 = other.1
  · obtain ⟨context, place⟩ := spot
    obtain ⟨_, otherPlace⟩ := other
    obtain rfl : context = _ := same
    rw [modify, feedAt?_put_self]
    unfold feedAt?
    simp only [Cluster.modifyFeed, List.getElem?_modify]
    cases (fleet.cluster context).feeds[otherPlace]? with
    | none => rfl
    | some feed =>
        by_cases here : place = otherPlace
        · simp [here, Feed.close]
        · simp [here]
  · rw [modify, feedAt?_put_of_ne _ _ same]
    have different : spot ≠ other := fun equal => same (congrArg Prod.fst equal)
    simp [different]

end Fleet

/-- A feed is opened at the end of a cluster. -/
theorem Client.watch_isOpenAt (client : Client) (fleet : Fleet) (type : ResourceType)
    (space : Option String) (name : String) (spot : Spot) :
    (client.watch fleet type space name).2.isOpenAt spot =
      (fleet.isOpenAt spot ||
        decide (spot = (client.context, (client.watch fleet type space name).1))) := by
  unfold Client.watch Cluster.watch Client.cluster
  dsimp only
  unfold Fleet.isOpenAt
  by_cases same : client.context = spot.1
  · obtain ⟨context, place⟩ := spot
    obtain rfl : client.context = context := same
    rw [Fleet.feedAt?_put_self]
    unfold Fleet.feedAt?
    simp only [List.getElem?_append]
    by_cases old : place < (fleet.cluster client.context).feeds.length
    · have different : place ≠ (fleet.cluster client.context).feeds.length := Nat.ne_of_lt old
      simp [old, different]
    · have beyond : (fleet.cluster client.context).feeds[place]? = none :=
        List.getElem?_eq_none (Nat.le_of_not_lt old)
      simp only [old, if_false, List.getElem?_singleton, beyond]
      by_cases last : place = (fleet.cluster client.context).feeds.length
      · simp [last]
      · have later : place - (fleet.cluster client.context).feeds.length ≠ 0 := by omega
        simp [last, later]
  · have different : spot ≠ (client.context, (fleet.cluster client.context).feeds.length) :=
      fun equal => same (congrArg Prod.fst equal).symm
    rw [Fleet.feedAt?_put_of_ne _ _ same]
    simp [different]

/-- A new feed has a spot of its own. -/
theorem Client.watch_unused (client : Client) (fleet : Fleet) (type : ResourceType)
    (space : Option String) (name : String) :
    fleet.isOpenAt (client.context, (client.watch fleet type space name).1) = false := by
  have absent : (fleet.cluster client.context).feeds[(fleet.cluster client.context).feeds.length]? =
      none := List.getElem?_eq_none (Nat.le_refl _)
  unfold Fleet.isOpenAt Fleet.feedAt? Client.watch Cluster.watch Client.cluster
  rw [absent]
  rfl

/-- Only a cluster that has stopped answering gives no answer to a get. -/
theorem Client.isStalled_of_get {client : Client} {fleet : Fleet} {type : ResourceType}
    {space : Option String} {name : String}
    (unanswered : (client.get fleet type space name).1 = none) :
    (client.cluster fleet).isStalled = true := by
  unfold Client.get at unanswered
  split at unanswered
  · cases unanswered
  · by_contra answers
    simp [Cluster.get, answers] at unanswered

theorem Site.Evolves.sameOpen {before after : Site} (evolves : before.Evolves after) :
    before.fleet.SameOpen after.fleet :=
  evolves.steady.sameOpen

/-! ## Live feeds -/

namespace Feeds

/-- The places of the live feeds. -/
def livePlaces (feeds : Feeds) : List Nat :=
  (feeds.zipIdx.filter (·.1.isLive)).map (·.2)

theorem length_livePlaces (feeds : Feeds) : feeds.livePlaces.length = feeds.totalLive := by
  unfold livePlaces totalLive
  rw [List.length_map, ← List.countP_eq_length_filter]
  conv_rhs => rw [← List.zipIdx_map_fst 0 feeds]
  rw [List.countP_map]
  rfl

theorem livePlaces_nodup (feeds : Feeds) : feeds.livePlaces.Nodup := by
  have places : (feeds.zipIdx.map (·.2)).Nodup := by
    rw [List.zipIdx_map_snd]
    exact List.nodup_range'
  exact places.sublist (List.filter_sublist.map _)

theorem mem_livePlaces {feeds : Feeds} {place : Nat} :
    place ∈ feeds.livePlaces ↔ feeds[place]?.any Feed.isLive = true := by
  unfold livePlaces
  rw [List.mem_map, Option.any_eq_true]
  constructor
  · rintro ⟨⟨feed, _⟩, present, rfl⟩
    obtain ⟨stored, live⟩ := List.mem_filter.mp present
    exact ⟨feed, List.mk_mem_zipIdx_iff_getElem?.mp stored, live⟩
  · rintro ⟨feed, stored, live⟩
    exact ⟨(feed, place),
      List.mem_filter.mpr ⟨List.mk_mem_zipIdx_iff_getElem?.mpr stored, live⟩, rfl⟩

end Feeds

namespace Fleet

/-- Whether there is a live feed at a spot. -/
def isLiveAt (fleet : Fleet) (spot : Spot) : Bool :=
  (fleet.feedAt? spot).any Feed.isLive

/-- How many feeds of all clusters are live. -/
def openFeeds (fleet : Fleet) : Nat :=
  (fleet.clusters.map fun entry => entry.2.feeds.totalLive).sum

/-- The spots of all live feeds. -/
def liveSpots (fleet : Fleet) : List Spot :=
  fleet.clusters.flatMap fun entry => entry.2.feeds.livePlaces.map (entry.1, ·)

theorem length_liveSpots (fleet : Fleet) : fleet.liveSpots.length = fleet.openFeeds := by
  unfold liveSpots openFeeds
  rw [List.length_flatMap]
  refine congrArg List.sum (List.map_congr_left fun entry _ => ?_)
  rw [List.length_map, Feeds.length_livePlaces]

theorem liveSpots_nodup {fleet : Fleet} (nodup : (Assoc.keys fleet.clusters).Nodup) :
    fleet.liveSpots.Nodup := by
  refine List.nodup_flatMap.mpr ⟨fun entry _ => ?_, ?_⟩
  · refine (List.nodup_map_iff fun first second equal => ?_).mpr entry.2.feeds.livePlaces_nodup
    exact congrArg Prod.snd equal
  · apply (List.pairwise_map.mp nodup).imp
    intro _ _ different spot first second
    obtain ⟨_, _, rfl⟩ := List.mem_map.mp first
    obtain ⟨_, _, equal⟩ := List.mem_map.mp second
    exact different (congrArg Prod.fst equal).symm

theorem mem_liveSpots {fleet : Fleet} (nodup : (Assoc.keys fleet.clusters).Nodup)
    {spot : Spot} : spot ∈ fleet.liveSpots ↔ fleet.isLiveAt spot = true := by
  obtain ⟨context, place⟩ := spot
  unfold liveSpots isLiveAt feedAt? Fleet.cluster
  rw [List.mem_flatMap]
  constructor
  · rintro ⟨⟨_, cluster⟩, stored, present⟩
    obtain ⟨_, live, equal⟩ := List.mem_map.mp present
    cases equal
    rw [Assoc.get?_of_mem nodup stored]
    exact Feeds.mem_livePlaces.mp live
  · intro live
    cases found : Assoc.get? fleet.clusters context with
    | none =>
        rw [found] at live
        cases live
    | some cluster =>
        rw [found] at live
        refine ⟨(context, cluster), Assoc.mem_of_get? found, List.mem_map.mpr ⟨place, ?_, rfl⟩⟩
        exact Feeds.mem_livePlaces.mpr live

end Fleet

/-! ## Held feeds -/

namespace Watch

/-- Where the feed of a source is. -/
def Source.spot (source : Source) : Spot :=
  (source.client.context, source.place)

theorem Source.modify_sameOpen (source : Source) (site : Site) (change : Feed → Feed)
    (same : ∀ feed, (change feed).isOpen = feed.isOpen) :
    site.fleet.SameOpen (source.modify site change).fleet :=
  site.fleet.modifyFeed_sameOpen source.spot change same

theorem Source.close_closing (source : Source) (site : Site) :
    Fleet.Closing (some source.spot) site.fleet (source.modify site Feed.close).fleet :=
  site.fleet.closeFeed_closing source.spot

/-- The spot that a task in this phase holds. -/
def Phase.spot? (phase : Phase) : Option Spot :=
  phase.source?.map Source.spot

/-- The spot that a task holds. -/
def Task.spot? (task : Task) : Option Spot :=
  task.phase.spot?

/-- A task that lets go closes the feed that it holds. -/
theorem Task.release_closing (task : Task) (site : Site) :
    Fleet.Closing task.spot? site.fleet (task.release site).fleet := by
  unfold Task.release Task.spot? Phase.spot?
  split
  · rename_i source held
    rw [held]
    exact source.close_closing site
  · rename_i idle
    rw [idle]
    exact Fleet.SameOpen.refl site.fleet

/-- How often a spot is held: once or not at all. -/
def holding (spot? : Option Spot) (spot : Spot) : Nat :=
  if spot? = some spot then 1 else 0

@[simp] theorem holding_none (spot : Spot) : holding none spot = 0 := rfl

/-- What was held besides the closed feed is what stays open. -/
theorem count_of_closing {closed? : Option Spot} {before after : Fleet}
    (closing : Fleet.Closing closed? before after) {spot : Spot} {count : Nat}
    (held : count + holding closed? spot = (before.isOpenAt spot).toNat) :
    count = (after.isOpenAt spot).toNat := by
  rw [closing.isOpenAt spot]
  unfold holding at held
  by_cases closed : closed? = some spot
  · rw [if_pos closed] at held
    have atMost : (before.isOpenAt spot).toNat ≤ 1 := Bool.toNat_le _
    have none_left : count = 0 := by omega
    simp [closed, none_left]
  · rw [if_neg closed] at held
    simp [closed, ← held]

namespace Session

/-- The spots that the tasks of a session hold. -/
def held (session : Session) : List Spot :=
  session.tasks.filterMap Task.spot?

/-- What a list of tasks holds is what one of them holds, and the others. -/
theorem count_spots (tasks : List Task) {task : Task} (present : task ∈ tasks)
    (nodup : (tasks.map (·.generation)).Nodup) (spot : Spot) :
    (tasks.filterMap Task.spot?).count spot =
      ((tasks.filter (·.generation != task.generation)).filterMap Task.spot?).count spot +
        holding task.spot? spot := by
  induction tasks with
  | nil => cases present
  | cons first rest ih =>
      obtain ⟨fresh, nodupRest⟩ := List.nodup_cons.mp nodup
      rcases List.mem_cons.mp present with rfl | later
      · have others : rest.filter (·.generation != task.generation) = rest := by
          apply List.filter_eq_self.mpr
          intro other stored
          have different : other.generation ≠ task.generation := fun equal =>
            fresh (List.mem_map.mpr ⟨other, stored, equal⟩)
          simpa using different
        rw [List.filter_cons_of_neg (by simp), others]
        unfold holding
        cases held : task.spot? with
        | none => rw [List.filterMap_cons_none held]; simp
        | some own => rw [List.filterMap_cons_some held, List.count_cons]; simp
      · have different : first.generation ≠ task.generation := fun equal =>
          fresh (List.mem_map.mpr ⟨task, later, equal.symm⟩)
        rw [List.filter_cons_of_pos (by simpa using different)]
        cases held : first.spot? with
        | none =>
            rw [List.filterMap_cons_none held, List.filterMap_cons_none held]
            exact ih later nodupRest
        | some own =>
            rw [List.filterMap_cons_some held, List.filterMap_cons_some held, List.count_cons,
              List.count_cons, ih later nodupRest]
            omega

end Session
end Watch
end KubeLens
