import KubeLens.Cluster.Feed

/-!
# What is pushed to feeds

A cluster hands what is pushed to an object on from one feed of the object to the next.  An event
comes to every live feed in this way, and an error to the first one.  Feeds that are no longer
read are given up, and the feeds of other objects do not change.
-/

namespace KubeLens

theorem Feed.serves_eq (feed : Feed) (address : String) :
    feed.serves address = (feed.isFor address && feed.isOpen) := by
  unfold serves isFor isLive
  rw [Bool.and_assoc]

namespace Feeds

variable {address : String} {feeds : Feeds}

/-! ## Handing on -/

/-- Where an object has no feeds, nothing can be handed on. -/
theorem handOn_of_absent (item? : Option FeedItem)
    (absent : feeds.any (·.isFor address) = false) : handOn address item? feeds = (0, feeds) := by
  induction feeds with
  | nil => cases item? <;> rfl
  | cons feed rest ih =>
      cases item? with
      | none => rfl
      | some item =>
          rw [List.any_cons, Bool.or_eq_false_iff] at absent
          simp [handOn, absent.1, ih absent.2]

/-- An event is copied as long as a feed of the object follows, so all of them see it. -/
theorem handOn_event (address : String) (event : ObjectEvent) (feeds : Feeds) :
    handOn address (some (.ok event)) feeds =
      (feeds.liveCount address, feeds.map fun feed =>
        if feed.serves address then feed.deliver (.ok event) else feed) := by
  induction feeds with
  | nil => rfl
  | cons feed rest ih =>
      have copied : handOn address
          (if rest.any (·.isFor address) then some (.ok event) else none) rest =
            handOn address (some (.ok event)) rest := by
        by_cases follows : rest.any (·.isFor address) = true
        · rw [if_pos follows]
        · have absent : rest.any (·.isFor address) = false := by simpa using follows
          rw [handOn_of_absent _ absent, handOn_of_absent _ absent]
      cases own : feed.isFor address with
      | false => simp [handOn, ih, own, feed.serves_eq, liveCount]
      | true =>
          rw [handOn, if_pos own]
          dsimp only
          rw [copied, ih]
          cases reading : feed.isOpen <;> simp [own, reading, feed.serves_eq, liveCount]

/-- An error stays with the first feed of the object, which takes it as it is read. -/
theorem handOn_error (read : ∀ feed ∈ feeds, feed.isFor address = true → feed.isOpen = true)
    (error : ClusterError) :
    handOn address (some (.error error)) feeds =
      (min 1 (feeds.liveCount address),
        match feeds.findIdx? (·.serves address) with
        | some place => feeds.modify place (·.deliver (.error error))
        | none => feeds) := by
  induction feeds with
  | nil => rfl
  | cons feed rest ih =>
      have later := ih fun other present => read other (List.mem_cons_of_mem _ present)
      cases own : feed.isFor address with
      | true =>
          have reading := read feed List.mem_cons_self own
          simp [handOn, List.findIdx?_cons, liveCount, own, reading, feed.serves_eq]
      | false =>
          cases found : rest.findIdx? (·.serves address) <;>
            simp [handOn, List.findIdx?_cons, liveCount, own, later, found, feed.serves_eq]

/-! ## Giving up -/

/-- The feed after feeds of an object that are no longer read were given up. -/
def pruned (address : String) (feed : Feed) : Feed :=
  if feed.address == address && !feed.isOpen then feed.detach else feed

theorem prune_eq_map (feeds : Feeds) (address : String) :
    feeds.prune address = feeds.map (pruned address) := rfl

/-- Only feeds that the cluster has can be given up. -/
theorem pruned_eq (address : String) (feed : Feed) :
    pruned address feed =
      if feed.isFor address && !feed.isOpen then feed.detach else feed := by
  obtain ⟨own, _, _, isAttached, isOpen⟩ := feed
  cases isAttached <;> cases isOpen <;> simp [pruned, Feed.isFor, Feed.detach]

theorem serves_pruned (address : String) (feed : Feed) :
    (pruned address feed).serves address = feed.serves address := by
  rw [pruned_eq]
  cases own : feed.isFor address <;> cases reading : feed.isOpen <;>
    simp [Feed.serves, Feed.isLive, Feed.detach, reading]

theorem liveCount_prune (feeds : Feeds) (address : String) :
    (feeds.prune address).liveCount address = feeds.liveCount address := by
  unfold liveCount
  rw [prune_eq_map, List.countP_map]
  exact List.countP_congr fun feed _ => by rw [Function.comp_apply, serves_pruned]

theorem findIdx?_prune (feeds : Feeds) (address : String) :
    (feeds.prune address).findIdx? (·.serves address) = feeds.findIdx? (·.serves address) := by
  rw [prune_eq_map, List.findIdx?_map]
  exact congrArg (feeds.findIdx? ·) (funext (serves_pruned address))

/-- What is left of the feeds of an object is read. -/
theorem isOpen_of_mem_prune {feed : Feed} (present : feed ∈ feeds.prune address)
    (own : feed.isFor address = true) : feed.isOpen = true := by
  obtain ⟨earlier, _, rfl⟩ := List.mem_map.mp present
  split at own
  · simp [Feed.isFor, Feed.detach] at own
  · rename_i kept
    rw [if_neg kept]
    simp_all [Feed.isFor]

/-! ## Pushing -/

/-- An event that is pushed to an object is delivered once to every live feed of the object, and
these are counted; an error is delivered to the first of them, if there is one.  The object's
feeds that are no longer read are given up.  No other feed changes. -/
theorem push_reaches (feeds : Feeds) (address : String) :
    (∀ event,
      feeds.reach address (.ok event) = feeds.liveCount address ∧
      feeds.push address (.ok event) = feeds.map fun feed =>
        if feed.serves address then feed.deliver (.ok event)
        else if feed.isFor address then feed.detach
        else feed) ∧
    ∀ error,
      feeds.reach address (.error error) = min 1 (feeds.liveCount address) ∧
      feeds.push address (.error error) =
        match feeds.findIdx? (·.serves address) with
        | some place => (feeds.prune address).modify place (·.deliver (.error error))
        | none => feeds.prune address := by
  refine ⟨fun event => ?_, fun error => ?_⟩
  · have handed := handOn_event address event (feeds.prune address)
    refine ⟨(congrArg Prod.fst handed).trans (feeds.liveCount_prune address),
      (congrArg Prod.snd handed).trans ?_⟩
    rw [prune_eq_map, List.map_map]
    refine List.map_congr_left fun feed _ => ?_
    rw [Function.comp_apply, serves_pruned, pruned_eq, Feed.serves_eq]
    cases feed.isFor address <;> cases feed.isOpen <;> rfl
  · have read : ∀ feed ∈ feeds.prune address, feed.isFor address = true → feed.isOpen = true :=
      fun _ => isOpen_of_mem_prune
    have handed := handOn_error read error
    rw [liveCount_prune, findIdx?_prune] at handed
    exact ⟨congrArg Prod.fst handed, congrArg Prod.snd handed⟩

end Feeds
end KubeLens
