import KubeLens.Proofs.Watch.Deliveries

/-!
# The stream of a watch

What the peer of a watch should hear: the state of the object once, then one message for each item
of the feed that concerns the object, in the order of the feed.  Messages from later reads of the
object may stand anywhere after the first message.
-/

namespace KubeLens
namespace Watch

/-! ## What is told -/

namespace Source

/-- The error that a get is refused with. -/
def refusal? (source : Source) (fleet : Fleet) : Option ClusterError :=
  source.client.refusal? fleet .get source.type.plural

/-- The stored object of a descriptor. -/
def stored? (source : Source) (fleet : Fleet) (descriptor : Descriptor) : Option Json :=
  (source.client.cluster fleet).object? source.type ⟨descriptor.space?, descriptor.name⟩

variable {before after : Fleet}

theorem refusal?_of_sameStores (source : Source) (same : before.SameStores after) :
    source.refusal? after = source.refusal? before := by
  obtain ⟨calls, feeds, cluster⟩ := same source.client.context
  unfold refusal? Client.refusal? Client.cluster
  rw [cluster]

theorem stored?_of_sameStores (source : Source) (same : before.SameStores after)
    (descriptor : Descriptor) :
    source.stored? after descriptor = source.stored? before descriptor := by
  obtain ⟨calls, feeds, cluster⟩ := same source.client.context
  unfold stored? Client.cluster
  rw [cluster]
  rfl

end Source

namespace Descriptor

/-- Whether a document has the name and, if there is one, the namespace of a descriptor. -/
def Names (descriptor : Descriptor) (document : Json) : Prop :=
  document.objectName? = some descriptor.name ∧
    ∀ space, descriptor.space? = some space → document.objectNamespace? = some space

/-- The object in a message. -/
def subject (descriptor : Descriptor) : String :=
  descriptor.kind ++ " " ++ descriptor.name

/-- What is told about an item of a feed. -/
inductive Tells (descriptor : Descriptor) : FeedItem → List Message → Prop
  | applied {document : Json} (named : descriptor.Names document) :
      Tells descriptor (.ok (.applied document)) [.updated document]
  | deleted {document : Json} (named : descriptor.Names document) :
      Tells descriptor (.ok (.deleted document)) [.deleted descriptor.stub]
  | foreign {event : ObjectEvent} (other : ¬descriptor.Names event.document) :
      Tells descriptor (.ok event) []
  | failed (error : ClusterError) :
      Tells descriptor (.error error)
        [.error ("watch error for " ++ descriptor.subject ++ ": " ++ error.message)]

/-- What a read of the object shows. -/
inductive Shows (descriptor : Descriptor) (source : Source) (fleet : Fleet) : Message → Prop
  | stored {document : Json} (allowed : source.refusal? fleet = none)
      (stored : source.stored? fleet descriptor = some document) :
      Shows descriptor source fleet (.updated document)
  | missing (allowed : source.refusal? fleet = none)
      (missing : source.stored? fleet descriptor = none) :
      Shows descriptor source fleet (.deleted descriptor.stub)
  /-- The refusal says that there is no such object. -/
  | hidden {error : ClusterError} (refused : source.refusal? fleet = some error)
      (absent : error.isNotFound = true) :
      Shows descriptor source fleet (.deleted descriptor.stub)

/-- What is told when the object is read for the first time. -/
inductive Begins (descriptor : Descriptor) (source : Source) (fleet : Fleet) : Message → Prop
  | shows {message : Message} (shows : descriptor.Shows source fleet message) :
      Begins descriptor source fleet message
  | refused {error : ClusterError} (refused : source.refusal? fleet = some error)
      (present : error.isNotFound = false) :
      Begins descriptor source fleet
        (.error ("failed to get " ++ descriptor.subject ++ ": " ++ error.message))

/-- The last message of a watch whose feed ended. -/
def farewell (descriptor : Descriptor) : Message :=
  .error ("watch for " ++ descriptor.subject ++ " ended")

/-- The messages about the items of a feed, after a first message and among messages from later
reads. -/
inductive Streams (descriptor : Descriptor) (first again : Message → Prop) :
    List FeedItem → List Message → Prop
  | first {message : Message} (begins : first message) :
      Streams descriptor first again [] [message]
  | item {items : List FeedItem} {said : List Message} {item : FeedItem} {more : List Message}
      (earlier : Streams descriptor first again items said) (tells : descriptor.Tells item more) :
      Streams descriptor first again (items ++ [item]) (said ++ more)
  | again {items : List FeedItem} {said : List Message} {message : Message}
      (earlier : Streams descriptor first again items said) (shows : again message) :
      Streams descriptor first again items (said ++ [message])

/-- Nothing, or the messages about some of the items, from the first one on. -/
def Started (descriptor : Descriptor) (first again : Message → Prop) (items : List FeedItem)
    (said : List Message) : Prop :=
  said = [] ∨ ∃ few, few <+: items ∧ descriptor.Streams first again few said

/-- The messages about all items, and the farewell. -/
def Concludes (descriptor : Descriptor) (first again : Message → Prop) (items : List FeedItem)
    (said : List Message) : Prop :=
  ∃ earlier, descriptor.Streams first again items earlier ∧
    said = earlier ++ [descriptor.farewell]

variable {descriptor : Descriptor} {first again : Message → Prop} {items more : List FeedItem}
  {said : List Message}

theorem Streams.ne_nil (streams : descriptor.Streams first again items said) : said ≠ [] := by
  induction streams with
  | first => exact List.cons_ne_nil _ _
  | item _ _ ih => exact fun empty => ih (List.append_eq_nil_iff.mp empty).1
  | again _ _ ih => exact fun empty => ih (List.append_eq_nil_iff.mp empty).1

theorem Streams.mono {begins shows : Message → Prop}
    (streams : descriptor.Streams first again items said)
    (firsts : ∀ message, first message → begins message)
    (agains : ∀ message, again message → shows message) :
    descriptor.Streams begins shows items said := by
  induction streams with
  | first begins => exact .first (firsts _ begins)
  | item _ tells ih => exact .item ih tells
  | again _ shows ih => exact .again ih (agains _ shows)

theorem Streams.started (streams : descriptor.Streams first again items said)
    (longer : items <+: more) : descriptor.Started first again more said :=
  .inr ⟨items, longer, streams⟩

theorem Started.extend (started : descriptor.Started first again items said)
    (longer : items <+: more) : descriptor.Started first again more said := by
  rcases started with silent | ⟨few, earlier, streams⟩
  · exact .inl silent
  · exact streams.started (earlier.trans longer)

/-- Without its last message a stream is one of some of the items still, or nothing is said. -/
theorem Streams.started_of_more {message : Message}
    (streams : descriptor.Streams first again items (said ++ [message])) :
    descriptor.Started first again items said := by
  generalize ends : said ++ [message] = all at streams
  induction streams with
  | first begins => exact .inl (List.append_inj' (ends.trans (List.nil_append _).symm) rfl).1
  | @item items told item more earlier tells ih =>
      have longer : items <+: items ++ [item] := List.prefix_append _ _
      have last {other : Message} (ends : said ++ [message] = told ++ [other]) :
          descriptor.Started first again (items ++ [item]) said := by
        obtain ⟨rfl, _⟩ := List.append_inj' ends rfl
        exact earlier.started longer
      cases tells with
      | foreign => exact (ih (ends.trans (List.append_nil told))).extend longer
      | _ => exact last ends
  | again earlier =>
      obtain ⟨rfl, _⟩ := List.append_inj' ends rfl
      exact earlier.started List.prefix_rfl

theorem Started.mono {begins shows : Message → Prop}
    (started : descriptor.Started first again items said)
    (firsts : said ≠ [] → ∀ message, first message → begins message)
    (agains : ∀ message, again message → shows message) :
    descriptor.Started begins shows items said := by
  rcases started with silent | ⟨few, earlier, streams⟩
  · exact .inl silent
  · exact (streams.mono (firsts streams.ne_nil) agains).started earlier

theorem Shows.of_sameStores {source : Source} {before after : Fleet}
    (same : before.SameStores after) {message : Message}
    (shows : descriptor.Shows source after message) : descriptor.Shows source before message := by
  have refusal := source.refusal?_of_sameStores same
  have stored := source.stored?_of_sameStores same descriptor
  cases shows with
  | stored allowed found => exact .stored (refusal ▸ allowed) (stored ▸ found)
  | missing allowed absent => exact .missing (refusal ▸ allowed) (stored ▸ absent)
  | hidden refused absent => exact .hidden (refusal ▸ refused) absent

theorem Begins.of_sameStores {source : Source} {before after : Fleet}
    (same : before.SameStores after) {message : Message}
    (begins : descriptor.Begins source after message) :
    descriptor.Begins source before message := by
  cases begins with
  | shows shows => exact .shows (shows.of_sameStores same)
  | refused refused present => exact .refused (source.refusal?_of_sameStores same ▸ refused) present

/-! ## What tasks tell -/

theorem isAbout_iff {document : Json} :
    descriptor.isAbout document = true ↔ descriptor.Names document := by
  unfold isAbout Names
  rw [Bool.and_eq_true, beq_iff_eq, Option.all_eq_true]
  simp

end Descriptor

namespace Task

variable {task : Task}

theorem itemMessage?_tells (task : Task) (item : FeedItem) :
    task.descriptor.Tells item (task.itemMessage? item).toList := by
  cases item with
  | error error => exact .failed error
  | ok event =>
      unfold itemMessage? Descriptor.change?
      by_cases about : task.descriptor.isAbout event.document = true
      · have named := Descriptor.isAbout_iff.mp about
        cases event with
        | applied document => simpa [about] using .applied named
        | deleted document => simpa [about] using .deleted named
      · simpa [about] using .foreign fun named => about (Descriptor.isAbout_iff.mpr named)

/-- What a read can be answered with. -/
theorem read_cases {source : Source} {site : Site} {answer : Except ClusterError Json}
    (answered : (task.read source site).1 = some answer) :
    (∃ error, source.refusal? site.fleet = some error ∧ answer = .error error) ∨
    (source.refusal? site.fleet = none ∧
      ((∃ document, source.stored? site.fleet task.descriptor = some document ∧
          answer = .ok document) ∨
        (source.stored? site.fleet task.descriptor = none ∧
          answer = .error (Cluster.objectMissing source.type task.descriptor.name)))) := by
  unfold read Site.getWith Client.get at answered
  unfold Source.refusal? Source.stored?
  dsimp only at answered
  split at answered
  · rename_i error refused
    exact .inl ⟨error, refused, (Option.some.inj answered).symm⟩
  · rename_i allowed
    refine .inr ⟨allowed, ?_⟩
    unfold Cluster.get Cluster.getAnswer at answered
    dsimp only at answered
    split at answered
    · cases answered
    · split at answered
      · rename_i document stored
        exact .inl ⟨document, stored, (Option.some.inj answered).symm⟩
      · rename_i missing
        exact .inr ⟨missing, (Option.some.inj answered).symm⟩

theorem firstMessage_begins {source : Source} {site : Site} {answer : Except ClusterError Json}
    (answered : (task.read source site).1 = some answer) :
    task.descriptor.Begins source site.fleet (task.firstMessage answer) := by
  rcases read_cases answered with ⟨error, refused, rfl⟩ |
    ⟨allowed, ⟨document, stored, rfl⟩ | ⟨missing, rfl⟩⟩
  · unfold firstMessage
    dsimp only
    split
    · exact .shows (.hidden refused ‹_›)
    · rename_i present
      exact .refused refused (Bool.not_eq_true _ ▸ present)
  · exact .shows (.stored allowed stored)
  · exact .shows (.missing allowed missing)

theorem laterMessage?_shows {source : Source} {site : Site} {answer : Except ClusterError Json}
    (answered : (task.read source site).1 = some answer) {message : Message}
    (told : task.laterMessage? answer = some message) :
    task.descriptor.Shows source site.fleet message := by
  rcases read_cases answered with ⟨error, refused, rfl⟩ |
    ⟨allowed, ⟨document, stored, rfl⟩ | ⟨missing, rfl⟩⟩
  · unfold laterMessage? at told
    dsimp only at told
    split at told
    · obtain rfl := Option.some.inj told
      exact .hidden refused ‹_›
    · cases told
  · obtain rfl := Option.some.inj told
    exact .stored allowed stored
  · obtain rfl := Option.some.inj told
    exact .missing allowed missing

end Task
end Watch
end KubeLens
