import KubeLens.Proofs.Lens.Collecting
import KubeLens.Proofs.Managed.Gathering

/-!
# Collections without a schedule

When the managed types have different labels and all their objects are JSON objects, a fresh
collection has the same items in the same order, however many lists run at a time and in whatever
order they finish.
-/

namespace KubeLens
namespace Lens

open Managed

/-- The objects of a type have its label, if all its documents are JSON objects. -/
theorem label_of_mem_batch {client : Client} {fleet : Fleet} {type : ResourceType}
    (objects : ∀ document ∈ client.documents fleet type, ∃ members, document = .obj members) :
    ∀ item ∈ batch client fleet type, itemLabel item = label type := by
  intro item present
  obtain ⟨document, listed, rfl⟩ := List.mem_map.mp present
  obtain ⟨members, object⟩ := objects document listed
  exact itemLabel_labelled type object

/-- A fresh collection is sorted, and it is what every way of listing the types side by side comes
to.  With at least one list at a time none of them is stuck, and with enough of them the lists can
finish in any order. -/
theorem managed_unscheduled (lens : Lens) (clock : Nat) (context? : Option String) (force : Bool)
    {handle : Handle} {providers revisions definitions : List Json}
    (resolved : (lens.site.resolve context?).1 = .ok handle)
    (stale : force = true ∨
      lens.cache.fresh? lens.site.settings.cacheTtl clock handle.context = none)
    (finds : Site.Finds lens.site.fleet handle.client providers revisions definitions)
    (distinct : ((types providers revisions definitions).map label).Nodup)
    (objects : ∀ type ∈ types providers revisions definitions,
      ∀ document ∈ handle.client.documents lens.site.fleet type,
        ∃ members, document = .obj members) :
    ∃ items, (lens.managed clock context? force).1 = .ok ⟨items, false, clock⟩ ∧
      items.Pairwise (fun a b => sortKey a ≤ sortKey b) ∧
      ∀ limit begun, 1 ≤ limit → lens.site.fleet.SameContents begun.fleet →
        let start : Gathering := { site := begun, waiting := types providers revisions definitions }
        (∀ gathering, Gathering.Moves handle limit start gathering →
          (gathering.Complete → arrange gathering.batches = items) ∧
          ∃ last, Gathering.Moves handle limit gathering last ∧ last.Complete) ∧
        (start.waiting.length ≤ limit → ∀ order, order.Perm start.waiting →
          ∃ last, Gathering.Moves handle limit start last ∧ last.Complete ∧
            last.finished.map (·.1) = order) := by
  have same := (lens.site.resolve_evolves context?).sameContents
  have collected := Site.collectManaged_eq (finds.of_sameContents same)
  have answer := lens.managed_anew clock context? force resolved stale collected
  have batches : batch handle.client (lens.site.resolve context?).2.fleet =
      batch handle.client lens.site.fleet := by
    funext type
    unfold batch
    rw [same.documents]
  rw [batches] at answer
  refine ⟨_, answer, arrange_sorted _, fun limit begun room steady => ?_⟩
  intro start
  refine ⟨fun gathering moves => ⟨fun complete => ?_, Gathering.moves_complete room gathering⟩,
    fun enough order perm => Gathering.moves_any_order enough perm begun⟩
  have accounts := (moves.accounts (fun _ => plural_of_mem_types) steady
    (Gathering.Accounts.start _ begun _)).2
  obtain ⟨order, perm, found⟩ := accounts.complete complete
  rw [found]
  exact arrange_perm perm distinct fun type present => label_of_mem_batch (objects type present)

/-- Queues, which the revision of `aws` installs too. -/
def queueType : ResourceType :=
  ⟨"sqs.aws.upbound.io", "v1beta1", "Queue", "queues"⟩

/-- A definition of queues. -/
def queueDefinition : Json :=
  installed "queues" "ProviderRevision" "aws-1" [("spec", .obj
    [("group", .str queueType.group), ("version", .str queueType.version), ("names", .obj
      [("kind", .str queueType.kind), ("plural", .str queueType.plural)])])]

/-- A cluster with two queues, one of which has no name, and one bucket. -/
def queueCluster : Cluster :=
  { bucketCluster with
    types := bucketCluster.types ++ [queueType.shelfKey]
    shelves :=
      Assoc.put
        (Assoc.put bucketCluster.shelves ResourceType.customResourceDefinitions.shelfKey
          [(⟨none, "queues"⟩, queueDefinition), (⟨none, "buckets"⟩, bucketDefinition)])
        queueType.shelfKey [(⟨none, "jobs"⟩, unowned "jobs"), (⟨none, "lost"⟩, .obj [])] }

/-- A service whose only context has the queues and the bucket. -/
def withQueues : Lens :=
  { withBucket with site.fleet.clusters := [("dev", queueCluster)] }

/-- Though queues are defined first, their list may finish last; the items are the same. -/
theorem managed_unscheduled_queues :
    ∃ items, (withQueues.managed 0 (some "dev") false).1 = .ok ⟨items, false, 0⟩ ∧
      ∃ last, Gathering.Moves ⟨"dev", ⟨"dev", false⟩⟩ 2
          { site := withQueues.site, waiting := [queueType, bucketType] } last ∧
        last.finished.map (·.1) = [bucketType, queueType] ∧ arrange last.batches = items := by
  have resolved : (withQueues.site.resolve (some "dev")).1 = .ok ⟨"dev", ⟨"dev", false⟩⟩ := by
    decide
  have finds : Site.Finds withQueues.site.fleet ⟨"dev", false⟩ [unowned "aws"]
      [installed "aws-1" "Provider" "aws" []] [queueDefinition, bucketDefinition] :=
    ⟨rfl, rfl, rfl⟩
  have declared : types [unowned "aws"] [installed "aws-1" "Provider" "aws" []]
      [queueDefinition, bucketDefinition] = [queueType, bucketType] := by
    rfl
  have queues : Client.documents ⟨"dev", false⟩ withQueues.site.fleet queueType =
      [unowned "jobs", .obj []] := by
    rfl
  have buckets : Client.documents ⟨"dev", false⟩ withQueues.site.fleet bucketType =
      [unowned "logs"] := by
    rfl
  obtain ⟨items, answer, _, gathered⟩ :=
    managed_unscheduled withQueues 0 (some "dev") false resolved (.inr rfl) finds
      (by rw [declared]; decide)
      (by rw [declared]; simp [queues, buckets, unowned])
  obtain ⟨same, anyOrder⟩ := gathered 2 withQueues.site (by decide) (.refl _)
  rw [declared] at same anyOrder
  obtain ⟨last, moves, complete, order⟩ :=
    anyOrder (by decide) [bucketType, queueType] (.swap _ _ _)
  exact ⟨items, answer, last, moves, order, (same last moves).1 complete⟩

end Lens
end KubeLens
