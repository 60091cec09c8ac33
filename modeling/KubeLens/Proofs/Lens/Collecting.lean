import KubeLens.Proofs.Lens.Run
import KubeLens.Proofs.Managed.Aggregation

/-!
# Fresh collections

When the managed objects of a context are collected anew, the answer contains what each definition
of its cluster contributes, and nothing else.
-/

namespace KubeLens
namespace Lens

/-- A collection that is not kept is made anew. -/
theorem managed_anew (lens : Lens) (clock : Nat) (context? : Option String) (force : Bool)
    {handle : Handle} {items : List Json}
    (resolved : (lens.site.resolve context?).1 = .ok handle)
    (stale : force = true ∨
      lens.cache.fresh? lens.site.settings.cacheTtl clock handle.context = none)
    (collected : ((lens.site.resolve context?).2.collectManaged handle).1 = .ok items) :
    (lens.managed clock context? force).1 = .ok ⟨items, false, clock⟩ := by
  have settings : (lens.site.resolve context?).2.settings = lens.site.settings := rfl
  rcases resolveCall : lens.site.resolve context? with ⟨answer, site⟩
  rw [resolveCall] at resolved settings collected
  cases resolved
  have unkept : (if force then none else
      lens.cache.fresh? site.settings.cacheTtl clock handle.context) = none := by
    rw [settings]
    rcases stale with rfl | expired
    · rfl
    · rw [expired, ite_self]
  unfold managed Site.managed
  rw [resolveCall]
  dsimp only at collected ⊢
  rw [unkept]
  dsimp only
  split <;> rename_i call <;> rw [call] at collected <;> cases collected
  rfl

/-- The items of a fresh collection are, in some order, what each definition of the cluster
contributes.  Packages that are not there count as none; a type whose list fails has no objects. -/
theorem managed_exact (lens : Lens) (clock : Nat) (context? : Option String) (force : Bool)
    {handle : Handle} {providers revisions definitions : List Json}
    (resolved : (lens.site.resolve context?).1 = .ok handle)
    (stale : force = true ∨
      lens.cache.fresh? lens.site.settings.cacheTtl clock handle.context = none)
    (finds : Site.Finds lens.site.fleet handle.client providers revisions definitions) :
    ∃ items batches,
      (lens.managed clock context? force).1 = .ok ⟨items, false, clock⟩ ∧
      List.Forall₂ (Managed.Contributes handle.client lens.site.fleet providers revisions)
        definitions batches ∧
      items.Perm batches.flatten := by
  have settings : (lens.site.resolve context?).2.settings = lens.site.settings := rfl
  have same := (lens.site.resolve_evolves context?).sameContents
  rcases resolveCall : lens.site.resolve context? with ⟨answer, site⟩
  rw [resolveCall] at resolved settings same
  cases resolved
  obtain ⟨items, collected, exactly⟩ := Site.collectManaged_fst (finds.of_sameContents same)
  refine ⟨items, _, ?_, ?_, exactly⟩
  · have unkept : (if force then none else
        lens.cache.fresh? site.settings.cacheTtl clock handle.context) = none := by
      rw [settings]
      rcases stale with rfl | expired
      · rfl
      · rw [expired, ite_self]
    unfold managed Site.managed
    rw [resolveCall]
    dsimp only
    rw [unkept]
    dsimp only
    split <;> rename_i call <;> rw [call] at collected <;> cases collected
    rfl
  · rw [List.forall₂_map_right_iff]
    apply List.forall₂_same.mpr
    intro definition _
    have contributes := Managed.contributes_contribution handle.client lens.site.fleet providers
      revisions definition
    unfold Managed.contribution at contributes ⊢
    simpa only [same.documents] using contributes

/-- Buckets, which a revision of the provider `aws` installs. -/
def bucketType : ResourceType :=
  ⟨"s3.aws.upbound.io", "v1", "Bucket", "buckets"⟩

/-- An object with an owner among the packages. -/
def installed (name ownerKind owner : String) (rest : List (String × Json)) : Json :=
  .obj (("metadata", .obj [("name", .str name), ("ownerReferences", .arr [.obj
    [("apiVersion", .str "pkg.crossplane.io/v1"), ("kind", .str ownerKind),
      ("name", .str owner)]])]) :: rest)

/-- An object without owners. -/
def unowned (name : String) : Json :=
  .obj [("metadata", .obj [("name", .str name)])]

/-- A definition of buckets without a version. -/
def bucketDefinition : Json :=
  installed "buckets" "ProviderRevision" "aws-1" [("spec", .obj
    [("group", .str bucketType.group), ("names", .obj
      [("kind", .str bucketType.kind), ("plural", .str bucketType.plural)])])]

/-- A cluster with one bucket. -/
def bucketCluster : Cluster :=
  { types := [Crossplane.providers.shelfKey, Crossplane.providerRevisions.shelfKey,
      ResourceType.customResourceDefinitions.shelfKey, bucketType.shelfKey]
    shelves := [
      (Crossplane.providers.shelfKey, [(⟨none, "aws"⟩, unowned "aws")]),
      (Crossplane.providerRevisions.shelfKey,
        [(⟨none, "aws-1"⟩, installed "aws-1" "Provider" "aws" [])]),
      (ResourceType.customResourceDefinitions.shelfKey, [(⟨none, "buckets"⟩, bucketDefinition)]),
      (bucketType.shelfKey, [(⟨none, "logs"⟩, unowned "logs")])] }

/-- A service whose only context has one bucket. -/
def withBucket : Lens :=
  let lens := onHost (.defaults none) (.storing ["dev"])
  { lens with site.fleet.clusters := [("dev", bucketCluster)] }

/-- The bucket is collected. -/
theorem managed_exact_bucket :
    ∃ item, (withBucket.managed 0 (some "dev") false).1 = .ok ⟨[item], false, 0⟩ ∧
      Managed.Labels bucketType (unowned "logs") item := by
  have resolved : (withBucket.site.resolve (some "dev")).1 = .ok ⟨"dev", ⟨"dev", false⟩⟩ := by
    decide
  have finds : Site.Finds withBucket.site.fleet ⟨"dev", false⟩ [unowned "aws"]
      [installed "aws-1" "Provider" "aws" []] [bucketDefinition] :=
    ⟨rfl, rfl, rfl⟩
  have documents : Client.documents ⟨"dev", false⟩ withBucket.site.fleet bucketType =
      [unowned "logs"] := by
    rfl
  obtain ⟨items, batches, answer, contributes, exactly⟩ :=
    managed_exact withBucket 0 (some "dev") false resolved (.inr rfl) finds
  have declared : Managed.type? bucketDefinition = some bucketType := by
    rfl
  cases contributes with
  | cons first none =>
      cases none
      rw [List.flatten_singleton] at exactly
      cases first with
      | declared type _ _ declares labels =>
          have same := (Managed.type?_eq_some_iff.mpr declares).symm.trans declared
          cases same
          rw [documents] at labels
          cases labels with
          | cons labels none =>
              cases none
              rw [List.perm_singleton.mp exactly] at answer
              exact ⟨_, answer, labels⟩
      | unprovided foreign => exact absurd (Managed.isProvided_iff.mp (by rfl)) foreign
      | undeclared unmanaged =>
          exact absurd (Managed.type?_eq_some_iff.mp declared) (unmanaged bucketType)

end Lens
end KubeLens
