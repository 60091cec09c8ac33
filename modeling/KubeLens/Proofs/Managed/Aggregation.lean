import KubeLens.Proofs.Managed.Ownership
import KubeLens.Proofs.Site.Evolution
import Mathlib.Data.List.Forall2

/-!
# What a collection contains

A fresh collection of managed objects contains, for each definition that a provider owns and that
declares a managed type, the objects of that type with the labels of the type, and nothing else.
-/

namespace KubeLens

/-! ## Listings -/

namespace Client

/-- What the cluster of a client answers to a list of all objects of a type. -/
def listing (client : Client) (fleet : Fleet) (type : ResourceType) :
    Except ClusterError (List Json) :=
  match client.refusal? fleet .list type.plural with
  | some error => .error error
  | none =>
    match (client.cluster fleet).listFailures.get? type.plural with
    | some message => .error (.api 500 message)
    | none =>
      if type.shelfKey ∈ (client.cluster fleet).types then
        .ok (((client.cluster fleet).shelf type).map (·.2))
      else .error Cluster.typeMissing

/-- All objects that the cluster of a client lists under a type; none when it does not. -/
def documents (client : Client) (fleet : Fleet) (type : ResourceType) : List Json :=
  (client.listing fleet type).toOption.getD []

/-- A list without a limit has one page. -/
theorem list_eq_listing (client : Client) (fleet : Fleet) (type : ResourceType) :
    (client.list fleet type none {}).1 =
      (client.listing fleet type).map fun items => { items } := by
  have whole : ∀ documents, Cluster.page documents {} = { items := documents } := by
    intro documents
    simp [Cluster.page]
  have all : ∀ shelf : Shelf, shelf.select none none = shelf.map (·.2) := by
    intro shelf
    exact congrArg _ (List.filter_eq_self.mpr fun _ _ => rfl)
  unfold Client.list listing
  cases client.refusal? fleet .list type.plural with
  | some error => rfl
  | none =>
      unfold Cluster.list Cluster.listAnswer
      dsimp only
      cases (client.cluster fleet).listFailures.get? type.plural with
      | some message => rfl
      | none =>
          simp only [Cluster.rejected?, Option.bind_none]
          by_cases known : type.shelfKey ∈ (client.cluster fleet).types
          · simp [known, whole, all, Except.map]
          · simp [known, Except.map]

end Client

namespace Fleet

namespace SameContents

/-- A list does not depend on recorded calls. -/
theorem listing {before after : Fleet} (same : before.SameContents after) (client : Client)
    (type : ResourceType) : client.listing after type = client.listing before type := by
  obtain ⟨calls, cluster⟩ := same client.context
  unfold Client.listing Client.refusal? Client.cluster
  rw [cluster]
  rfl

theorem documents {before after : Fleet} (same : before.SameContents after) (client : Client)
    (type : ResourceType) : client.documents after type = client.documents before type := by
  unfold Client.documents
  rw [same.listing]

end SameContents
end Fleet

namespace Site

/-! ## Lists of a collection -/

/-- What a list over a connection answers: a type that is not there has no objects. -/
def readAs : Except ClusterError (List Json) → Except ServiceError (List Json)
  | .ok documents => .ok documents
  | .error error => if error.isNotFound then .ok [] else .error (.cluster error)

/-- What is found on a cluster when its packages and its definitions are listed.  Packages that are
not there count as none. -/
structure Finds (fleet : Fleet) (client : Client) (providers revisions definitions : List Json) :
    Prop where
  providers_listed : readAs (client.listing fleet Crossplane.providers) = .ok providers
  revisions_listed : readAs (client.listing fleet Crossplane.providerRevisions) = .ok revisions
  definitions_listed : client.listing fleet .customResourceDefinitions = .ok definitions

theorem toOption_readAs (answer : Except ClusterError (List Json)) :
    (readAs answer).toOption.getD [] = answer.toOption.getD [] := by
  cases answer with
  | ok documents => rfl
  | error error =>
      unfold readAs
      dsimp only
      split <;> rfl

/-- A list with a given plural asks for that plural. -/
theorem listOn_given (site : Site) (handle : Handle) {type : ResourceType}
    (named : type.plural ≠ "") :
    (site.listOn handle type.groupVersion type.kind none (some type.plural) {}).1 =
      (readAs (handle.client.listing site.fleet type)).map fun items => { items } := by
  have given : site.pluralOf handle.client type.groupVersion type.kind (some type.plural) =
      (type.plural, site) := by
    simp [pluralOf, Option.filter_some, named]
  unfold listOn
  simp only [given]
  have answer := handle.client.list_eq_listing site.fleet type
  unfold listWith
  have asked : ResourceType.ofGroupVersion type.groupVersion type.kind type.plural = type := rfl
  rw [asked]
  dsimp only
  rw [answer]
  cases handle.client.listing site.fleet type with
  | ok documents => rfl
  | error error =>
      unfold readAs
      simp only [Except.map]
      split <;> rfl

theorem listPackages_fst (site : Site) (handle : Handle) (type : ResourceType)
    (named : type.plural ≠ "") :
    (site.listPackages handle type).1 = readAs (handle.client.listing site.fleet type) := by
  unfold listPackages
  dsimp only
  rw [site.listOn_given handle named]
  cases readAs (handle.client.listing site.fleet type) <;> rfl

theorem listDefinitions_fst (site : Site) (handle : Handle) :
    (site.listDefinitions handle).1 =
      (handle.client.listing site.fleet .customResourceDefinitions).mapError .cluster := by
  unfold listDefinitions listWith
  dsimp only
  rw [handle.client.list_eq_listing]
  cases handle.client.listing site.fleet .customResourceDefinitions <;> rfl

/-- The objects of a type with its labels; a list that fails gives none. -/
theorem managedBatch_fst (site : Site) (handle : Handle) {type : ResourceType}
    (named : type.plural ≠ "") :
    (site.managedBatch handle type).1 =
      (handle.client.documents site.fleet type).map (Managed.labelled type) := by
  have listed := site.listOn_given handle named
  have read := toOption_readAs (handle.client.listing site.fleet type)
  unfold managedBatch Client.documents
  rw [← read]
  cases answer : readAs (handle.client.listing site.fleet type) with
  | ok documents =>
      rw [answer] at listed
      split <;> rename_i found <;> rw [found] at listed <;> cases listed
      rfl
  | error error =>
      rw [answer] at listed
      split <;> rename_i found <;> rw [found] at listed <;> cases listed
      rfl

theorem managedBatches_fst (handle : Handle) (types : List ResourceType) (site : Site)
    (named : ∀ type ∈ types, type.plural ≠ "") :
    (managedBatches handle types site).1 = types.map fun type =>
      (handle.client.documents site.fleet type).map (Managed.labelled type) := by
  induction types generalizing site with
  | nil => rfl
  | cons type rest ih =>
      unfold managedBatches
      dsimp only
      rw [site.managedBatch_fst handle (named type List.mem_cons_self),
        ih _ fun other later => named other (List.mem_cons_of_mem _ later)]
      have same := (site.managedBatch_evolves handle type).sameContents
      rw [List.map_cons]
      congr 1
      apply List.map_congr_left
      intro other _
      rw [same.documents]

end Site

namespace Managed

/-! ## Definitions -/

/-- What a definition contributes to a collection: the objects of the type that it declares, if a
provider owns it. -/
inductive Contributes (client : Client) (fleet : Fleet) (providers revisions : List Json)
    (definition : Json) : List Json → Prop
  | declared (type : ResourceType) (items : List Json)
      (provided : Provided providers revisions definition) (declares : Declares definition type)
      (labels : List.Forall₂ (Labels type) (client.documents fleet type) items) :
      Contributes client fleet providers revisions definition items
  | unprovided (foreign : ¬Provided providers revisions definition) :
      Contributes client fleet providers revisions definition []
  | undeclared (unmanaged : ∀ type, ¬Declares definition type) :
      Contributes client fleet providers revisions definition []

variable (client : Client) (fleet : Fleet) (providers revisions : List Json)

/-- The objects of a type, with its labels. -/
def batch (type : ResourceType) : List Json :=
  (client.documents fleet type).map (labelled type)

/-- What a definition adds to a collection. -/
def contribution (definition : Json) : List Json :=
  (types providers revisions [definition]).flatMap fun type =>
    (client.documents fleet type).map (labelled type)

theorem types_cons (definition : Json) (rest : List Json) :
    types providers revisions (definition :: rest) =
      types providers revisions [definition] ++ types providers revisions rest := by
  unfold types
  rw [← List.filterMap_append, ← List.filter_append]
  rfl

/-- A type of some definitions is declared by one of them that is provided. -/
theorem mem_types {definitions : List Json} {type : ResourceType} :
    type ∈ types providers revisions definitions ↔
      ∃ definition ∈ definitions,
        Provided providers revisions definition ∧ Declares definition type := by
  unfold types
  rw [List.mem_filterMap]
  simp only [List.mem_filter, isProvided_iff, type?_eq_some_iff, and_assoc]

variable {providers revisions} in
theorem plural_of_mem_types {definitions : List Json} {type : ResourceType}
    (present : type ∈ types providers revisions definitions) : type.plural ≠ "" := by
  obtain ⟨_, _, _, declares⟩ := (mem_types providers revisions).mp present
  exact declares.plural_filled

/-- What a definition adds is what it contributes. -/
theorem contributes_contribution (definition : Json) :
    Contributes client fleet providers revisions definition
      (contribution client fleet providers revisions definition) := by
  unfold contribution types
  dsimp only
  by_cases provided : Provided providers revisions definition
  · rw [List.filter_cons_of_pos (isProvided_iff.mpr provided)]
    cases declared : type? definition with
    | none =>
        rw [List.filter_nil, List.filterMap_cons_none declared]
        refine .undeclared ?_
        intro type declares
        rw [type?_eq_some_iff.mpr declares] at declared
        cases declared
    | some type =>
        rw [List.filter_nil, List.filterMap_cons_some declared, List.filterMap_nil,
          List.flatMap_singleton]
        refine .declared type _ provided (type?_eq_some_iff.mp declared) ?_
        rw [List.forall₂_map_right_iff]
        apply List.forall₂_same.mpr
        intro object _
        exact labels_labelled type object
  · rw [List.filter_cons_of_neg (mt isProvided_iff.mp provided)]
    exact .unprovided provided

/-- The objects of all types are what the definitions add. -/
theorem flatten_types (definitions : List Json) :
    ((types providers revisions definitions).map fun type =>
      (client.documents fleet type).map (labelled type)).flatten =
      (definitions.map (contribution client fleet providers revisions)).flatten := by
  induction definitions with
  | nil => rfl
  | cons definition rest ih =>
      rw [types_cons, List.map_append, List.flatten_append, ih, List.map_cons, List.flatten_cons,
        contribution, List.flatMap_def]

end Managed

namespace Site

/-! ## Collections -/

variable {providers revisions definitions : List Json}

theorem Finds.of_sameContents {before after : Fleet} {client : Client}
    (finds : Finds before client providers revisions definitions)
    (same : before.SameContents after) : Finds after client providers revisions definitions := by
  constructor
  · rw [same.listing]
    exact finds.providers_listed
  · rw [same.listing]
    exact finds.revisions_listed
  · rw [same.listing]
    exact finds.definitions_listed

/-- The managed types of a cluster are those of the definitions that are found. -/
theorem managedTypes_fst {site : Site} {handle : Handle}
    (finds : Finds site.fleet handle.client providers revisions definitions) :
    (site.managedTypes handle).1 = .ok (Managed.types providers revisions definitions) := by
  unfold managedTypes
  have providersAnswer := site.listPackages_fst handle Crossplane.providers (by decide)
  have providersKeep := (site.listPackages_evolves handle Crossplane.providers).sameContents
  rw [finds.providers_listed] at providersAnswer
  rcases providersCall : site.listPackages handle Crossplane.providers with ⟨answer, second⟩
  rw [providersCall] at providersAnswer providersKeep
  cases providersAnswer
  have findsSecond := finds.of_sameContents providersKeep
  have revisionsAnswer :=
    second.listPackages_fst handle Crossplane.providerRevisions (by decide)
  have revisionsKeep :=
    (second.listPackages_evolves handle Crossplane.providerRevisions).sameContents
  rw [findsSecond.revisions_listed] at revisionsAnswer
  rcases revisionsCall : second.listPackages handle Crossplane.providerRevisions with
    ⟨answer, third⟩
  rw [revisionsCall] at revisionsAnswer revisionsKeep
  cases revisionsAnswer
  have findsThird := findsSecond.of_sameContents revisionsKeep
  have definitionsAnswer := third.listDefinitions_fst handle
  rw [findsThird.definitions_listed] at definitionsAnswer
  rcases definitionsCall : third.listDefinitions handle with ⟨answer, last⟩
  rw [definitionsCall] at definitionsAnswer
  cases definitionsAnswer
  dsimp only
  rw [revisionsCall]
  dsimp only
  rw [definitionsCall]

/-- A collection arranges the objects of the types that the definitions of the cluster declare. -/
theorem collectManaged_eq {site : Site} {handle : Handle}
    (finds : Finds site.fleet handle.client providers revisions definitions) :
    (site.collectManaged handle).1 = .ok (Managed.arrange
      ((Managed.types providers revisions definitions).map
        (Managed.batch handle.client site.fleet))) := by
  have typed := managedTypes_fst finds
  have same := (site.managedTypes_evolves handle).sameContents
  rcases typesCall : site.managedTypes handle with ⟨answer, later⟩
  rw [typesCall] at typed same
  cases typed
  unfold collectManaged
  rw [typesCall]
  dsimp only
  rw [managedBatches_fst handle _ later fun type present => Managed.plural_of_mem_types present]
  unfold Managed.batch
  simp only [same.documents]

/-- The items of a collection are what the definitions of the cluster add. -/
theorem collectManaged_fst {site : Site} {handle : Handle}
    (finds : Finds site.fleet handle.client providers revisions definitions) :
    ∃ items, (site.collectManaged handle).1 = .ok items ∧
      items.Perm (definitions.map
        (Managed.contribution handle.client site.fleet providers revisions)).flatten := by
  refine ⟨_, collectManaged_eq finds, ?_⟩
  rw [← Managed.flatten_types]
  exact List.mergeSort_perm _ _

end Site
end KubeLens
