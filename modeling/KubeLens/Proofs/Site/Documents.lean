import KubeLens.Proofs.Site.Evolution

/-!
# Where documents come from

The documents that a request returns are held by the cluster that it asks.  Requests change no
document, so it does not matter at which time of the request they are looked for.
-/

namespace KubeLens

/-! ## Clusters -/

/-- Whether a document is stored in a cluster. -/
def Cluster.Holds (cluster : Cluster) (document : Json) : Prop :=
  ∃ (type : ResourceType) (key : ObjectKey), (key, document) ∈ cluster.shelf type

/-- Whether a document is stored in a cluster that becomes an object with the labels of some
type. -/
def Cluster.HoldsUnlabelled (cluster : Cluster) (item : Json) : Prop :=
  ∃ type document, cluster.Holds document ∧ item = Managed.labelled type document

namespace Cluster

variable {cluster : Cluster}

theorem page_subset (documents : List Json) (query : ListQuery) :
    (page documents query).items ⊆ documents :=
  fun _ listed => List.mem_of_mem_take (List.mem_of_mem_drop listed)

theorem holds_of_select {type : ResourceType} {space selector : Option String} {document : Json}
    (selected : document ∈ (cluster.shelf type).select space selector) :
    cluster.Holds document := by
  obtain ⟨⟨key, _⟩, stored, rfl⟩ := List.mem_map.mp selected
  exact ⟨type, key, (List.mem_filter.mp stored).1⟩

theorem listAnswer_holds {type : ResourceType} {space : Option String} {query : ListQuery}
    {page : ObjectPage} (answer : cluster.listAnswer type space query = .ok page) :
    ∀ document ∈ page.items, cluster.Holds document := by
  unfold listAnswer at answer
  split at answer
  · cases answer
  · split at answer
    · cases answer
    · split at answer
      · cases answer
        exact fun document listed => holds_of_select (page_subset _ _ listed)
      · cases answer

theorem getAnswer_holds {type : ResourceType} {space : Option String} {name : String}
    {document : Json} (answer : cluster.getAnswer type space name = .ok document) :
    cluster.Holds document := by
  unfold getAnswer at answer
  split at answer
  · rename_i found
    cases answer
    exact ⟨type, _, Assoc.mem_of_get? found⟩
  · cases answer

end Cluster

namespace Fleet.SameContents

variable {before after : Fleet} (same : before.SameContents after) (context : String)

include same

/-- Requests leave documents where they are. -/
theorem holds_iff (document : Json) :
    (after.cluster context).Holds document ↔ (before.cluster context).Holds document := by
  obtain ⟨calls, cluster⟩ := same context
  rw [cluster]
  rfl

theorem holdsUnlabelled_iff (item : Json) :
    (after.cluster context).HoldsUnlabelled item ↔
      (before.cluster context).HoldsUnlabelled item := by
  unfold Cluster.HoldsUnlabelled
  simp only [same.holds_iff context]

end Fleet.SameContents

/-! ## Calls -/

namespace Client

variable {client : Client} {fleet : Fleet}

theorem list_holds {type : ResourceType} {space : Option String} {query : ListQuery}
    {page : ObjectPage} (answer : (client.list fleet type space query).1 = .ok page) :
    ∀ document ∈ page.items, (client.cluster fleet).Holds document := by
  unfold Client.list at answer
  split at answer
  · cases answer
  · exact Cluster.listAnswer_holds answer

theorem get_holds {type : ResourceType} {space : Option String} {name : String} {document : Json}
    (answer : (client.get fleet type space name).1 = some (.ok document)) :
    (client.cluster fleet).Holds document := by
  unfold Client.get at answer
  split at answer
  · cases answer
  · unfold Cluster.get at answer
    dsimp only at answer
    split at answer
    · cases answer
    · exact Cluster.getAnswer_holds (Option.some.inj answer)

theorem getBuiltin_holds {kind : BuiltinKind} {space : Option String} {name : String}
    {document : Json} (answer : (client.getBuiltin fleet kind space name).1 = .ok document) :
    (client.cluster fleet).Holds document := by
  unfold Client.getBuiltin at answer
  split at answer
  · cases answer
  · unfold Cluster.getBuiltin Cluster.builtinAnswer at answer
    dsimp only at answer
    split at answer
    · cases answer
    · exact Cluster.getAnswer_holds answer

end Client

/-! ## Requests -/

namespace Site

variable {site : Site}

theorem listOn_holds {handle : Handle} {gv : GroupVersion} {kind : String}
    {space plural? : Option String} {query : ListQuery} {page : ObjectPage}
    (answer : (site.listOn handle gv kind space plural? query).1 = .ok page) :
    ∀ document ∈ page.items, (handle.client.cluster site.fleet).Holds document := by
  have named := (site.pluralOf_evolves handle.client gv kind plural?).sameContents
  unfold Site.listOn at answer
  dsimp only at answer
  intro document listed
  refine (named.holds_iff _ document).mp ?_
  split at answer
  · rename_i found
    cases answer
    exact Client.list_holds found document listed
  · rename_i error _
    by_cases absent : error.isNotFound = true
    · rw [if_pos absent] at answer
      cases answer
      cases listed
    · rw [if_neg absent] at answer
      cases answer

theorem getGeneric_holds {client : Client} {request : GetRequest} {document : Json}
    (answer : (site.getGeneric client request).1 = some (.ok document)) :
    (client.cluster site.fleet).Holds document := by
  unfold Site.getGeneric at answer
  split at answer
  · cases answer
  · rename_i gv _
    have named := (site.pluralOf_evolves client gv request.kind request.plural?).sameContents
    refine (named.holds_iff _ document).mp ?_
    obtain ⟨got, found, same⟩ := Option.map_eq_some_iff.mp answer
    cases got with
    | error error => cases same
    | ok _ =>
        cases same
        exact Client.get_holds found

theorem eventCandidates_holds (client : Client) (kind name space : String) :
    ∀ document ∈ (site.eventCandidates client kind name space).1,
      (client.cluster site.fleet).Holds document := by
  have narrow := (site.listWith_evolves client .events (some space)
    (.ofSelector (EventLookup.narrowSelector kind name space))).sameContents
  unfold Site.eventCandidates
  split
  · rename_i page after answer
    exact Client.list_holds (congrArg Prod.fst answer)
  · rename_i after answer
    rw [answer] at narrow
    split
    · rename_i answer
      intro document listed
      refine (narrow.holds_iff _ document).mp ?_
      exact Client.list_holds (congrArg Prod.fst answer) document listed
    · exact List.forall_mem_nil _

/-! ## Managed objects -/

theorem managedBatch_labels (handle : Handle) (type : ResourceType) :
    ∀ item ∈ (site.managedBatch handle type).1,
      (handle.client.cluster site.fleet).HoldsUnlabelled item := by
  unfold Site.managedBatch
  split
  · rename_i answer
    intro item listed
    obtain ⟨document, stored, rfl⟩ := List.mem_map.mp listed
    exact ⟨type, document, listOn_holds (congrArg Prod.fst answer) document stored, rfl⟩
  · exact List.forall_mem_nil _

theorem managedBatches_labels (handle : Handle) (types : List ResourceType) :
    ∀ batch ∈ (managedBatches handle types site).1, ∀ item ∈ batch,
      (handle.client.cluster site.fleet).HoldsUnlabelled item := by
  induction types generalizing site with
  | nil => exact List.forall_mem_nil _
  | cons type rest ih =>
      intro batch collected
      rcases List.mem_cons.mp collected with rfl | later
      · exact managedBatch_labels handle type
      · intro item listed
        have same := (site.managedBatch_evolves handle type).sameContents
        exact (same.holdsUnlabelled_iff _ item).mp (ih batch later item listed)

theorem collectManaged_labels {handle : Handle} {items : List Json}
    (answer : (site.collectManaged handle).1 = .ok items) :
    ∀ item ∈ items, (handle.client.cluster site.fleet).HoldsUnlabelled item := by
  have same := (site.managedTypes_evolves handle).sameContents
  unfold Site.collectManaged at answer
  split at answer
  · cases answer
  · rename_i types after typed
    rw [typed] at same
    cases answer
    intro item listed
    obtain ⟨batch, collected, stored⟩ := List.mem_flatten.mp (List.mem_mergeSort.mp listed)
    exact (same.holdsUnlabelled_iff _ item).mp
      (managedBatches_labels handle types batch collected item stored)

end Site
end KubeLens
