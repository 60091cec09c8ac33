import KubeLens.Proofs.Site.Evolution

/-!
# Calls to one cluster

A client calls the cluster of its context and no other one.  A request that holds on to one
connection therefore leaves all other clusters as they are: what they hold, what they recorded,
and their feeds.  Looking for a connection calls no cluster at all.
-/

namespace KubeLens

/-- Whether all clusters but the one of a context are the same. -/
def Fleet.OnlyAt (context : String) (before after : Fleet) : Prop :=
  ∀ other, other ≠ context → after.cluster other = before.cluster other

namespace Fleet.OnlyAt

variable {context : String}

theorem refl (fleet : Fleet) : fleet.OnlyAt context fleet :=
  fun _ _ => rfl

theorem trans {first second third : Fleet} (earlier : OnlyAt context first second)
    (later : OnlyAt context second third) : OnlyAt context first third :=
  fun other different => (later other different).trans (earlier other different)

theorem put (fleet : Fleet) (context : String) (cluster : Cluster) :
    OnlyAt context fleet (fleet.put context cluster) :=
  fun _ different => fleet.cluster_put_of_ne cluster different.symm

theorem of_clusters {before after : Fleet} (same : after.clusters = before.clusters) :
    OnlyAt context before after := by
  intro other _
  unfold Fleet.cluster
  rw [same]

end Fleet.OnlyAt

namespace Client

variable (client : Client) (fleet : Fleet)

theorem list_onlyAt (type : ResourceType) (space : Option String) (query : ListQuery) :
    fleet.OnlyAt client.context (client.list fleet type space query).2 := by
  unfold Client.list
  split
  · exact .refl fleet
  · exact .put fleet client.context _

theorem get_onlyAt (type : ResourceType) (space : Option String) (name : String) :
    fleet.OnlyAt client.context (client.get fleet type space name).2 := by
  unfold Client.get
  split
  · exact .refl fleet
  · exact .put fleet client.context _

theorem getBuiltin_onlyAt (kind : BuiltinKind) (space : Option String) (name : String) :
    fleet.OnlyAt client.context (client.getBuiltin fleet kind space name).2 := by
  unfold Client.getBuiltin
  split
  · exact .refl fleet
  · exact .put fleet client.context _

theorem probe_onlyAt : fleet.OnlyAt client.context (client.probe fleet).2 := by
  unfold Client.probe
  split
  · exact .refl fleet
  · exact .put fleet client.context _

theorem watch_onlyAt (type : ResourceType) (space : Option String) (name : String) :
    fleet.OnlyAt client.context (client.watch fleet type space name).2 :=
  .put fleet client.context _

end Client

namespace Plurals

theorem discover_onlyAt (client : Client) (gv : GroupVersion) (kind : String)
    (sources : List ResourceType) (fleet : Fleet) :
    fleet.OnlyAt client.context (discover client gv kind sources fleet).2 := by
  induction sources generalizing fleet with
  | nil => exact .refl fleet
  | cons source rest ih =>
      have listed := client.list_onlyAt fleet source none {}
      unfold discover
      dsimp only
      split
      · exact listed.trans (ih _)
      · split
        · exact listed
        · exact listed.trans (ih _)

theorem resolve_onlyAt (plurals : Plurals) (client : Client) (fleet : Fleet)
    (gv : GroupVersion) (kind : String) :
    fleet.OnlyAt client.context (plurals.resolve client fleet gv kind).2.2 := by
  have discovered := discover_onlyAt client gv kind (sources gv) fleet
  unfold Plurals.resolve
  split
  · exact .refl fleet
  · split <;> simp_all

end Plurals

namespace Site

/-! ## Looking for a connection -/

theorem ensureActive_clusters (site : Site) (name : String) :
    (site.board.ensureActive site.settings site.host site.fleet name).2.2.clusters =
      site.fleet.clusters := by
  unfold Switchboard.ensureActive Switchboard.activate Switchboard.dial
  dsimp only
  split
  · rfl
  · split
    · rfl
    · split
      · rfl
      · split
        · rfl
        · split <;> rename_i connected <;> exact congrArg (·.2.clusters) connected.symm

theorem setActive_clusters (site : Site) (name : String) :
    (site.setActive name).2.fleet.clusters = site.fleet.clusters :=
  site.ensureActive_clusters name

/-- Looking for a connection calls no cluster. -/
theorem resolve_clusters (site : Site) (context? : Option String) :
    (site.resolve context?).2.fleet.clusters = site.fleet.clusters := by
  unfold Site.resolve Switchboard.resolve
  dsimp only
  split
  · exact site.ensureActive_clusters _
  · split
    · rfl
    · exact site.ensureActive_clusters ""

/-! ## Holding on to a connection -/

/-- What is done over one connection: it calls the cluster of a context, and changes neither the
switchboard nor what it looks at. -/
structure Within (context : String) (before after : Site) : Prop where
  settings : after.settings = before.settings
  host : after.host = before.host
  board : after.board = before.board
  fleet : before.fleet.OnlyAt context after.fleet

namespace Within

variable {context : String}

theorem refl (site : Site) : site.Within context site :=
  ⟨rfl, rfl, rfl, .refl site.fleet⟩

theorem trans {first second third : Site} (earlier : first.Within context second)
    (later : second.Within context third) : first.Within context third :=
  ⟨later.settings.trans earlier.settings, later.host.trans earlier.host,
    later.board.trans earlier.board, earlier.fleet.trans later.fleet⟩

end Within

theorem pluralOf_within (site : Site) (client : Client) (gv : GroupVersion) (kind : String)
    (given : Option String) :
    site.Within client.context (site.pluralOf client gv kind given).2 := by
  unfold Site.pluralOf
  split
  · exact .refl site
  · exact ⟨rfl, rfl, rfl, site.plurals.resolve_onlyAt client site.fleet gv kind⟩

theorem listWith_within (site : Site) (client : Client) (type : ResourceType)
    (space : Option String) (query : ListQuery) :
    site.Within client.context (site.listWith client type space query).2 :=
  ⟨rfl, rfl, rfl, client.list_onlyAt site.fleet type space query⟩

theorem getWith_within (site : Site) (client : Client) (type : ResourceType)
    (space : Option String) (name : String) :
    site.Within client.context (site.getWith client type space name).2 :=
  ⟨rfl, rfl, rfl, client.get_onlyAt site.fleet type space name⟩

theorem getBuiltinWith_within (site : Site) (client : Client) (kind : BuiltinKind)
    (space : Option String) (name : String) :
    site.Within client.context (site.getBuiltinWith client kind space name).2 :=
  ⟨rfl, rfl, rfl, client.getBuiltin_onlyAt site.fleet kind space name⟩

theorem listOn_within (site : Site) (handle : Handle) (gv : GroupVersion) (kind : String)
    (space plural? : Option String) (query : ListQuery) :
    site.Within handle.client.context (site.listOn handle gv kind space plural? query).2 := by
  have named := site.pluralOf_within handle.client gv kind plural?
  unfold Site.listOn
  dsimp only
  split <;> exact named.trans (listWith_within _ _ _ _ _)

theorem getGeneric_within (site : Site) (client : Client) (request : GetRequest) :
    site.Within client.context (site.getGeneric client request).2 := by
  unfold Site.getGeneric
  split
  · exact .refl site
  · exact (site.pluralOf_within client _ request.kind request.plural?).trans
      (getWith_within _ _ _ _ _)

theorem eventCandidates_within (site : Site) (client : Client) (kind name space : String) :
    site.Within client.context (site.eventCandidates client kind name space).2 := by
  have narrow := site.listWith_within client .events (some space)
    (.ofSelector (EventLookup.narrowSelector kind name space))
  unfold Site.eventCandidates
  split
  · rename_i first
    rwa [first] at narrow
  · rename_i afterNarrow first
    have wide := afterNarrow.listWith_within client .events (some space)
      (.ofSelector (EventLookup.wideSelector kind name))
    rw [first] at narrow
    split <;> rename_i second <;> rw [second] at wide <;> exact narrow.trans wide

theorem managedBatch_within (site : Site) (handle : Handle) (type : ResourceType) :
    site.Within handle.client.context (site.managedBatch handle type).2 := by
  have listed := site.listOn_within handle type.groupVersion type.kind none (some type.plural) {}
  unfold Site.managedBatch
  split <;> rename_i answer <;> rwa [answer] at listed

theorem managedBatches_within (handle : Handle) (types : List ResourceType) (site : Site) :
    site.Within handle.client.context (managedBatches handle types site).2 := by
  induction types generalizing site with
  | nil => exact .refl site
  | cons type rest ih => exact (site.managedBatch_within handle type).trans (ih _)

theorem listPackages_within (site : Site) (handle : Handle) (type : ResourceType) :
    site.Within handle.client.context (site.listPackages handle type).2 :=
  site.listOn_within handle type.groupVersion type.kind none (some type.plural) {}

theorem listDefinitions_within (site : Site) (handle : Handle) :
    site.Within handle.client.context (site.listDefinitions handle).2 :=
  site.listWith_within handle.client .customResourceDefinitions none {}

theorem managedTypes_within (site : Site) (handle : Handle) :
    site.Within handle.client.context (site.managedTypes handle).2 := by
  have providers := site.listPackages_within handle Crossplane.providers
  unfold Site.managedTypes
  split
  · rename_i first
    rwa [first] at providers
  · rename_i afterProviders first
    rw [first] at providers
    have revisions := afterProviders.listPackages_within handle Crossplane.providerRevisions
    split
    · rename_i second
      rw [second] at revisions
      exact providers.trans revisions
    · rename_i afterRevisions second
      rw [second] at revisions
      have definitions := afterRevisions.listDefinitions_within handle
      split <;> rename_i third <;> rw [third] at definitions <;>
        exact (providers.trans revisions).trans definitions

theorem collectManaged_within (site : Site) (handle : Handle) :
    site.Within handle.client.context (site.collectManaged handle).2 := by
  have typed := site.managedTypes_within handle
  unfold Site.collectManaged
  split
  · rename_i answer
    rwa [answer] at typed
  · rename_i answer
    rw [answer] at typed
    exact typed.trans (managedBatches_within _ _ _)

end Site
end KubeLens
