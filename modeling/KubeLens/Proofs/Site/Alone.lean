import KubeLens.Proofs.Site.Evolution

/-!
# One cluster alone

A client sees nothing but the cluster of its context.  What a request does over one connection it
would do in the same way, and with the same answer, if there were no other cluster.  Looking for a
connection does not depend on clusters at all.
-/

namespace KubeLens

/-! ## Forgetting -/

/-- Whether an action has the same answer after something was forgotten, and comes to the same
state but for what was forgotten. -/
def Ignores {State Answer : Type} (forget : State → State) (act : State → Answer × State) : Prop :=
  ∀ state, act (forget state) = ((act state).1, forget (act state).2)

/-- A fleet with no cluster but the one of a context. -/
def Fleet.only (context : String) (fleet : Fleet) : Fleet :=
  { fleet with clusters := [(context, fleet.cluster context)] }

@[simp] theorem Fleet.cluster_only (context : String) (fleet : Fleet) :
    (fleet.only context).cluster context = fleet.cluster context := by
  simp [Fleet.only, Fleet.cluster, Assoc.get?]

@[simp] theorem Fleet.put_only (context : String) (fleet : Fleet) (cluster : Cluster) :
    (fleet.only context).put context cluster = (fleet.put context cluster).only context := by
  simp [Fleet.only, Fleet.put, Fleet.cluster, Assoc.put]

/-! ## Calls -/

namespace Client

variable (client : Client)

@[simp] theorem cluster_only (fleet : Fleet) :
    client.cluster (fleet.only client.context) = client.cluster fleet :=
  fleet.cluster_only client.context

@[simp] theorem refusal?_only (fleet : Fleet) (call : Call) (plural : String) :
    client.refusal? (fleet.only client.context) call plural =
      client.refusal? fleet call plural := by
  simp [refusal?]

theorem list_ignores (type : ResourceType) (space : Option String) (query : ListQuery) :
    Ignores (Fleet.only client.context) (client.list · type space query) := by
  intro fleet
  unfold Client.list
  simp only [refusal?_only, cluster_only, Fleet.put_only]
  split <;> rfl

theorem get_ignores (type : ResourceType) (space : Option String) (name : String) :
    Ignores (Fleet.only client.context) (client.get · type space name) := by
  intro fleet
  unfold Client.get
  simp only [refusal?_only, cluster_only, Fleet.put_only]
  split <;> rfl

theorem getBuiltin_ignores (kind : BuiltinKind) (space : Option String) (name : String) :
    Ignores (Fleet.only client.context) (client.getBuiltin · kind space name) := by
  intro fleet
  unfold Client.getBuiltin
  simp only [refusal?_only, cluster_only, Fleet.put_only]
  split <;> rfl

theorem probe_ignores : Ignores (Fleet.only client.context) client.probe := by
  intro fleet
  unfold Client.probe
  simp only [refusal?_only, cluster_only, Fleet.put_only]
  split <;> rfl

theorem watch_ignores (type : ResourceType) (space : Option String) (name : String) :
    Ignores (Fleet.only client.context) (client.watch · type space name) := by
  intro fleet
  unfold Client.watch
  simp only [cluster_only, Fleet.put_only]

end Client

namespace Plurals

theorem discover_ignores (client : Client) (gv : GroupVersion) (kind : String)
    (sources : List ResourceType) :
    Ignores (Fleet.only client.context) (discover client gv kind sources) := by
  induction sources with
  | nil => exact fun _ => rfl
  | cons source rest ih =>
      intro fleet
      have listed := client.list_ignores source none {} fleet
      unfold discover
      dsimp only at listed ⊢
      rw [listed]
      obtain ⟨answer, after⟩ := client.list fleet source none {}
      cases answer with
      | error error => exact ih after
      | ok page =>
          dsimp only
          cases search gv.group kind page.items with
          | some plural => rfl
          | none => exact ih after

end Plurals

theorem Switchboard.dial_only (board : Switchboard) (context : String) (fleet : Fleet)
    (target : String) :
    board.dial (fleet.only context) target =
      ((board.dial fleet target).1, (board.dial fleet target).2.1,
        (board.dial fleet target).2.2.only context) := by
  unfold dial Fleet.connect
  by_cases unreachable : target ∈ fleet.unreachable <;>
    simp [Fleet.only, Fleet.cluster, unreachable]

/-! ## Requests -/

namespace Site

/-- A site with no cluster but the one of a context. -/
def only (context : String) (site : Site) : Site :=
  { site with fleet := site.fleet.only context }

variable (client : Client)

theorem pluralOf_ignores (gv : GroupVersion) (kind : String) (given : Option String) :
    Ignores (only client.context) (·.pluralOf client gv kind given) := by
  intro site
  have discovered := Plurals.discover_ignores client gv kind (Plurals.sources gv) site.fleet
  unfold pluralOf only Plurals.resolve
  dsimp only
  rw [discovered]
  obtain ⟨found?, fleet⟩ := Plurals.discover client gv kind (Plurals.sources gv) site.fleet
  split
  · rfl
  · cases site.plurals.found? gv kind with
    | some plural => rfl
    | none => cases found? <;> rfl

theorem listWith_ignores (type : ResourceType) (space : Option String) (query : ListQuery) :
    Ignores (only client.context) (·.listWith client type space query) := by
  intro site
  have listed := client.list_ignores type space query site.fleet
  unfold listWith only
  dsimp only at listed ⊢
  rw [listed]

theorem getWith_ignores (type : ResourceType) (space : Option String) (name : String) :
    Ignores (only client.context) (·.getWith client type space name) := by
  intro site
  have got := client.get_ignores type space name site.fleet
  unfold getWith only
  dsimp only at got ⊢
  rw [got]

theorem getBuiltinWith_ignores (kind : BuiltinKind) (space : Option String) (name : String) :
    Ignores (only client.context) (·.getBuiltinWith client kind space name) := by
  intro site
  have got := client.getBuiltin_ignores kind space name site.fleet
  unfold getBuiltinWith only
  dsimp only at got ⊢
  rw [got]

theorem listOn_ignores (handle : Handle) (gv : GroupVersion) (kind : String)
    (space plural? : Option String) (query : ListQuery) :
    Ignores (only handle.client.context) (·.listOn handle gv kind space plural? query) := by
  intro site
  have named := pluralOf_ignores handle.client gv kind plural? site
  unfold listOn
  dsimp only at named ⊢
  rw [named]
  obtain ⟨plural, after⟩ := site.pluralOf handle.client gv kind plural?
  have listed := listWith_ignores handle.client (.ofGroupVersion gv kind plural) space query after
  dsimp only at listed ⊢
  rw [listed]
  obtain ⟨answer, last⟩ := after.listWith handle.client (.ofGroupVersion gv kind plural) space query
  cases answer <;> rfl

theorem getGeneric_ignores (request : GetRequest) :
    Ignores (only client.context) (·.getGeneric client request) := by
  intro site
  unfold getGeneric
  cases parseGroupVersion request.apiVersion with
  | error error => rfl
  | ok gv =>
      have named := pluralOf_ignores client gv request.kind request.plural? site
      dsimp only at named ⊢
      rw [named]
      exact congrArg (fun got : Option (Except ClusterError Json) × Site =>
        (got.1.map (·.mapError request.failure), got.2)) (getWith_ignores client _ _ _ _)

theorem eventCandidates_ignores (kind name space : String) :
    Ignores (only client.context) (·.eventCandidates client kind name space) := by
  intro site
  have narrow := listWith_ignores client .events (some space)
    (.ofSelector (EventLookup.narrowSelector kind name space)) site
  unfold eventCandidates
  dsimp only at narrow ⊢
  rw [narrow]
  obtain ⟨answer, after⟩ := site.listWith client .events (some space)
    (.ofSelector (EventLookup.narrowSelector kind name space))
  cases answer with
  | ok page => rfl
  | error error =>
      have wide := listWith_ignores client .events (some space)
        (.ofSelector (EventLookup.wideSelector kind name)) after
      dsimp only at wide ⊢
      rw [wide]
      obtain ⟨answer, last⟩ := after.listWith client .events (some space)
        (.ofSelector (EventLookup.wideSelector kind name))
      cases answer <;> rfl

section Managed

variable (handle : Handle)

theorem managedBatch_ignores (type : ResourceType) :
    Ignores (only handle.client.context) (·.managedBatch handle type) := by
  intro site
  have listed := listOn_ignores handle type.groupVersion type.kind none (some type.plural) {} site
  unfold managedBatch
  dsimp only at listed ⊢
  rw [listed]
  obtain ⟨answer, after⟩ :=
    site.listOn handle type.groupVersion type.kind none (some type.plural) {}
  cases answer <;> rfl

theorem managedBatches_ignores (types : List ResourceType) :
    Ignores (only handle.client.context) (managedBatches handle types) := by
  induction types with
  | nil => exact fun _ => rfl
  | cons type rest ih =>
      intro site
      have first := managedBatch_ignores handle type site
      unfold managedBatches
      dsimp only at first ⊢
      rw [first]
      dsimp only
      rw [ih]

theorem listPackages_ignores (type : ResourceType) :
    Ignores (only handle.client.context) (·.listPackages handle type) := by
  intro site
  have listed := listOn_ignores handle type.groupVersion type.kind none (some type.plural) {} site
  unfold listPackages
  dsimp only at listed ⊢
  rw [listed]

theorem listDefinitions_ignores :
    Ignores (only handle.client.context) (·.listDefinitions handle) := by
  intro site
  have listed := listWith_ignores handle.client .customResourceDefinitions none {} site
  unfold listDefinitions
  dsimp only at listed ⊢
  rw [listed]

theorem managedTypes_ignores : Ignores (only handle.client.context) (·.managedTypes handle) := by
  intro site
  have providers := listPackages_ignores handle Crossplane.providers site
  unfold managedTypes
  dsimp only at providers ⊢
  rw [providers]
  obtain ⟨answer, afterProviders⟩ := site.listPackages handle Crossplane.providers
  cases answer with
  | error error => rfl
  | ok _ =>
      have revisions := listPackages_ignores handle Crossplane.providerRevisions afterProviders
      dsimp only at revisions ⊢
      rw [revisions]
      obtain ⟨answer, afterRevisions⟩ :=
        afterProviders.listPackages handle Crossplane.providerRevisions
      cases answer with
      | error error => rfl
      | ok _ =>
          have definitions := listDefinitions_ignores handle afterRevisions
          dsimp only at definitions ⊢
          rw [definitions]
          obtain ⟨answer, last⟩ := afterRevisions.listDefinitions handle
          cases answer <;> rfl

theorem collectManaged_ignores :
    Ignores (only handle.client.context) (·.collectManaged handle) := by
  intro site
  have typed := managedTypes_ignores handle site
  unfold collectManaged
  dsimp only at typed ⊢
  rw [typed]
  obtain ⟨answer, after⟩ := site.managedTypes handle
  cases answer with
  | error error => rfl
  | ok types =>
      dsimp only
      rw [managedBatches_ignores handle types after]

end Managed

/-! ## Connections -/

theorem ensureActive_only (context : String) (site : Site) (name : String) :
    site.board.ensureActive site.settings site.host (site.fleet.only context) name =
      ((site.board.ensureActive site.settings site.host site.fleet name).1,
        (site.board.ensureActive site.settings site.host site.fleet name).2.1,
        (site.board.ensureActive site.settings site.host site.fleet name).2.2.only context) := by
  unfold Switchboard.ensureActive Switchboard.activate
  dsimp only
  cases site.board.active? (Switchboard.target site.host name) with
  | some handle => rfl
  | none =>
      by_cases barred : site.board.isBarred (Switchboard.target site.host name) = true
      · simp [barred]
      · cases Switchboard.describes site.settings site.host name with
        | error error => simp [barred]
        | ok _ => simp [barred, Switchboard.dial_only]

/-- Looking for a connection does not depend on any cluster. -/
theorem resolve_ignores (context : String) (context? : Option String) :
    Ignores (only context) (·.resolve context?) := by
  intro site
  unfold Site.resolve Switchboard.resolve only
  dsimp only
  cases Switchboard.wanted? context? with
  | some name => simp [ensureActive_only]
  | none => cases site.board.handle? <;> simp [ensureActive_only]

end Site
end KubeLens
