import KubeLens.Proofs.Lens.Confined
import KubeLens.Proofs.Site.Documents

/-!
# Isolation of contexts

A request for a context, and a watch that was started for it, call its cluster and no other one,
whichever connection is active.  Other clusters stay as they are, and what is done and answered
does not depend on them.
-/

namespace KubeLens
namespace Lens

/-! ## Documents -/

section Documents

variable {lens : Lens} (coherent : lens.site.board.Coherent)

include coherent

/-- The cluster that a connection calls is the one of the context that the request is about. -/
theorem resolve_cluster {context? : Option String} {handle : Handle} {site : Site}
    (resolved : lens.site.resolve context? = (.ok handle, site)) :
    handle.client.cluster site.fleet = lens.site.fleet.cluster (lens.site.aim context?) := by
  have own := (Site.resolve_own coherent (congrArg Prod.fst resolved)).2
  have clusters := lens.site.resolve_clusters context?
  rw [resolved] at clusters
  unfold Client.cluster Fleet.cluster
  rw [own, clusters]

theorem list_holds {request : ListRequest} {page : ObjectPage}
    (answer : (lens.list request).1 = .ok page) :
    ∀ document ∈ page.items,
      (lens.site.fleet.cluster (lens.site.aim request.context?)).Holds document := by
  unfold Lens.list Site.list at answer
  dsimp only at answer
  split at answer
  · cases answer
  · split at answer
    · cases answer
    · rename_i resolved
      rw [← resolve_cluster coherent resolved]
      exact Site.listOn_holds answer

theorem get_holds {request : GetRequest} {document : Json}
    (answer : (lens.get request).1 = some (.ok document)) :
    (lens.site.fleet.cluster (lens.site.aim request.context?)).Holds document := by
  unfold Lens.get Site.get at answer
  dsimp only at answer
  split at answer
  · cases answer
  · split at answer
    · cases answer
    · rename_i handle site resolved
      rw [← resolve_cluster coherent resolved]
      split at answer
      · cases got :
            (site.getBuiltinWith handle.client _ request.space? request.name).1 with
        | error error =>
            rw [got] at answer
            cases answer
        | ok stored =>
            rw [got] at answer
            cases answer
            exact Client.getBuiltin_holds got
      · exact Site.getGeneric_holds answer

theorem events_holds {kind name : String} {rawSpace? context? : Option String}
    {documents : List Json}
    (answer : (lens.events kind name rawSpace? context?).1 = .ok documents) :
    ∀ document ∈ documents,
      (lens.site.fleet.cluster (lens.site.aim context?)).Holds document := by
  unfold Lens.events Site.events at answer
  dsimp only at answer
  split at answer
  · cases answer
    exact List.forall_mem_nil _
  · split at answer
    · cases answer
    · rename_i resolved
      rw [← resolve_cluster coherent resolved]
      cases answer
      intro document listed
      exact Site.eventCandidates_holds _ _ _ _ document (List.mem_filter.mp listed).1

theorem managed_holds {clock : Nat} {context? : Option String} {force : Bool}
    {result : Managed.Result}
    (answer : (lens.managed clock context? force).1 = .ok result)
    (fresh : result.fromCache = false) :
    ∀ item ∈ result.items,
      (lens.site.fleet.cluster (lens.site.aim context?)).HoldsUnlabelled item := by
  rw [managed_eq] at answer
  rcases resolved : lens.site.resolve context? with ⟨_ | handle, site⟩
  · rw [resolved] at answer
    cases answer
  · rw [resolved] at answer
    rw [← resolve_cluster coherent resolved]
    unfold goOn managedOver at answer
    dsimp only at answer
    split at answer
    · cases answer
      cases fresh
    · split at answer
      · cases answer
      · rename_i collected
        cases answer
        exact Site.collectManaged_labels (congrArg Prod.fst collected)

end Documents

/-! ## Checks -/

theorem restore_clusters (lens : Lens) (previous? : Option String) (probed : String) :
    (lens.restore previous? probed).site.fleet.clusters = lens.site.fleet.clusters := by
  unfold restore
  split
  · exact lens.site.setActive_clusters _
  · rfl

/-- How a check goes.  Looking for a connection, before the probe and after it, calls nobody; while
the check waits for the probe only the tasks of watches do something. -/
inductive Checks (lens : Lens) (context : String) (context? : Option String) : Prop
  | fails (error : ServiceError) (answer : (lens.check context?).1 = .error error)
      (uncalled : (lens.check context?).2.site.fleet.clusters = lens.site.fleet.clusters)
  | probes (handle : Handle)
      (uncalled :
        (lens.act (.resolve context?)).site.fleet.clusters = lens.site.fleet.clusters)
      (probe : Confined context (fun lens => (lens.finding handle, lens.probed handle))
        (lens.act (.resolve context?)))
      (answer : (lens.check context?).1 = (lens.act (.resolve context?)).finding handle)
      (restored : (lens.check context?).2.site.fleet.clusters =
        ((lens.act (.resolve context?)).waited handle).site.fleet.clusters)

theorem check_checks {lens : Lens} (coherent : lens.site.board.Coherent)
    (context? : Option String) : lens.Checks (lens.site.aim context?) context? := by
  have uncalled := lens.site.resolve_clusters context?
  cases answer : (lens.site.resolve context?).1 with
  | error error =>
      have ended := check_of_error answer
      exact .fails error (congrArg Prod.fst ended) (by rw [ended]; exact uncalled)
  | ok handle =>
      have ended := check_of_ok answer
      refine .probes handle uncalled ?_ (congrArg Prod.fst ended) ?_
      · rw [← (Site.resolve_own coherent answer).2]
        exact probe_confined _ handle
      · rw [ended]
        exact restore_clusters _ _ _

/-! ## Isolation -/

/-- How the service serves requests that are about a context. -/
structure Serves (lens : Lens) (context : String) (context? : Option String) : Prop where
  list : ∀ request : ListRequest, request.context? = context? →
    Confined context (·.list request) lens ∧
      ∀ page, (lens.list request).1 = .ok page →
        ∀ document ∈ page.items, (lens.site.fleet.cluster context).Holds document
  get : ∀ request : GetRequest, request.context? = context? →
    Confined context (·.get request) lens ∧
      ∀ document, (lens.get request).1 = some (.ok document) →
        (lens.site.fleet.cluster context).Holds document
  events : ∀ kind name rawSpace?,
    Confined context (·.events kind name rawSpace? context?) lens ∧
      ∀ documents, (lens.events kind name rawSpace? context?).1 = .ok documents →
        ∀ document ∈ documents, (lens.site.fleet.cluster context).Holds document
  managed : ∀ clock force,
    Confined context (·.managed clock context? force) lens ∧
      ∀ result, (lens.managed clock context? force).1 = .ok result → result.fromCache = false →
        ∀ item ∈ result.items, (lens.site.fleet.cluster context).HoldsUnlabelled item
  resolvePlural : ∀ apiVersion kind,
    Confined context (·.resolvePlural apiVersion kind context?) lens
  check : lens.Checks context context?

theorem serves_aim {lens : Lens} (coherent : lens.site.board.Coherent) (context? : Option String) :
    lens.Serves (lens.site.aim context?) context? where
  list := by
    rintro request rfl
    exact ⟨list_confined coherent request, fun _ => list_holds coherent⟩
  get := by
    rintro request rfl
    exact ⟨get_confined coherent request, fun _ => get_holds coherent⟩
  events kind name rawSpace? :=
    ⟨events_confined coherent kind name rawSpace? context?, fun _ => events_holds coherent⟩
  managed clock force :=
    ⟨managed_confined coherent clock context? force, fun _ => managed_holds coherent⟩
  resolvePlural apiVersion kind := resolvePlural_confined coherent apiVersion kind context?
  check := check_checks coherent context?

/-- Outside a cluster, whichever context is active and whatever is kept: requests that name a
context, and requests without one while it is active, are served from its cluster alone.  A watch
that was started while its session had the context calls this cluster alone, too, in each of its
turns and whatever happened since. -/
theorem run_isolated (settings : Settings) (host : Host) (outside : host.inCluster = false)
    (events : List Event) (context : String) :
    let lens := (onHost settings host).run events
    (∀ context?, lens.site.meant? context? = some context → lens.Serves context context?) ∧
    ∀ earlier event later, events = earlier ++ event :: later → ∀ id generation,
      let before := (onHost settings host).run earlier
      let after := before.act event
      (before.session id).nextGeneration ≤ generation →
      generation < (after.session id).nextGeneration →
      (after.session id).context? = some context → context ≠ "" →
        Confined context (fun lens => ((), lens.stepTask id generation)) lens ∧
        Confined context (fun lens => ((), lens.tickTask id generation)) lens := by
  intro lens
  have moored : Watch.Hub.Moored lens.site lens.hub := run_moored outside settings events
  refine ⟨fun context? meant => ?_, ?_⟩
  · rw [← Site.aim_of_meant? moored.outside meant]
    exact serves_aim moored.coherent context?
  · rintro earlier event later rfl id generation before after old new pinned named
    have own : ∀ task ∈ (lens.session id).tasks, task.generation = generation →
        task.context? = some context := by
      intro task present same
      rw [← pinned]
      exact run_context? old new task present same
    exact ⟨stepTask_confined moored named own, tickTask_confined moored named own⟩

/-- A pod is watched on `dev`, and then `prod` becomes active. -/
def leftForProd : List Event :=
  [.setContext "dev",
    .reshape "dev" (({} : Cluster).insert (.core "Pod" "pods")
      (.obj [("metadata", .obj [("name", .str "a")])])),
    .openSession none,
    .subscribe 0 { apiVersion := "v1", kind := "Pod", name := "a", plural? := some "pods" },
    .setContext "prod"]

theorem run_isolated_leftForProd :
    let lens := (onHost (.defaults none) (.storing ["dev", "prod"])).run leftForProd
    lens.current? = some "prod" ∧ lens.Serves "dev" (some "dev") ∧ lens.Serves "prod" none ∧
      Confined "dev" (fun lens => ((), lens.stepTask 0 0)) lens := by
  have active : ((onHost (.defaults none) (.storing ["dev", "prod"])).run
      leftForProd).current? = some "prod" := by decide +kernel
  obtain ⟨onDev, watched⟩ :=
    run_isolated (.defaults none) (.storing ["dev", "prod"]) rfl leftForProd "dev"
  obtain ⟨onProd, _⟩ :=
    run_isolated (.defaults none) (.storing ["dev", "prod"]) rfl leftForProd "prod"
  obtain ⟨stepped, _⟩ := watched (leftForProd.take 3)
    (.subscribe 0 { apiVersion := "v1", kind := "Pod", name := "a", plural? := some "pods" })
    [.setContext "prod"] rfl 0 0 (by decide +kernel) (by decide +kernel) (by decide +kernel)
    (by decide)
  exact ⟨active, onDev (some "dev") (by decide +kernel), onProd none active, stepped⟩

end Lens
end KubeLens
