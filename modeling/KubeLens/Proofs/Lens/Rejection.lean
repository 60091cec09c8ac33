import KubeLens.Proofs.Lens.Activating
import KubeLens.Proofs.Site.Within

/-!
# Rejected requests

A request is rejected when it is wrong in itself: a field is blank or malformed, or it means no
context.  A list is rejected before anything is done for it.  So is a get, unless it is its
`apiVersion` that is malformed: that is found out over a connection.
-/

namespace KubeLens

namespace GetRequest

/-- Whether the `apiVersion` of a request is malformed, and nothing else keeps it from being
answered over a connection. -/
structure FailsLate (request : GetRequest) : Prop where
  filled : request.check = .ok ()
  generic : request.builtin? = none
  malformed : ∃ fault, GroupVersion.parse request.apiVersion = .error fault

theorem failure_ne_validation {request : GetRequest} {error : ClusterError} {message : String} :
    request.failure error ≠ .validation message := by
  unfold failure ServiceError.objectAbsent
  split
  · split <;> nofun
  · nofun

theorem mapError_failure_ne_validation {request : GetRequest}
    {answer : Except ClusterError Json} {message : String} :
    answer.mapError request.failure ≠ .error (.validation message) := by
  cases answer with
  | ok document => nofun
  | error error => exact fun rejected => failure_ne_validation (Except.error.inj rejected)

end GetRequest

namespace Site

variable {site after : Site} {message : String}

/-! ## Connections -/

/-- An activation that is rejected does nothing. -/
theorem Exit.of_validation {name : String}
    (exit : site.Exit name (.error (.validation message)) after) : after = site := by
  cases exit with
  | undescribed => rfl

/-- A request finds the active connection, or activates a context. -/
theorem resolve_cases (site : Site) (context? : Option String) :
    (∃ handle, site.resolve context? = (.ok handle, site)) ∨
      ∃ name, site.resolve context? = site.ensureActive name := by
  cases named : Switchboard.wanted? context? with
  | some name => exact .inr ⟨name, resolve_of_wanted named⟩
  | none =>
      unfold Site.resolve Switchboard.resolve
      rw [named]
      cases site.board.handle? with
      | some handle => exact .inl ⟨handle, rfl⟩
      | none => exact .inr ⟨"", rfl⟩

theorem resolve_of_validation {context? : Option String}
    (rejected : site.resolve context? = (.error (.validation message), after)) : after = site := by
  rcases site.resolve_cases context? with ⟨handle, found⟩ | ⟨name, activated⟩
  · rw [found] at rejected
    cases rejected
  · have exit := site.ensureActive_exit name
    rw [← activated, rejected] at exit
    exact exit.of_validation

/-! ## Reads -/

/-- Over a connection no list is rejected. -/
theorem listOn_ne_validation {handle : Handle} {gv : GroupVersion} {kind : String}
    {space plural? : Option String} {query : ListQuery} :
    (site.listOn handle gv kind space plural? query).1 ≠ .error (.validation message) := by
  unfold Site.listOn
  dsimp only
  split
  · nofun
  · dsimp only
    split <;> nofun

theorem list_of_validation {request : ListRequest}
    (rejected : (site.list request).1 = .error (.validation message)) :
    (site.list request).2 = site := by
  unfold Site.list at rejected ⊢
  split
  · rfl
  · rename_i gv valid
    rw [valid] at rejected
    dsimp only at rejected
    split at rejected
    · rename_i resolved
      cases rejected
      exact resolve_of_validation resolved
    · exact absurd rejected listOn_ne_validation

/-- Over a connection a get is rejected only for its `apiVersion`. -/
theorem getGeneric_of_validation {client : Client} {request : GetRequest}
    (rejected : (site.getGeneric client request).1 = some (.error (.validation message))) :
    ∃ fault, GroupVersion.parse request.apiVersion = .error fault := by
  unfold Site.getGeneric parseGroupVersion at rejected
  cases parsed : GroupVersion.parse request.apiVersion with
  | error fault => exact ⟨fault, rfl⟩
  | ok gv =>
      rw [parsed] at rejected
      obtain ⟨answer, _, failed⟩ := Option.map_eq_some_iff.mp rejected
      exact absurd failed GetRequest.mapError_failure_ne_validation

theorem get_of_validation {request : GetRequest}
    (rejected : (site.get request).1 = some (.error (.validation message)))
    (early : ¬ request.FailsLate) : (site.get request).2 = site := by
  unfold Site.get at rejected ⊢
  split
  · rfl
  · rename_i filled
    rw [filled] at rejected
    dsimp only at rejected
    split at rejected
    · rename_i resolved
      cases rejected
      exact resolve_of_validation resolved
    · exfalso
      split at rejected
      · exact GetRequest.mapError_failure_ne_validation (Option.some.inj rejected)
      · rename_i generic
        exact early ⟨filled, generic, getGeneric_of_validation rejected⟩

/-- A get with a malformed `apiVersion` does nothing but look for its connection. -/
theorem get_of_failsLate (site : Site) {request : GetRequest} (late : request.FailsLate) :
    (site.get request).2 = (site.resolve request.context?).2 ∧
      ∀ handle, (site.resolve request.context?).1 = .ok handle →
        ∃ message, (site.get request).1 = some (.error (.validation message)) := by
  obtain ⟨fault, malformed⟩ := late.malformed
  unfold Site.get
  rw [late.filled, late.generic]
  rcases site.resolve request.context? with ⟨_ | handle, middle⟩
  · exact ⟨rfl, nofun⟩
  · unfold getGeneric parseGroupVersion
    rw [malformed]
    exact ⟨rfl, fun _ _ => ⟨_, rfl⟩⟩

end Site

namespace Lens

/-- A list or a get that is rejected leaves the service as it was, with one exception.  A get whose
`apiVersion` is malformed, and that has no other fault, looks for its connection first: it does this
and nothing else, calls no cluster, and is rejected when the connection is found. -/
theorem rejected_unnoticed (lens : Lens) :
    (∀ request message, (lens.list request).1 = .error (.validation message) →
      (lens.list request).2 = lens) ∧
    (∀ request message, (lens.get request).1 = some (.error (.validation message)) →
      ¬ request.FailsLate → (lens.get request).2 = lens) ∧
    ∀ request : GetRequest, request.FailsLate →
      (lens.get request).2 = lens.act (.resolve request.context?) ∧
      (lens.get request).2.site.fleet.clusters = lens.site.fleet.clusters ∧
      ∀ handle, (lens.site.resolve request.context?).1 = .ok handle →
        ∃ message, (lens.get request).1 = some (.error (.validation message)) := by
  refine ⟨fun request message rejected => ?_, fun request message rejected early => ?_,
    fun request late => ?_⟩
  · exact congrArg (fun site => { lens with site }) (Site.list_of_validation rejected)
  · exact congrArg (fun site => { lens with site }) (Site.get_of_validation rejected early)
  · obtain ⟨looked, rejects⟩ := lens.site.get_of_failsLate late
    refine ⟨congrArg (fun site => { lens with site }) looked, ?_, rejects⟩
    exact (congrArg (·.fleet.clusters) looked).trans (lens.site.resolve_clusters request.context?)

/-- A service with two contexts, of which one is active. -/
def onDev : Lens :=
  (onHost (.defaults none) (.storing ["dev", "prod"])).run [.setContext "dev"]

/-- An event without the group of its kind, in a context that is not active. -/
def ungroupedEvent : GetRequest :=
  { apiVersion := "v1", kind := "Event", name := "a", context? := some "prod" }

theorem ungroupedEvent_failsLate : ungroupedEvent.FailsLate :=
  ⟨by decide, by decide, .shape, by decide⟩

/-- A list of pods that a group is missing from, a get of a pod that a name is missing from, and
the get of an event. -/
theorem rejected_unnoticed_onDev :
    let pods : ListRequest := { apiVersion := "v1", kind := "Pod", context? := some "prod" }
    let unnamed : GetRequest := { apiVersion := "v1", kind := "Pod", context? := some "prod" }
    (∃ message, (onDev.list pods).1 = .error (.validation message)) ∧
      (onDev.list pods).2 = onDev ∧
      (∃ message, (onDev.get unnamed).1 = some (.error (.validation message))) ∧
      ¬ unnamed.FailsLate ∧ (onDev.get unnamed).2 = onDev ∧
      ungroupedEvent.FailsLate ∧
      (onDev.get ungroupedEvent).2 = onDev.act (.resolve (some "prod")) := by
  intro pods unnamed
  obtain ⟨listed, early, late⟩ := rejected_unnoticed onDev
  have malformed : pods.check = .error (.ofApiVersion "v1" .shape) := by decide +kernel
  have rejected : (onDev.list pods).1 = .error (.ofApiVersion "v1" .shape) := by
    simp only [Lens.list, Site.list, malformed]
  have nameless : unnamed.check = .error (.fieldRequired "name") := by decide +kernel
  have blank : (onDev.get unnamed).1 = some (.error (.fieldRequired "name")) := by
    simp only [Lens.get, Site.get, nameless]
  have unfilled : ¬ unnamed.FailsLate := fun late => absurd late.filled (by decide)
  exact ⟨⟨_, rejected⟩, listed _ _ rejected, ⟨_, blank⟩, unfilled, early _ _ blank unfilled,
    ungroupedEvent_failsLate, (late _ ungroupedEvent_failsLate).1⟩

/-- A get that is rejected activates the context that it names. -/
theorem get_rejected_activates :
    (∃ message, (onDev.get ungroupedEvent).1 = some (.error (.validation message))) ∧
      onDev.current? = some "dev" ∧ (onDev.get ungroupedEvent).2.current? = some "prod" ∧
      onDev.site.fleet.connects = ["dev"] ∧
      (onDev.get ungroupedEvent).2.site.fleet.connects = ["dev", "prod"] :=
  have found : (onDev.site.resolve ungroupedEvent.context?).1 = .ok ⟨"prod", ⟨"prod", false⟩⟩ := by
    decide +kernel
  ⟨(onDev.site.get_of_failsLate ungroupedEvent_failsLate).2 _ found, by decide +kernel⟩

end Lens
end KubeLens
