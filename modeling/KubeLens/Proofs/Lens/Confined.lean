import KubeLens.Proofs.Lens.Anchoring
import KubeLens.Proofs.Lens.Checking

/-!
# Confinement

What the service does over a connection, or for a watch, is confined to one cluster: it calls no
other one, and does not depend on any other one either.
-/

namespace KubeLens
namespace Lens

/-! ## Confinement -/

/-- A service with no cluster but the one of a context. -/
def only (context : String) (lens : Lens) : Lens :=
  { lens with site := lens.site.only context }

/-- Does something to the site, and puts the answer in other words. -/
def onSite {Word Answer : Type} (act : Site → Word × Site) (word : Word → Answer) (lens : Lens) :
    Answer × Lens :=
  (word (act lens.site).1, { lens with site := (act lens.site).2 })

/-- Goes on over a connection, if there is one. -/
def goOn {Answer : Type} (failed : ServiceError → Answer) (next : Handle → Lens → Answer × Lens) :
    Except ServiceError Handle → Lens → Answer × Lens
  | .error error, lens => (failed error, lens)
  | .ok handle, lens => next handle lens

/-- An action that calls no cluster but the one of a context.  Other clusters stay as they are, and
without them the action would have the same answer and come to the same state. -/
structure Confined {Answer : Type} (context : String) (act : Lens → Answer × Lens) (lens : Lens) :
    Prop where
  others : lens.site.fleet.OnlyAt context (act lens).2.site.fleet
  alone : act (lens.only context) = ((act lens).1, (act lens).2.only context)

namespace Confined

variable {Answer : Type} {context : String} {lens : Lens}

theorem answer {act : Lens → Answer × Lens} {answer : Answer}
    (same : ∀ lens, act lens = (answer, lens)) (lens : Lens) : Confined context act lens := by
  refine ⟨?_, ?_⟩
  · rw [same]
    exact .refl _
  · rw [same, same]

theorem onSite {Word : Type} {act : Site → Word × Site} (word : Word → Answer)
    (within : lens.site.Within context (act lens.site).2)
    (ignores : Ignores (Site.only context) act) : Confined context (Lens.onSite act word) lens := by
  refine ⟨within.fleet, ?_⟩
  unfold Lens.onSite only
  dsimp only
  rw [ignores]

/-- A request looks for a connection, and does the rest over it. -/
theorem resolving {act : Lens → Answer × Lens} (coherent : lens.site.board.Coherent)
    (context? : Option String) (failed : ServiceError → Answer)
    (next : Handle → Lens → Answer × Lens)
    (same : ∀ lens : Lens, act lens = goOn failed next (lens.site.resolve context?).1
      { lens with site := (lens.site.resolve context?).2 })
    (each : ∀ handle after, handle.client.context = lens.site.aim context? →
      Confined (lens.site.aim context?) (next handle) after) :
    Confined (lens.site.aim context?) act lens := by
  have rest : Confined (lens.site.aim context?)
      (goOn failed next (lens.site.resolve context?).1)
      { lens with site := (lens.site.resolve context?).2 } := by
    cases answer : (lens.site.resolve context?).1 with
    | error error => exact .answer (fun _ => rfl) _
    | ok handle => exact each handle _ (Site.resolve_own coherent answer).2
  have resolved := Site.resolve_ignores (lens.site.aim context?) context? lens.site
  refine ⟨?_, ?_⟩
  · rw [same]
    exact (Fleet.OnlyAt.of_clusters (lens.site.resolve_clusters context?)).trans rest.others
  · rw [same, same]
    unfold only
    dsimp only at resolved ⊢
    rw [resolved]
    exact rest.alone

end Confined

/-! ## Requests -/

/-- The collection of a context that answers a request for its managed objects. -/
def kept? (lens : Lens) (context : String) (clock : Nat) (force : Bool) :
    Option Managed.Collected :=
  if force then none else lens.cache.fresh? lens.site.settings.cacheTtl clock context

/-- The managed objects of a context, when there is a connection to it. -/
def managedOver (lens : Lens) (handle : Handle) (clock : Nat) (force : Bool) :
    Except ServiceError Managed.Result × Lens :=
  match lens.kept? handle.context clock force with
  | some kept => (.ok ⟨kept.items, true, kept.fetchedAt⟩, lens)
  | none =>
    match lens.site.collectManaged handle with
    | (.error error, site) => (.error error, { lens with site })
    | (.ok items, site) =>
      (.ok ⟨items, false, clock⟩,
        { lens with site, cache := Assoc.put lens.cache handle.context ⟨items, clock⟩ })

theorem managed_eq (lens : Lens) (clock : Nat) (context? : Option String) (force : Bool) :
    lens.managed clock context? force =
      goOn .error (fun handle after => after.managedOver handle clock force)
        (lens.site.resolve context?).1 { lens with site := (lens.site.resolve context?).2 } := by
  unfold Lens.managed Site.managed
  rcases lens.site.resolve context? with ⟨_ | handle, site⟩
  · rfl
  · unfold goOn managedOver kept?
    dsimp only
    cases (if force = true then none else
      lens.cache.fresh? site.settings.cacheTtl clock handle.context) with
    | some kept => rfl
    | none => rcases site.collectManaged handle with ⟨_ | _, _⟩ <;> rfl

/-- A request for managed objects is answered over the connection that it finds. -/
theorem managed_of_found {lens : Lens} {clock : Nat} {context? : Option String} {force : Bool}
    {handle : Handle} (found : (lens.site.resolve context?).1 = .ok handle) :
    lens.managed clock context? force =
      ({ lens with site := (lens.site.resolve context?).2 } : Lens).managedOver handle clock
        force := by
  rw [managed_eq, found]
  rfl

theorem managedOver_confined (lens : Lens) (handle : Handle) (clock : Nat) (force : Bool) :
    Confined handle.client.context (·.managedOver handle clock force) lens := by
  have within := (lens.site.collectManaged_within handle).fleet
  have ignores : (lens.only handle.client.context).site.collectManaged handle = _ :=
    Site.collectManaged_ignores handle lens.site
  have same : (lens.only handle.client.context).kept? handle.context clock force =
      lens.kept? handle.context clock force := rfl
  unfold managedOver
  refine ⟨?_, ?_⟩
  · split
    · exact .refl _
    · split <;> rename_i answer <;> rwa [answer] at within
  · dsimp only at ignores ⊢
    rw [same, ignores]
    cases lens.kept? handle.context clock force with
    | some kept => rfl
    | none => rcases lens.site.collectManaged handle with ⟨_ | _, _⟩ <;> rfl

section Requests

variable {lens : Lens} (coherent : lens.site.board.Coherent)

include coherent

theorem list_confined (request : ListRequest) :
    Confined (lens.site.aim request.context?) (·.list request) lens := by
  unfold Lens.list Site.list
  cases request.check with
  | error error => exact .answer (fun _ => rfl) lens
  | ok gv =>
      refine .resolving coherent request.context? .error
        (fun handle => onSite (·.listOn handle gv request.kind
          (Namespace.normalize request.rawSpace?) request.plural? request.query) id)
        (fun lens => ?_) fun handle after own => ?_
      · rcases lens.site.resolve request.context? with ⟨_ | _, _⟩ <;> rfl
      · rw [← own]
        exact .onSite id (after.site.listOn_within _ _ _ _ _ _) (Site.listOn_ignores _ _ _ _ _ _)

theorem get_confined (request : GetRequest) :
    Confined (lens.site.aim request.context?) (·.get request) lens := by
  unfold Lens.get Site.get
  cases request.check with
  | error error => exact .answer (fun _ => rfl) lens
  | ok _ =>
      cases request.builtin? with
      | some kind =>
          refine .resolving coherent request.context? (fun error => some (.error error))
            (fun handle => onSite
              (·.getBuiltinWith handle.client kind request.space? request.name)
              fun answer => some (answer.mapError request.failure))
            (fun lens => ?_) fun handle after own => ?_
          · rcases lens.site.resolve request.context? with ⟨_ | _, _⟩ <;> rfl
          · rw [← own]
            exact .onSite _ (after.site.getBuiltinWith_within _ _ _ _)
              (Site.getBuiltinWith_ignores _ _ _ _)
      | none =>
          refine .resolving coherent request.context? (fun error => some (.error error))
            (fun handle => onSite (·.getGeneric handle.client request) id)
            (fun lens => ?_) fun handle after own => ?_
          · rcases lens.site.resolve request.context? with ⟨_ | _, _⟩ <;> rfl
          · rw [← own]
            exact .onSite id (after.site.getGeneric_within _ _) (Site.getGeneric_ignores _ _)

theorem events_confined (kind name : String) (rawSpace? context? : Option String) :
    Confined (lens.site.aim context?) (·.events kind name rawSpace? context?) lens := by
  unfold Lens.events Site.events
  cases Namespace.normalize rawSpace? with
  | none => exact .answer (fun _ => rfl) lens
  | some space =>
      refine .resolving coherent context? .error
        (fun handle => onSite (·.eventCandidates handle.client kind name space)
          fun candidates => .ok (candidates.filter (EventLookup.concerns kind name space)))
        (fun lens => ?_) fun handle after own => ?_
      · rcases lens.site.resolve context? with ⟨_ | _, _⟩ <;> rfl
      · rw [← own]
        exact .onSite _ (after.site.eventCandidates_within _ _ _ _)
          (Site.eventCandidates_ignores _ _ _ _)

theorem resolvePlural_confined (apiVersion kind : String) (context? : Option String) :
    Confined (lens.site.aim context?) (·.resolvePlural apiVersion kind context?) lens := by
  unfold Lens.resolvePlural
  cases GroupVersion.parseAllowCore apiVersion with
  | error fault => exact .answer (fun _ => rfl) lens
  | ok gv =>
      refine .resolving coherent context? .error
        (fun handle => onSite (·.pluralOf handle.client gv kind none) .ok) (fun lens => ?_)
        fun handle after own => ?_
      · rcases lens.site.resolve context? with ⟨_ | _, _⟩ <;> rfl
      · rw [← own]
        exact .onSite _ (after.site.pluralOf_within _ _ _ _) (Site.pluralOf_ignores _ _ _ _)

theorem managed_confined (clock : Nat) (context? : Option String) (force : Bool) :
    Confined (lens.site.aim context?) (·.managed clock context? force) lens := by
  refine .resolving coherent context? .error
    (fun handle after => after.managedOver handle clock force)
    (fun lens => lens.managed_eq clock context? force) fun handle after own => ?_
  rw [← own]
  exact after.managedOver_confined handle clock force

end Requests

theorem probe_confined (lens : Lens) (handle : Handle) :
    Confined handle.client.context (fun lens => (lens.finding handle, lens.probed handle))
      lens := by
  have ignores := handle.client.probe_ignores lens.site.fleet
  refine ⟨handle.client.probe_onlyAt lens.site.fleet, ?_⟩
  unfold finding probed only Site.only
  dsimp only
  rw [ignores]

/-! ## Watches -/

/-- A task of a session takes a turn, if there is such a task and it is able to. -/
def takeTurn (lens : Lens) (id generation : Nat) (able : Watch.Task → Lens → Bool)
    (turn : Watch.Task → Lens → Watch.Turn) : Lens :=
  match (lens.session id).task? generation with
  | none => lens
  | some task =>
    if able task lens then
      { lens with site := (turn task lens).1, hub := lens.hub.put id (turn task lens).2 }
    else lens

theorem stepTask_eq (lens : Lens) (id generation : Nat) :
    lens.stepTask id generation =
      lens.takeTurn id generation (fun task lens => task.canStep lens.site (lens.session id))
        fun task lens =>
          task.step (lens.now + lens.hub.period) (lens.site, lens.session id) := by
  unfold Lens.stepTask taskWhere? takeTurn Watch.Hub.stepTask Watch.Hub.runTask Lens.session
  cases (lens.hub.session id).task? generation with
  | none => rfl
  | some task =>
      rw [Option.filter_some]
      by_cases able : task.canStep lens.site (lens.hub.session id) = true <;> simp [able]

theorem tickTask_eq (lens : Lens) (id generation : Nat) :
    lens.tickTask id generation =
      lens.takeTurn id generation (fun task lens => task.due?.any (· ≤ lens.now))
        fun task lens => task.tick lens.hub.period (lens.site, lens.session id) := by
  unfold Lens.tickTask taskWhere? takeTurn Watch.Hub.runTask Lens.session
  cases (lens.hub.session id).task? generation with
  | none => rfl
  | some task =>
      rw [Option.filter_some]
      by_cases timely : task.due?.any (· ≤ lens.now) = true <;> simp [timely]

theorem takeTurn_confined {lens : Lens} {id generation : Nat} {context : String}
    {able : Watch.Task → Lens → Bool} {turn : Watch.Task → Lens → Watch.Turn}
    (ables : ∀ task, (lens.session id).task? generation = some task →
      able task (lens.only context) = able task lens)
    (others : ∀ task, (lens.session id).task? generation = some task →
      lens.site.fleet.OnlyAt context (turn task lens).1.fleet)
    (alone : ∀ task, (lens.session id).task? generation = some task →
      turn task (lens.only context) = ((turn task lens).1.only context, (turn task lens).2)) :
    Confined context (fun lens => ((), lens.takeTurn id generation able turn)) lens := by
  have sameSession : (lens.only context).session id = lens.session id := rfl
  unfold takeTurn
  refine ⟨?_, ?_⟩
  · dsimp only
    split
    · exact .refl _
    · rename_i task found
      split
      · exact others task found
      · exact .refl _
  · dsimp only
    rw [sameSession]
    cases found : (lens.session id).task? generation with
    | none => rfl
    | some task =>
        dsimp only
        rw [ables task found, alone task found]
        split <;> rfl

section Watches

variable {lens : Lens} (moored : Watch.Hub.Moored lens.site lens.hub) {id generation : Nat}
  {context : String} (named : context ≠ "")
  (own : ∀ task ∈ (lens.session id).tasks, task.generation = generation →
    task.context? = some context)

include moored named own

/-- A task that was started for a context calls only clients of that context. -/
theorem client_own {task : Watch.Task} (found : (lens.session id).task? generation = some task) :
    ∀ client ∈ task.phase.client?, client.context = context := by
  obtain ⟨present, same⟩ := Watch.Session.task?_eq_some found
  exact moored.anchored.session id task present context (own task present same) named

theorem stepTask_confined :
    Confined context (fun lens => ((), lens.stepTask id generation)) lens := by
  simp only [stepTask_eq]
  exact takeTurn_confined
    (fun task found => Watch.Task.canStep_only (client_own moored named own found) lens.site _)
    (fun task found => Watch.Task.step_onlyAt (client_own moored named own found) _ lens.site _)
    fun task found => Watch.Task.step_only (client_own moored named own found) _ lens.site _

theorem tickTask_confined :
    Confined context (fun lens => ((), lens.tickTask id generation)) lens := by
  simp only [tickTask_eq]
  exact takeTurn_confined (fun _ _ => rfl)
    (fun task found => (Watch.Task.tick_within (client_own moored named own found) _ lens.site _).fleet)
    fun task found => Watch.Task.tick_only (client_own moored named own found) _ lens.site _

end Watches
end Lens
end KubeLens
