import KubeLens.Proofs.Cluster.Selecting
import KubeLens.Proofs.Lens.Failing
import KubeLens.Proofs.Watch.Spelling

/-!
# The events about an object

Which selector a cluster supports does not matter for the events about an object: both selectors
let all of them through, and what else they let through is dropped afterwards.  An event that leaves
out a field of the object that it is about is never returned, not even for a field that is looked
for as empty.
-/

namespace KubeLens

open Selector (IsPlain)

/-! ## Events and selectors -/

namespace EventLookup

/-- A field of the object that an event is about, if it is there. -/
def involved? (field : String) (event : Json) : Option String :=
  (event.member? "involvedObject").bind (·.memberStr? field)

/-- Whether an event names the kind, the name and the namespace of the object that it is about. -/
structure IsAbout (kind name space : String) (event : Json) : Prop where
  kind : involved? "kind" event = some kind
  name : involved? "name" event = some name
  space : involved? "namespace" event = some space

variable {kind name space : String} {event : Json}

theorem isAbout_iff : IsAbout kind name space event ↔
    involved? "kind" event = some kind ∧ involved? "name" event = some name ∧
      involved? "namespace" event = some space :=
  ⟨fun about => ⟨about.kind, about.name, about.space⟩,
    fun ⟨kind, name, space⟩ => ⟨kind, name, space⟩⟩

instance (kind name space : String) (event : Json) : Decidable (IsAbout kind name space event) :=
  decidable_of_iff _ isAbout_iff.symm

theorem concerns_iff : concerns kind name space event = true ↔
    involved "kind" event = kind ∧ involved "name" event = name ∧
      involved "namespace" event = space := by
  simp [concerns, and_assoc]

theorem IsAbout.concerns (about : IsAbout kind name space event) :
    concerns kind name space event = true :=
  concerns_iff.mpr ⟨congrArg (·.getD "") about.kind, congrArg (·.getD "") about.name,
    congrArg (·.getD "") about.space⟩

/-- A field that is looked for must be there, unless it is looked for as empty. -/
theorem involved?_of_involved {field value : String} (same : involved field event = value)
    (nonempty : value ≠ "") : involved? field event = some value := by
  have read : (involved? field event).getD "" = value := same
  cases found : involved? field event with
  | none =>
      rw [found] at read
      exact absurd read.symm nonempty
  | some other =>
      rw [found] at read
      exact congrArg some read

theorem isAbout_of_concerns (about : concerns kind name space event = true) (kinded : kind ≠ "")
    (named : name ≠ "") (placed : space ≠ "") : IsAbout kind name space event := by
  obtain ⟨ofKind, ofName, ofSpace⟩ := concerns_iff.mp about
  exact ⟨involved?_of_involved ofKind kinded, involved?_of_involved ofName named,
    involved?_of_involved ofSpace placed⟩

/-- The term for a field of the object that an event is about. -/
def term (field value : String) : String :=
  "involvedObject." ++ field ++ "=" ++ value

theorem wideSelector_eq (kind name : String) :
    wideSelector kind name = term "kind" kind ++ "," ++ term "name" name := by
  have first : "involvedObject.kind=" = "involvedObject." ++ "kind" ++ "=" := by decide
  have second : ",involvedObject.name=" = "," ++ "involvedObject." ++ "name" ++ "=" := by decide
  unfold wideSelector term
  rw [first, second]
  simp only [String.append_assoc]
  rfl

theorem narrowSelector_eq (kind name space : String) :
    narrowSelector kind name space =
      wideSelector kind name ++ "," ++ term "namespace" space := by
  have third : ",involvedObject.namespace=" = "," ++ "involvedObject." ++ "namespace" ++ "=" := by
    decide
  unfold narrowSelector wideSelector term
  rw [third]
  simp only [String.append_assoc]
  rfl

/-- The fields that events are looked for by. -/
def fields : List String :=
  ["kind", "name", "namespace"]

/-- A term asks for its field. -/
theorem holds_term {field : String} (known : field ∈ fields) (event : Json) {value : String}
    (single : ',' ∉ value.toList) :
    Selector.holds event (term field value) =
      (involved? field event == some (Text.trim value)) := by
  obtain ⟨steps, unindexed, unequal, unsplit⟩ :
      Json.pointerSteps ((Text.trimChars ("involvedObject." ++ field).toList).map fun c =>
        if c = '.' then '/' else c) = ["involvedObject", field] ∧
      Json.index? field = none ∧ '=' ∉ ("involvedObject." ++ field).toList ∧
      ',' ∉ ("involvedObject." ++ field).toList := by
    revert field
    decide +kernel
  have written : (term field value).toList =
      ("involvedObject." ++ field).toList ++ '=' :: value.toList := by
    unfold term
    rw [String.toList_append, String.toList_append, List.append_assoc]
    rfl
  have unbroken : ',' ∉ (term field value).toList := by
    rw [written]
    simp only [List.mem_append, List.mem_cons, not_or]
    exact ⟨unsplit, by decide, single⟩
  have nonempty : term field value ≠ "" := by
    intro empty
    rw [empty] at written
    exact List.append_ne_nil_of_right_ne_nil _ (List.cons_ne_nil _ _) written.symm
  rw [Selector.holds_of_single event unbroken nonempty, written,
    Selector.termHolds_append event unequal, steps,
    event.strAt?_pair (by decide) unindexed]
  rfl

/-- A selector that holds of an event asks for the field even if it is to be empty. -/
theorem involved?_of_holds {field value : String} (known : field ∈ fields)
    (same : involved field event = value)
    (held : Selector.holds event (term field value) = true) :
    involved? field event = some value := by
  by_cases empty : value = ""
  · rw [empty, holds_term known event (by decide)] at held
    rw [empty]
    exact eq_of_beq held
  · exact involved?_of_involved same empty

theorem holds_term_self {field value : String} (known : field ∈ fields) (plain : IsPlain value)
    (found : involved? field event = some value) :
    Selector.holds event (term field value) = true := by
  rw [holds_term known event plain.single, plain.trimmed, found]
  exact beq_self_eq_true _

/-- Both selectors hold of the events that are looked for. -/
theorem IsAbout.holds_wideSelector (about : IsAbout kind name space event)
    (kindPlain : IsPlain kind) (namePlain : IsPlain name) :
    Selector.holds event (wideSelector kind name) = true := by
  rw [wideSelector_eq, Selector.holds_append, holds_term_self (by decide) kindPlain about.kind,
    holds_term_self (by decide) namePlain about.name]
  rfl

theorem IsAbout.holds_narrowSelector (about : IsAbout kind name space event)
    (kindPlain : IsPlain kind) (namePlain : IsPlain name) (spacePlain : IsPlain space) :
    Selector.holds event (narrowSelector kind name space) = true := by
  rw [narrowSelector_eq, Selector.holds_append, about.holds_wideSelector kindPlain namePlain,
    holds_term_self (by decide) spacePlain about.space]
  rfl

theorem holds_wideSelector_of_narrow
    (held : Selector.holds event (narrowSelector kind name space) = true) :
    Selector.holds event (wideSelector kind name) = true := by
  rw [narrowSelector_eq, Selector.holds_append, Bool.and_eq_true] at held
  exact held.1

/-- What is selected and not dropped afterwards is looked for. -/
theorem isAbout_of_selected (about : concerns kind name space event = true) (placed : space ≠ "")
    (held : Selector.holds event (wideSelector kind name) = true) :
    IsAbout kind name space event := by
  obtain ⟨ofKind, ofName, ofSpace⟩ := concerns_iff.mp about
  rw [wideSelector_eq, Selector.holds_append, Bool.and_eq_true] at held
  exact ⟨involved?_of_holds (by decide) ofKind held.1, involved?_of_holds (by decide) ofName held.2,
    involved?_of_involved ofSpace placed⟩

end EventLookup

open EventLookup

/-! ## Lists of events -/

namespace Client

/-- The events in a namespace that a selector selects, if the cluster of a client lists them. -/
def eventsBy? (client : Client) (fleet : Fleet) (space selector : String) : Option (List Json) :=
  (client.list fleet .events (some space) (.ofSelector selector)).1.toOption.map (·.items)

variable {client : Client} {fleet : Fleet} {space selector : String}

theorem eventsBy?_of_sameContents {before after : Fleet} (same : before.SameContents after)
    (client : Client) (space selector : String) :
    client.eventsBy? after space selector = client.eventsBy? before space selector := by
  unfold eventsBy?
  rw [list_fst_of_sameContents same]

theorem eventsBy?_eq_some {events : List Json}
    (listed : client.eventsBy? fleet space selector = some events) :
    events = ((client.cluster fleet).shelf .events).select (some space) (some selector) := by
  unfold eventsBy? at listed
  obtain ⟨page, answered, rfl⟩ := Option.map_eq_some_iff.mp listed
  unfold Client.list at answered
  split at answered
  · cases answered
  · dsimp only [Cluster.list] at answered
    cases answer : (client.cluster fleet).listAnswer .events (some space)
        (.ofSelector selector) with
    | error error =>
        rw [answer] at answered
        cases answered
    | ok page =>
        rw [answer] at answered
        cases answered
        exact Cluster.listAnswer_ofSelector answer

/-- The events that are looked at again: those of the first selector, or else of the second. -/
def eventCandidates (client : Client) (fleet : Fleet) (kind name space : String) : List Json :=
  ((client.eventsBy? fleet space (narrowSelector kind name space)).or
    (client.eventsBy? fleet space (wideSelector kind name))).getD []

theorem eventCandidates_of_sameContents {before after : Fleet} (same : before.SameContents after)
    (client : Client) (kind name space : String) :
    client.eventCandidates after kind name space =
      client.eventCandidates before kind name space := by
  unfold eventCandidates
  rw [eventsBy?_of_sameContents same, eventsBy?_of_sameContents same]

/-- Whichever selector selects an event, the shorter one holds of it. -/
theorem holds_of_candidate {kind name : String} {event : Json}
    (candidate : event ∈ client.eventCandidates fleet kind name space) :
    Selector.holds event (wideSelector kind name) = true := by
  unfold eventCandidates at candidate
  cases narrow : client.eventsBy? fleet space (narrowSelector kind name space) with
  | some events =>
      rw [narrow, eventsBy?_eq_some narrow] at candidate
      exact holds_wideSelector_of_narrow (Shelf.holds_of_mem_select candidate)
  | none =>
      rw [narrow, Option.none_or] at candidate
      cases wide : client.eventsBy? fleet space (wideSelector kind name) with
      | some events =>
          rw [wide, eventsBy?_eq_some wide] at candidate
          exact Shelf.holds_of_mem_select candidate
      | none =>
          rw [wide] at candidate
          cases candidate

/-- A selector that holds of all events that are looked for selects them, and what else it selects
is dropped. -/
theorem filter_eventsBy? {kind name : String} (kinded : kind ≠ "") (named : name ≠ "")
    (placed : space ≠ "") {events : List Json}
    (listed : client.eventsBy? fleet space selector = some events)
    (selects : ∀ event, IsAbout kind name space event → Selector.holds event selector = true) :
    events.filter (concerns kind name space) =
      (((client.cluster fleet).shelf .events).filter fun entry =>
        entry.1.space = some space ∧ IsAbout kind name space entry.2).map (·.2) := by
  have iff : ∀ event, concerns kind name space event = true ↔ IsAbout kind name space event :=
    fun event => ⟨fun about => isAbout_of_concerns about kinded named placed, IsAbout.concerns⟩
  rw [eventsBy?_eq_some listed,
    Shelf.filter_select _ _ _ fun event about => selects event ((iff event).mp about)]
  simp only [iff]

end Client

namespace Site

theorem listWith_eventsBy? (site : Site) (client : Client) (space selector : String) :
    (site.listWith client .events (some space) (.ofSelector selector)).1.toOption.map (·.items) =
      client.eventsBy? site.fleet space selector :=
  rfl

/-- The second selector counts if the cluster does not answer for the first one. -/
theorem eventCandidates_fst (site : Site) (client : Client) (kind name space : String) :
    (site.eventCandidates client kind name space).1 =
      client.eventCandidates site.fleet kind name space := by
  have asked := (site.listWith_evolves client .events (some space)
    (.ofSelector (narrowSelector kind name space))).sameContents
  have again := Client.eventsBy?_of_sameContents asked client space (wideSelector kind name)
  rw [Client.eventCandidates, ← again, ← listWith_eventsBy?, ← listWith_eventsBy?]
  unfold Site.eventCandidates
  rcases site.listWith client .events (some space)
    (.ofSelector (narrowSelector kind name space)) with ⟨answer, after⟩
  cases answer with
  | ok page => rfl
  | error error =>
      dsimp only
      rcases after.listWith client .events (some space)
        (.ofSelector (wideSelector kind name)) with ⟨_ | page, last⟩
      · rfl
      · rfl

end Site

/-! ## What a request is answered with -/

namespace Lens

variable {lens : Lens} {rawSpace? context? : Option String} {space : String} {handle : Handle}

theorem events_fst (kind name : String) (meant : Namespace.normalize rawSpace? = some space)
    (found : (lens.site.resolve context?).1 = .ok handle) :
    (lens.events kind name rawSpace? context?).1 =
      .ok ((handle.client.eventCandidates lens.site.fleet kind name space).filter
        (concerns kind name space)) := by
  have same := (lens.site.resolve_evolves context?).sameContents
  rw [← Client.eventCandidates_of_sameContents same, ← Site.eventCandidates_fst]
  unfold Lens.events Site.events
  rw [meant]
  rcases resolved : lens.site.resolve context? with ⟨_, site⟩
  rw [resolved] at found
  cases found
  rfl

/-- Events are only looked for in a namespace, and over a connection. -/
theorem events_cases {kind name : String} {events : List Json}
    (answer : (lens.events kind name rawSpace? context?).1 = .ok events) :
    events = [] ∨ ∃ space handle, Namespace.normalize rawSpace? = some space ∧
      (lens.site.resolve context?).1 = .ok handle := by
  unfold Lens.events Site.events at answer
  cases meant : Namespace.normalize rawSpace? with
  | none =>
      rw [meant] at answer
      exact .inl (Except.ok.inj answer).symm
  | some space =>
      rw [meant] at answer
      rcases resolved : lens.site.resolve context? with ⟨error | handle, site⟩
      · rw [resolved] at answer
        cases answer
      · exact .inr ⟨space, handle, rfl, rfl⟩

/-- The events about an object.  When the kind, the name and the namespace can be written into a
selector, and the cluster lists the events of the namespace by the first two, the answer has all the
stored ones in their order, whether or not the cluster supports the namespace in a selector.  When
it lists them by neither selector, there are none.  All events that are ever returned name the kind,
the name and the namespace. -/
theorem events_exact (lens : Lens) (kind name : String) (rawSpace? context? : Option String) :
    (∀ space handle, Namespace.normalize rawSpace? = some space →
      (lens.site.resolve context?).1 = .ok handle →
      (kind ≠ "" → name ≠ "" → IsPlain kind → IsPlain name → IsPlain space →
        handle.client.eventsBy? lens.site.fleet space (wideSelector kind name) ≠ none →
        (lens.events kind name rawSpace? context?).1 =
          .ok ((((handle.client.cluster lens.site.fleet).shelf .events).filter fun entry =>
            entry.1.space = some space ∧ IsAbout kind name space entry.2).map (·.2))) ∧
      (handle.client.eventsBy? lens.site.fleet space (narrowSelector kind name space) = none →
        handle.client.eventsBy? lens.site.fleet space (wideSelector kind name) = none →
        (lens.events kind name rawSpace? context?).1 = .ok [])) ∧
    ∀ events, (lens.events kind name rawSpace? context?).1 = .ok events →
      ∀ event ∈ events, ∃ space, Namespace.normalize rawSpace? = some space ∧
        IsAbout kind name space event := by
  refine ⟨fun space handle meant found => ⟨?_, ?_⟩, fun events answer event returned => ?_⟩
  · intro kinded named kindPlain namePlain spacePlain answered
    have placed := Namespace.normalize_ne_empty meant
    obtain ⟨wide, listedWide⟩ := Option.ne_none_iff_exists'.mp answered
    rw [events_fst kind name meant found, Client.eventCandidates, listedWide]
    cases listed : handle.client.eventsBy? lens.site.fleet space
        (narrowSelector kind name space) with
    | some narrow =>
        exact congrArg _ (Client.filter_eventsBy? kinded named placed listed fun _ about =>
          about.holds_narrowSelector kindPlain namePlain spacePlain)
    | none =>
        exact congrArg _ (Client.filter_eventsBy? kinded named placed listedWide fun _ about =>
          about.holds_wideSelector kindPlain namePlain)
  · intro narrow wide
    rw [events_fst kind name meant found, Client.eventCandidates, narrow, wide]
    rfl
  · rcases events_cases answer with rfl | ⟨space, handle, meant, found⟩
    · cases returned
    · refine ⟨space, meant, ?_⟩
      rw [events_fst kind name meant found] at answer
      obtain rfl := Except.ok.inj answer
      obtain ⟨candidate, about⟩ := List.mem_filter.mp returned
      exact isAbout_of_selected about (Namespace.normalize_ne_empty meant)
        (Client.holds_of_candidate candidate)

/-- An event about an object. -/
def eventAbout (kind name space : String) : Json :=
  .obj [("involvedObject",
    .obj [("kind", .str kind), ("name", .str name), ("namespace", .str space)])]

/-- A service whose only context has events about two pods, and supports no selectors with some
fields. -/
def withEvents (rejectedFields : List String) : Lens :=
  let stored : Shelf :=
    [(⟨some "prod", "first"⟩, eventAbout "Pod" "db" "prod"),
      (⟨some "prod", "second"⟩, eventAbout "Pod" "web" "prod")]
  let cluster : Cluster :=
    { types := [ResourceType.events.shelfKey]
      shelves := [(ResourceType.events.shelfKey, stored)], rejectedFields }
  (onHost (.defaults none) (.storing ["dev"])).run [.reshape "dev" cluster]

/-- The event about a pod is found although the namespace is not supported in selectors, and no
event is found when the name is not supported either. -/
theorem events_exact_web :
    let handle : Handle := ⟨"dev", { context := "dev" }⟩
    let lens := withEvents ["involvedObject.namespace"]
    let other := withEvents ["involvedObject.name"]
    handle.client.eventsBy? lens.site.fleet "prod" (narrowSelector "Pod" "web" "prod") = none ∧
      (lens.events "Pod" "web" (some "prod") (some "dev")).1 =
        .ok [eventAbout "Pod" "web" "prod"] ∧
      IsAbout "Pod" "web" "prod" (eventAbout "Pod" "web" "prod") ∧
      (other.events "Pod" "web" (some "prod") (some "dev")).1 = .ok [] := by
  intro handle lens other
  have narrow : (handle.client.eventsBy? lens.site.fleet "prod"
      (narrowSelector "Pod" "web" "prod")).isNone = true := by decide +kernel
  have wide : (handle.client.eventsBy? lens.site.fleet "prod"
      (wideSelector "Pod" "web")).isSome = true := by decide +kernel
  have neither : ∀ selector ∈ [narrowSelector "Pod" "web" "prod", wideSelector "Pod" "web"],
      (handle.client.eventsBy? other.site.fleet "prod" selector).isNone = true := by
    decide +kernel
  obtain ⟨finds, names⟩ := events_exact lens "Pod" "web" (some "prod") (some "dev")
  have answer := (finds "prod" handle (by decide) rfl).1 (by decide) (by decide)
    (by decide +kernel) (by decide +kernel) (by decide +kernel) (Option.isSome_iff_ne_none.mp wide)
  have stored : (((handle.client.cluster lens.site.fleet).shelf .events).filter fun entry =>
      entry.1.space = some "prod" ∧ IsAbout "Pod" "web" "prod" entry.2).map (·.2) =
        [eventAbout "Pod" "web" "prod"] := by rfl
  rw [stored] at answer
  obtain ⟨_, meant, about⟩ := names _ answer _ List.mem_cons_self
  obtain ⟨finds, _⟩ := events_exact other "Pod" "web" (some "prod") (some "dev")
  have nothing := (finds "prod" handle (by decide) rfl).2
    (Option.isNone_iff_eq_none.mp (neither _ (by simp)))
    (Option.isNone_iff_eq_none.mp (neither _ (by simp)))
  cases meant
  exact ⟨Option.isNone_iff_eq_none.mp narrow, answer, about, nothing⟩

end Lens
end KubeLens
