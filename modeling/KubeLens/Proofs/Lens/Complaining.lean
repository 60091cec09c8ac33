import KubeLens.Proofs.Lens.Mailing

/-!
# What a session complains about

A text that asks for nothing that can be done is answered with one error, and that is all it does.
A list of descriptors is heeded as far as it can be: each descriptor that is not valid is answered
with an error, in the order of the list, and the others are watched as if they were the whole list.
The answers wait until there is room for them.
-/

namespace KubeLens
namespace Watch

/-! ## Complaints -/

namespace Descriptor

/-- The fields that must be filled, with their names. -/
def required (descriptor : Descriptor) : List (String × String) :=
  [("apiVersion", descriptor.apiVersion), ("kind", descriptor.kind), ("name", descriptor.name)]

/-- The first field that must be filled and is blank. -/
def blank? (descriptor : Descriptor) : Option String :=
  (descriptor.required.find? fun field => Text.isBlankText field.2).map (·.1)

/-- What is said about a descriptor that is not valid. -/
def complaint (descriptor : Descriptor) : Message :=
  .error ("Validation error: resource " ++ descriptor.blank?.getD "" ++ " is required")

end Descriptor

/-- Whether a text, as it was read, asks for nothing that can be done, and what it is answered. -/
inductive Control.Refused : Option Control → Message → Prop
  | unreadable : Refused none (.error "Invalid message format")
  | subscribesToNothing : Refused (some (.subscribe none none))
      (.error "Protocol error: subscribe requires a resource or resources")
  | unsubscribesFromNothing : Refused (some (.unsubscribe none))
      (.error "Protocol error: unsubscribe requires a resource")
  | incomplete {descriptor : Descriptor} (invalid : ¬descriptor.IsValid) :
      Refused (some (.subscribe (some descriptor) none)) descriptor.complaint

namespace Session

variable {session : Session}

theorem fault?_eq_blank? (descriptor : Descriptor) :
    fault? descriptor =
      descriptor.blank?.map fun field => .fieldRequired ("resource " ++ field) := by
  unfold fault? Descriptor.blank? Descriptor.required
  cases apiVersion : Text.isBlankText descriptor.apiVersion <;>
    cases kind : Text.isBlankText descriptor.kind <;>
    cases name : Text.isBlankText descriptor.name <;>
    simp [apiVersion, kind, name]

theorem message_fieldRequired (field : String) :
    (ServiceError.fieldRequired field).message =
      "Validation error: " ++ (field ++ " is required") := by
  unfold ServiceError.fieldRequired ServiceError.message
  dsimp only
  rfl

/-- What is wrong with a descriptor that is not valid is said in its complaint. -/
theorem fault?_of_invalid {descriptor : Descriptor} (invalid : ¬descriptor.IsValid) :
    ∃ error, fault? descriptor = some error ∧
      Message.error error.message = descriptor.complaint := by
  cases faulty : fault? descriptor with
  | none => exact absurd (fault?_eq_none_iff.mp faulty) invalid
  | some error =>
      rw [fault?_eq_blank?] at faulty
      obtain ⟨field, blank, rfl⟩ := Option.map_eq_some_iff.mp faulty
      have words : "Validation error: resource " = "Validation error: " ++ "resource " := by decide
      unfold Descriptor.complaint
      refine ⟨_, rfl, congrArg Message.error ?_⟩
      rw [message_fieldRequired, blank, words, Option.getD_some]
      simp only [String.append_assoc]

/-- The errors about a list are the complaints about the descriptors that are not valid. -/
theorem map_faults (descriptors : List Descriptor) :
    (faults descriptors).map (fun error => Message.error error.message) =
      (descriptors.filter fun descriptor => ¬descriptor.IsValid).map Descriptor.complaint := by
  unfold faults
  induction descriptors with
  | nil => rfl
  | cons descriptor rest ih =>
      by_cases valid : descriptor.IsValid
      · rw [List.filterMap_cons_none (fault?_eq_none_iff.mpr valid),
          List.filter_cons_of_neg (by simpa using valid), ih]
      · obtain ⟨error, faulty, said⟩ := fault?_of_invalid valid
        rw [List.filterMap_cons_some faulty, List.filter_cons_of_pos (by simpa using valid),
          List.map_cons, List.map_cons, ih, said]

/-! ## Messages of the peer -/

/-- A message that asks for nothing that can be done is answered, and changes nothing. -/
theorem handle_refused (session : Session) (active? : Option String) {control : Control}
    {message : Message} (refused : Control.Refused (some control) message) :
    session.handle active? control = session.owe [message] := by
  cases refused with
  | subscribesToNothing => rfl
  | unsubscribesFromNothing => rfl
  | incomplete invalid =>
      obtain ⟨error, faulty, said⟩ := fault?_of_invalid invalid
      rw [← said]
      unfold handle subscribe
      dsimp only
      rw [faulty]
      rfl

theorem wanted_filter (descriptors : List Descriptor) :
    wanted (descriptors.filter (·.IsValid)) = wanted descriptors := by
  simp [wanted, isNone_fault?]

theorem faults_filter (descriptors : List Descriptor) :
    faults (descriptors.filter (·.IsValid)) = [] := by
  refine List.filterMap_eq_nil_iff.mpr fun descriptor present => ?_
  exact fault?_eq_none_iff.mpr (by simpa using (List.mem_filter.mp present).2)

/-- Descriptors that are not valid make a list do no more and no less than the others do, but for
the answers. -/
theorem replace_eq_owe (opened : session.isClosed = false) (active? : Option String)
    (descriptors : List Descriptor) :
    session.replace active? descriptors =
      (session.replace active? (descriptors.filter (·.IsValid))).owe
        ((descriptors.filter fun descriptor => ¬descriptor.IsValid).map Descriptor.complaint) := by
  unfold replace
  rw [opened, wanted_filter, faults_filter, map_faults]
  simp [owe]

end Session
end Watch

namespace Lens

open Watch

/-- Whether a session, having heard a text, answers it with these messages and no others.  What it
has sent its peer or owes it are the answers that it owed before and these, until a text of the peer
is handled again or the session goes offline; and a peer that goes on receiving gets all of them,
even if the queue is full. -/
structure AnswersWith (before heard : Lens) (id : Nat) (messages : List Message) : Prop where
  exact : ∀ later, (∀ text, Event.handleText id text ∉ later) →
    ((heard.run later).session id).Online →
      ((heard.run later).session id).answers = (before.session id).answers ++ messages
  sent : ∃ later, (∀ event ∈ later, event = .receive id 1 ∨ event = .reply id) ∧
    ((heard.run later).session id).Online ∧ ((heard.run later).session id).replies = [] ∧
    ((heard.run later).session id).answered = (before.session id).answers ++ messages

/-- A session that owes its peer some more messages after a text answers the text with them. -/
theorem answersWith_of_owe {settings : Settings} {host : Host} {events : List Event} {id : Nat}
    {text : String} {after : Session} {messages : List Message} :
    let lens := (onHost settings host).run events
    id < lens.hub.sessions.length → after.Online → after.answers = (lens.session id).answers →
    lens.handleText id text = lens.modifySession id (fun _ => after.owe messages) →
      lens.AnswersWith (lens.handleText id text) id messages := by
  intro lens inside online same heard
  have run : (onHost settings host).run (events ++ [.handleText id text]) =
      lens.handleText id text := run_append _ _ _
  have own : (lens.handleText id text).session id = after.owe messages := by
    rw [heard]
    exact Hub.session_put_self inside _
  have answers : ((lens.handleText id text).session id).answers =
      (lens.session id).answers ++ messages := by
    rw [own, Session.answers_owe, same]
  refine ⟨fun later quiet online => ?_, ?_⟩
  · have sane := run_sane settings host (events ++ [.handleText id text])
    rw [run] at sane
    exact (run_answers sane quiet online).trans answers
  · have bounded := run_bounded settings host (events ++ [.handleText id text]) id
    rw [run] at bounded
    have still : id < (lens.handleText id text).hub.sessions.length := by
      rw [heard]
      simpa [modifySession, Hub.put] using inside
    obtain ⟨later, only, stays, none_left, all⟩ := exists_drained still bounded (own ▸ online)
    exact ⟨later, only, stays, none_left, all.trans answers⟩

/-- A text that asks for nothing that can be done makes its session owe the peer one error, and
nothing else happens.  A list of descriptors makes it owe one error for each descriptor that is not
valid, in the order of the list; apart from that it does what the list of the valid ones does, which
is answered with nothing.  This holds in any state of the service, as long as the session is open
and its peer receives; and what is owed is sent once, in its order. -/
theorem handleText_complains (settings : Settings) (host : Host) (events : List Event) (id : Nat)
    (text : String)
    (inside : id < ((onHost settings host).run events).hub.sessions.length)
    (opened : (((onHost settings host).run events).session id).isClosed = false)
    (online : (((onHost settings host).run events).session id).Online) :
    let lens := (onHost settings host).run events
    let heard := lens.handleText id text
    (∀ message, Control.Refused (Control.read? text) message →
      heard = lens.modifySession id (·.owe [message]) ∧
      lens.AnswersWith heard id [message]) ∧
    ∀ resource? descriptors,
      Control.read? text = some (.subscribe resource? (some descriptors)) →
      let valid := Control.subscribe resource? (some (descriptors.filter (·.IsValid)))
      let complaints :=
        (descriptors.filter fun descriptor => ¬descriptor.IsValid).map Descriptor.complaint
      ((lens.session id).handle lens.current? valid).answers = (lens.session id).answers ∧
      heard = lens.modifySession id
        (fun session => (session.handle lens.current? valid).owe complaints) ∧
      lens.AnswersWith heard id complaints := by
  intro lens heard
  have hears (after : Session)
      (same : (lens.session id).handleText lens.current? text = after) :
      heard = lens.modifySession id fun _ => after :=
    congrArg (fun session => { lens with hub := lens.hub.put id session }) same
  unfold Session.handleText at hears
  constructor
  · intro message refused
    have owes : heard = lens.modifySession id (·.owe [message]) := by
      refine hears _ ?_
      cases read : Control.read? text with
      | none =>
          rw [read] at refused
          cases refused
          rfl
      | some control =>
          rw [read] at refused
          exact (lens.session id).handle_refused lens.current? refused
    exact ⟨owes, answersWith_of_owe inside online rfl owes⟩
  · intro resource? descriptors read valid complaints
    rw [read] at hears
    have owes := hears _ (Session.replace_eq_owe opened lens.current? descriptors)
    have utters := (lens.session id).handle_utters lens.current? valid
    obtain ⟨messages, same, silent⟩ := (lens.session id).handle_mail lens.current? valid
    have sound : valid.IsSound := fun descriptor listed => by
      simpa using (List.mem_filter.mp listed).2
    have answers : ((lens.session id).handle lens.current? valid).answers =
        (lens.session id).answers := by
      rw [same.answers, silent sound, Session.answers_owe, List.append_nil]
    exact ⟨answers, owes, answersWith_of_owe inside (utters.stays online) answers owes⟩

/-- A session without context, which would use `dev`. -/
def unpinned : List Event :=
  [.setContext "dev", .openSession none]

/-- The peer asks for nothing, and then for a list of which one descriptor is valid. -/
theorem handleText_complains_unpinned :
    let lens := (onHost (.defaults none) (.storing ["dev"])).run unpinned
    let nothing := "[\"subscribe\"]"
    let bulk := "[\"subscribe\", null, [[\"v1\"], [\"v1\", \"Pod\", \"a\"], [\" \"]]]"
    let pod : Descriptor := { apiVersion := "v1", kind := "Pod", name := "a" }
    let demand : Message := .error "Protocol error: subscribe requires a resource or resources"
    let complaints : List Message :=
      [.error "Validation error: resource kind is required",
        .error "Validation error: resource apiVersion is required"]
    (lens.session 0).isClosed = false ∧ (lens.session 0).Online ∧
      lens.handleText 0 nothing = lens.modifySession 0 (·.owe [demand]) ∧
      lens.AnswersWith (lens.handleText 0 nothing) 0 [demand] ∧
      lens.handleText 0 bulk = lens.modifySession 0 (fun session =>
        (session.handle (some "dev") (.subscribe none (some [pod]))).owe complaints) ∧
      lens.AnswersWith (lens.handleText 0 bulk) 0 complaints := by
  intro lens nothing bulk pod demand complaints
  have inside : 0 < lens.hub.sessions.length := by decide +kernel
  have opened : (lens.session 0).isClosed = false := by decide +kernel
  have online : (lens.session 0).Online := ⟨by decide +kernel, by decide +kernel⟩
  obtain ⟨refuses, _⟩ := handleText_complains (.defaults none) (.storing ["dev"]) unpinned 0
    nothing inside opened online
  obtain ⟨_, heeds⟩ := handleText_complains (.defaults none) (.storing ["dev"]) unpinned 0
    bulk inside opened online
  have read : Control.read? nothing = some (.subscribe none none) := by decide +kernel
  have listed : Control.read? bulk = some (.subscribe none
    (some [{ apiVersion := "v1" }, pod, { apiVersion := " " }])) := by decide +kernel
  obtain ⟨_, answered, answers⟩ := heeds _ _ listed
  have valid : [{ apiVersion := "v1" }, pod, { apiVersion := " " }].filter
      (·.IsValid) = [pod] := by decide +kernel
  have invalid : [{ apiVersion := "v1" }, pod, { apiVersion := " " }].filter
      (fun descriptor => ¬descriptor.IsValid) =
        [{ apiVersion := "v1" }, { apiVersion := " " }] := by decide +kernel
  have kind : ({ apiVersion := "v1" } : Descriptor).blank? = some "kind" := by decide +kernel
  have apiVersion : ({ apiVersion := " " } : Descriptor).blank? = some "apiVersion" := by
    decide +kernel
  have said : [({ apiVersion := "v1" } : Descriptor), { apiVersion := " " }].map
      Descriptor.complaint = complaints := by
    rw [List.map_cons, List.map_cons, List.map_nil, Descriptor.complaint, kind,
      Descriptor.complaint, apiVersion]
    rfl
  have active : lens.current? = some "dev" := by decide +kernel
  rw [invalid, said] at answers
  rw [valid, invalid, said, active] at answered
  have refused : Control.Refused (Control.read? nothing) demand := by
    rw [read]
    exact .subscribesToNothing
  obtain ⟨demands, demanded⟩ := refuses demand refused
  exact ⟨opened, online, demands, demanded, answered, answers⟩

end Lens
end KubeLens
