import KubeLens.Proofs.Lens.Confined
import KubeLens.Proofs.Watch.Spelling

/-!
# No namespace, however it is written

Whether a namespace is left out or written as a text that stands for none makes no difference: to
the answers, to what the clusters are asked, to what is watched and said, and to what happens
later.  Only the tasks remember how it was written.
-/

namespace KubeLens

namespace Event

/-- Whether two events are the same, but for the way in which namespaces are written. -/
inductive Alike : Event → Event → Prop
  | refl (event : Event) : Alike event event
  | list (request : ListRequest) {rawSpace? other? : Option String}
      (alike : Namespace.Alike rawSpace? other?) :
      Alike (.list { request with rawSpace? }) (.list { request with rawSpace? := other? })
  | get (request : GetRequest) {rawSpace? other? : Option String}
      (alike : Namespace.Alike rawSpace? other?) :
      Alike (.get { request with rawSpace? }) (.get { request with rawSpace? := other? })
  | events (kind name : String) (context? : Option String) {rawSpace? other? : Option String}
      (alike : Namespace.Alike rawSpace? other?) :
      Alike (.events kind name rawSpace? context?) (.events kind name other? context?)
  | subscribe (id : Nat) (descriptor : Watch.Descriptor) {rawSpace? other? : Option String}
      (alike : Namespace.Alike rawSpace? other?) :
      Alike (.subscribe id { descriptor with rawSpace? })
        (.subscribe id { descriptor with rawSpace? := other? })
  | unsubscribe (id : Nat) (descriptor : Watch.Descriptor) {rawSpace? other? : Option String}
      (alike : Namespace.Alike rawSpace? other?) :
      Alike (.unsubscribe id { descriptor with rawSpace? })
        (.unsubscribe id { descriptor with rawSpace? := other? })
  /-- Two texts that ask for the same. -/
  | handleText (id : Nat) {text other : String}
      (alike : (Watch.Control.read? text).map Watch.Control.canonical =
        (Watch.Control.read? other).map Watch.Control.canonical) :
      Alike (.handleText id text) (.handleText id other)

end Event

namespace Watch

theorem Descriptor.canonical_eq_of_alike (descriptor : Descriptor)
    {rawSpace? other? : Option String} (alike : Namespace.Alike rawSpace? other?) :
    { descriptor with rawSpace? }.canonical =
      { descriptor with rawSpace? := other? }.canonical := by
  unfold canonical space?
  rw [Namespace.alike_iff.mp alike]

namespace Session

variable {session : Session} {active? : Option String}

theorem unsubscribe_eq {descriptor other : Descriptor}
    (same : descriptor.canonical = other.canonical) :
    session.unsubscribe descriptor = session.unsubscribe other := by
  unfold unsubscribe
  rw [← descriptor.key_canonical, same, other.key_canonical]

/-- What is watched is not started once more. -/
theorem subscribe_again {descriptor other : Descriptor} {after : Session} (next? : Option String)
    (done : session.subscribe active? descriptor = .ok after)
    (same : descriptor.canonical = other.canonical) : after.subscribe next? other = .ok after := by
  have fault : fault? other = fault? descriptor := by
    rw [← Descriptor.fault?_canonical, ← same, Descriptor.fault?_canonical]
  have key : other.key = descriptor.key := by
    rw [← Descriptor.key_canonical, ← same, Descriptor.key_canonical]
  have served : (after.isClosed || after.watches.has other.key) = true := by
    unfold subscribe at done
    rw [key]
    cases faulty : fault? descriptor with
    | some error => rw [faulty] at done; cases done
    | none =>
        rw [faulty] at done
        by_cases watched : (session.isClosed || session.watches.has descriptor.key) = true
        · simp only [if_pos watched, Except.ok.injEq] at done
          exact done ▸ watched
        · simp only [if_neg watched, Except.ok.injEq] at done
          rw [← done]
          simp [start, Assoc.has]
  unfold subscribe at done ⊢
  rw [fault]
  cases faulty : fault? descriptor with
  | some error => rw [faulty] at done; cases done
  | none => simp only [if_pos served]

/-- A text does the same to sessions that differ in nothing but the way namespaces are written. -/
theorem handleText_canonical (session : Session) (active? : Option String) (text : String) :
    (session.canonical.handleText active? text).canonical =
      (session.handleText active? text).canonical := by
  unfold handleText
  cases Control.read? text with
  | none => rw [owe_canonical, canonical_canonical]
  | some control =>
      dsimp only
      rw [← handle_canonical, ← handle_canonical, canonical_canonical]

theorem handleText_eq_of_alike {text other : String}
    (alike : (Control.read? text).map Control.canonical =
      (Control.read? other).map Control.canonical) :
    (session.handleText active? text).canonical = (session.handleText active? other).canonical := by
  unfold handleText
  cases one : Control.read? text with
  | none =>
      cases another : Control.read? other with
      | none => rfl
      | some control => rw [one, another] at alike; simp at alike
  | some control =>
      cases another : Control.read? other with
      | none => rw [one, another] at alike; simp at alike
      | some rewritten =>
          rw [one, another] at alike
          dsimp only
          rw [← handle_canonical, Option.some.inj alike, handle_canonical]

end Session

/-- Sessions that are put in the same place of hubs, both the same but for the way in which
namespaces are written. -/
theorem Hub.put_eq {hub other : Hub} {session replaced : Session} (id : Nat)
    (same : hub.canonical = other.canonical) (alike : session.canonical = replaced.canonical) :
    (hub.put id session).canonical = (other.put id replaced).canonical := by
  rw [← put_canonical, ← put_canonical, same, alike]

end Watch

namespace Lens

/-- A lens whose tasks are for the namespaces that are meant. -/
def canonical (lens : Lens) : Lens :=
  { lens with hub := lens.hub.canonical }

variable (lens : Lens)

@[simp] theorem canonical_canonical : lens.canonical.canonical = lens.canonical := by
  unfold canonical
  rw [Watch.Hub.canonical_canonical]

/-! ## Operations -/

theorem settle_canonical : lens.canonical.settle = lens.settle.canonical := by
  unfold settle
  simp only [canonical, Watch.Hub.settle_canonical]

theorem pass_canonical (span : Nat) : lens.canonical.pass span = (lens.pass span).canonical := by
  unfold pass
  simp only [canonical, Watch.Hub.advance_canonical]

theorem closeSession_canonical (id : Nat) :
    lens.canonical.closeSession id = (lens.closeSession id).canonical := by
  unfold closeSession
  simp only [canonical, Watch.Hub.closeSession_canonical]

theorem shutdown_canonical : lens.canonical.shutdown = lens.shutdown.canonical := by
  unfold shutdown
  simp only [canonical, Watch.Hub.shutdown_canonical]

theorem openSession_canonical (context? : Option String) :
    (lens.canonical.openSession context?).2 = (lens.openSession context?).2.canonical := by
  unfold openSession
  simp only [canonical, Watch.Hub.openSession_canonical]

/-- A change of a session that is the same, whichever way namespaces are written. -/
theorem modifySession_canonical (id : Nat) {change other : Watch.Session → Watch.Session}
    (respects : ∀ session : Watch.Session,
      (change session.canonical).canonical = (other session).canonical) :
    (lens.canonical.modifySession id change).canonical =
      (lens.modifySession id other).canonical := by
  have put := Watch.Hub.put_eq id lens.hub.canonical_canonical (respects (lens.hub.session id))
  rw [← Watch.Hub.session_canonical] at put
  exact congrArg (fun hub => { lens with hub }) put

theorem restore_canonical (previous? : Option String) (probed : String) :
    lens.canonical.restore previous? probed = (lens.restore previous? probed).canonical := by
  unfold restore
  cases previous?.filter (· != probed) <;> rfl

theorem waited_canonical (handle : Handle) :
    lens.canonical.waited handle = (lens.waited handle).canonical :=
  (lens.probed handle).pass_canonical _

theorem check_canonical (context? : Option String) :
    (lens.canonical.check context?).2 = (lens.check context?).2.canonical := by
  have same : lens.canonical.site = lens.site := rfl
  cases found : (lens.site.resolve context?).1 with
  | error error =>
      rw [check_of_error (same ▸ found), check_of_error found]
      rfl
  | ok handle =>
      have looked : lens.canonical.act (.resolve context?) =
          (lens.act (.resolve context?)).canonical :=
        rfl
      have current : lens.canonical.current? = lens.current? := rfl
      rw [check_of_ok (same ▸ found), check_of_ok found, looked, waited_canonical, current,
        restore_canonical]

/-- What a task does in its turn is the same, whichever way namespaces are written. -/
theorem takeTurn_canonical (id generation : Nat) {able : Watch.Task → Lens → Bool}
    {turn : Watch.Task → Lens → Watch.Turn}
    (ables : ∀ task, able task.canonical lens.canonical = able task lens)
    (turns : ∀ task, turn task.canonical lens.canonical = (turn task lens).canonical) :
    lens.canonical.takeTurn id generation able turn =
      (lens.takeTurn id generation able turn).canonical := by
  have looked : lens.canonical.session id = (lens.session id).canonical :=
    lens.hub.session_canonical id
  unfold takeTurn
  rw [looked, Watch.Session.task?_canonical]
  cases (lens.session id).task? generation with
  | none => rfl
  | some task =>
      simp only [Option.map_some, ables, turns]
      cases able task lens with
      | false => rfl
      | true =>
          exact congrArg (fun hub => { lens with site := (turn task lens).1, hub })
            (lens.hub.put_canonical id _)

theorem stepTask_canonical (id generation : Nat) :
    lens.canonical.stepTask id generation = (lens.stepTask id generation).canonical := by
  have looked : lens.canonical.session id = (lens.session id).canonical :=
    lens.hub.session_canonical id
  rw [stepTask_eq, stepTask_eq]
  refine takeTurn_canonical lens id generation (fun task => ?_) fun task => ?_
  · rw [looked]
    rfl
  · rw [looked]
    exact task.step_canonical _ (lens.site, lens.session id)

theorem tickTask_canonical (id generation : Nat) :
    lens.canonical.tickTask id generation = (lens.tickTask id generation).canonical := by
  have looked : lens.canonical.session id = (lens.session id).canonical :=
    lens.hub.session_canonical id
  rw [tickTask_eq, tickTask_eq]
  refine takeTurn_canonical lens id generation (fun task => rfl) fun task => ?_
  rw [looked]
  exact task.tick_canonical _ (lens.site, lens.session id)

/-- Lenses that are the same but for the way in which namespaces are written subscribe to the same
objects, whichever way their namespaces are written. -/
theorem subscribe_eq {lens other : Lens} (id : Nat) {descriptor rewritten : Watch.Descriptor}
    (same : lens.canonical = other.canonical)
    (alike : descriptor.canonical = rewritten.canonical) :
    (lens.subscribe id descriptor).1 = (other.subscribe id rewritten).1 ∧
      (lens.subscribe id descriptor).2.canonical =
        (other.subscribe id rewritten).2.canonical := by
  have hubs : lens.hub.canonical = other.hub.canonical := congrArg Lens.hub same
  have sessions : (lens.session id).canonical = (other.session id).canonical := by
    unfold Lens.session
    rw [← Watch.Hub.session_canonical, hubs, Watch.Hub.session_canonical]
  have current : lens.current? = other.current? :=
    congrArg (fun lens => lens.site.board.current) same
  have answers : ((lens.session id).subscribe lens.current? descriptor).map
        Watch.Session.canonical =
      ((other.session id).subscribe other.current? rewritten).map Watch.Session.canonical := by
    rw [← Watch.Session.subscribe_canonical, ← Watch.Session.subscribe_canonical, sessions,
      current, alike]
  unfold subscribe
  cases one : (lens.session id).subscribe lens.current? descriptor with
  | error error =>
      cases another : (other.session id).subscribe other.current? rewritten with
      | error fault =>
          rw [one, another] at answers
          exact ⟨congrArg Except.error (Except.error.inj answers), same⟩
      | ok session => rw [one, another] at answers; cases answers
  | ok session =>
      cases another : (other.session id).subscribe other.current? rewritten with
      | error fault => rw [one, another] at answers; cases answers
      | ok replaced =>
          rw [one, another] at answers
          have put := Watch.Hub.put_eq id hubs (Except.ok.inj answers)
          refine ⟨rfl, (congrArg (fun hub => { lens with hub }) put).trans ?_⟩
          exact congrArg (fun before : Lens =>
            { before with hub := (other.hub.put id replaced).canonical }) same

/-! ## Events -/

/-- What happens later does not depend on the way in which namespaces were written. -/
theorem act_canonical (event : Event) :
    (lens.canonical.act event).canonical = (lens.act event).canonical := by
  have settled {after : Lens} (same : lens.canonical.act event = after.canonical) :
      (lens.canonical.act event).canonical = after.canonical := by
    rw [same, canonical_canonical]
  cases event with
  | removeContext name =>
      refine settled ?_
      simp only [act, removeContext]
      rw [show lens.canonical.site = lens.site from rfl]
      rcases lens.site.board.removeContext lens.site.settings lens.site.host lens.site.fleet name
        with ⟨answer, board, host, fleet⟩
      cases answer <;> rfl
  | check context? => exact settled (lens.check_canonical context?)
  | resolvePlural apiVersion kind context? =>
      refine settled ?_
      simp only [act, resolvePlural]
      cases GroupVersion.parseAllowCore apiVersion with
      | error fault => rfl
      | ok gv =>
          rw [show lens.canonical.site = lens.site from rfl]
          rcases lens.site.resolve context? with ⟨answer, site⟩
          cases answer <;> rfl
  | openSession context? => exact settled (lens.openSession_canonical context?)
  | handleText id text =>
      exact lens.modifySession_canonical id fun session =>
        session.handleText_canonical lens.current? text
  | subscribe id descriptor => exact (subscribe_eq id lens.canonical_canonical rfl).2
  | unsubscribe id descriptor =>
      refine lens.modifySession_canonical id fun session => ?_
      rw [Watch.Session.unsubscribe, Watch.Session.unwatch_canonical,
        Watch.Session.canonical_canonical]
      rfl
  | reply id =>
      refine lens.modifySession_canonical id fun session => ?_
      rw [Watch.Session.reply_canonical, Watch.Session.canonical_canonical]
  | receive id count =>
      exact lens.modifySession_canonical id fun session =>
        congrArg (Watch.Session.receive · count) session.canonical_canonical
  | hangUp id =>
      exact lens.modifySession_canonical id fun session =>
        congrArg Watch.Session.hangUp session.canonical_canonical
  | markClosed id =>
      exact lens.modifySession_canonical id fun session =>
        congrArg Watch.Session.close session.canonical_canonical
  | closeSession id => exact settled (lens.closeSession_canonical id)
  | shutdown => exact settled lens.shutdown_canonical
  | step id generation => exact settled (lens.stepTask_canonical id generation)
  | tick id generation => exact settled (lens.tickTask_canonical id generation)
  | settle => exact settled lens.settle_canonical
  | pass span => exact settled (lens.pass_canonical span)
  | _ => exact settled rfl

variable {lens}

theorem list_eq (request : ListRequest) {rawSpace? other? : Option String}
    (alike : Namespace.Alike rawSpace? other?) :
    lens.list { request with rawSpace? } = lens.list { request with rawSpace? := other? } := by
  unfold list Site.list
  rw [Namespace.alike_iff.mp alike]
  rfl

theorem get_eq (request : GetRequest) {rawSpace? other? : Option String}
    (alike : Namespace.Alike rawSpace? other?) :
    lens.get { request with rawSpace? } = lens.get { request with rawSpace? := other? } := by
  have space : { request with rawSpace? }.space? = { request with rawSpace? := other? }.space? :=
    Namespace.alike_iff.mp alike
  have builtin : { request with rawSpace? }.builtin? =
      { request with rawSpace? := other? }.builtin? := by
    unfold GetRequest.builtin?
    rw [space]
  have failure : { request with rawSpace? }.failure =
      { request with rawSpace? := other? }.failure := by
    funext error
    unfold GetRequest.failure
    rw [space]
  unfold get Site.get Site.getGeneric
  rw [builtin, failure, space]
  rfl

theorem events_eq (kind name : String) (context? : Option String) {rawSpace? other? : Option String}
    (alike : Namespace.Alike rawSpace? other?) :
    lens.events kind name rawSpace? context? = lens.events kind name other? context? := by
  unfold events Site.events
  rw [Namespace.alike_iff.mp alike]

theorem unsubscribe_eq (id : Nat) {descriptor other : Watch.Descriptor}
    (same : descriptor.canonical = other.canonical) :
    lens.unsubscribe id descriptor = lens.unsubscribe id other :=
  congrArg (lens.modifySession id) (funext fun _ => Watch.Session.unsubscribe_eq same)

theorem act_eq_of_alike {event other : Event} (alike : event.Alike other) :
    (lens.act event).canonical = (lens.act other).canonical := by
  cases alike with
  | refl => rfl
  | list request alike => exact congrArg (fun answer => answer.2.canonical) (list_eq request alike)
  | get request alike => exact congrArg (fun answer => answer.2.canonical) (get_eq request alike)
  | events kind name context? alike =>
      exact congrArg (fun answer => answer.2.canonical) (events_eq kind name context? alike)
  | subscribe id descriptor alike =>
      exact (subscribe_eq id rfl (descriptor.canonical_eq_of_alike alike)).2
  | unsubscribe id descriptor alike =>
      exact congrArg canonical (unsubscribe_eq id (descriptor.canonical_eq_of_alike alike))
  | handleText id alike =>
      exact congrArg (fun hub => { lens with hub })
        (Watch.Hub.put_eq id rfl (Watch.Session.handleText_eq_of_alike alike))

theorem run_eq_of_alike {lens other : Lens} {events rewritten : List Event}
    (same : lens.canonical = other.canonical)
    (alike : List.Forall₂ Event.Alike events rewritten) :
    (lens.run events).canonical = (other.run rewritten).canonical := by
  induction alike generalizing lens other with
  | nil => exact same
  | cons alike _ ih =>
      refine ih ?_
      rw [← act_canonical, same, act_canonical]
      exact act_eq_of_alike alike

/-- Nothing happens when what is watched is subscribed to once more. -/
theorem subscribe_again (id : Nat) {descriptor other : Watch.Descriptor}
    (same : descriptor.canonical = other.canonical) :
    (lens.subscribe id descriptor).2.subscribe id other = lens.subscribe id descriptor := by
  have answer : (lens.subscribe id descriptor).1 = (lens.subscribe id other).1 :=
    (subscribe_eq id rfl same).1
  unfold subscribe at answer ⊢
  cases done : (lens.session id).subscribe lens.current? descriptor with
  | error error =>
      rw [done] at answer
      cases faulty : (lens.session id).subscribe lens.current? other with
      | error fault => rw [faulty] at answer; exact congrArg (·, lens) answer.symm
      | ok session => rw [faulty] at answer; cases answer
  | ok session =>
      dsimp only
      by_cases inside : id < lens.hub.sessions.length
      · have found : ({ lens with hub := lens.hub.put id session } : Lens).session id = session :=
          Watch.Hub.session_put_self inside session
        rw [found, Watch.Session.subscribe_again _ done same]
        simp only [Watch.Hub.put_put]
      · rw [done] at answer
        rw [Watch.Hub.put_outside inside]
        cases again : (lens.session id).subscribe lens.current? other with
        | error fault => rw [again] at answer; cases answer
        | ok session =>
            exact congrArg (fun hub => (Except.ok (), { lens with hub }))
              (Watch.Hub.put_outside inside session)

/-- Whichever way a request writes that there is no namespace, it is answered the same, and leaves
the same behind.  An object is watched under one key, and once, whichever way its namespace is
written; and in a whole run it makes no difference to what the clusters are asked, to what is
watched, and to what is said, how any namespace in it is written. -/
theorem unset_indistinguishable (lens : Lens) {rawSpace? other? : Option String}
    (one : rawSpace? ∈ Namespace.unset) (another : other? ∈ Namespace.unset) :
    (∀ request : ListRequest,
      lens.list { request with rawSpace? } = lens.list { request with rawSpace? := other? }) ∧
    (∀ request : GetRequest,
      lens.get { request with rawSpace? } = lens.get { request with rawSpace? := other? }) ∧
    (∀ (kind name : String) (context? : Option String),
      lens.events kind name rawSpace? context? = lens.events kind name other? context?) ∧
    (∀ (id : Nat) (descriptor : Watch.Descriptor),
      let written := { descriptor with rawSpace? }
      let rewritten := { descriptor with rawSpace? := other? }
      written.key = rewritten.key ∧ written.space? = rewritten.space? ∧
        written.change? = rewritten.change? ∧ written.stub = rewritten.stub ∧
        (lens.subscribe id written).1 = (lens.subscribe id rewritten).1 ∧
        (lens.subscribe id written).2.canonical = (lens.subscribe id rewritten).2.canonical ∧
        (lens.subscribe id written).2.subscribe id rewritten = lens.subscribe id written ∧
        lens.unsubscribe id written = lens.unsubscribe id rewritten) ∧
    ∀ events rewritten : List Event, List.Forall₂ Event.Alike events rewritten →
      (lens.run events).site = (lens.run rewritten).site ∧
      (∀ id, ((lens.run events).session id).outbox = ((lens.run rewritten).session id).outbox) ∧
      (lens.run events).canonical = (lens.run rewritten).canonical := by
  have alike : Namespace.Alike rawSpace? other? := .inr ⟨one, another⟩
  refine ⟨fun request => list_eq request alike, fun request => get_eq request alike,
    fun kind name context? => events_eq kind name context? alike, ?_, ?_⟩
  · intro id descriptor written rewritten
    have same : written.canonical = rewritten.canonical := descriptor.canonical_eq_of_alike alike
    have subscribed : (lens.subscribe id written).1 = (lens.subscribe id rewritten).1 ∧ _ :=
      subscribe_eq id rfl same
    refine ⟨?_, Namespace.alike_iff.mp alike, ?_, ?_, subscribed.1, subscribed.2,
      subscribe_again id same, unsubscribe_eq id same⟩
    · rw [← written.key_canonical, same, rewritten.key_canonical]
    · rw [← written.change?_canonical, same, rewritten.change?_canonical]
    · rw [← written.stub_canonical, same, rewritten.stub_canonical]
  · intro events rewritten paired
    have same : (lens.run events).canonical = (lens.run rewritten).canonical :=
      run_eq_of_alike rfl paired
    have sites : (lens.run events).canonical.site = (lens.run rewritten).canonical.site :=
      congrArg Lens.site same
    have said (id : Nat) := congrArg (fun after : Lens => (after.hub.session id).outbox) same
    simp only [canonical, Watch.Hub.session_canonical] at said
    exact ⟨sites, said, same⟩

/-- A session whose peer subscribes to a pod with a text. -/
def podAsked (text : String) : List Event :=
  [.handleText 0 text, .settle]

/-- A pod is asked for with a namespace that stands for none, and without one.  It is watched under
the same key, and the same is said. -/
theorem unset_indistinguishable_pod :
    let lens := (onHost (.defaults none) (.storing ["dev"])).run
      [.setContext "dev",
        .reshape "dev" (({} : Cluster).insert (.core "Pod" "pods")
          (.obj [("metadata", .obj [("name", .str "a")])])),
        .openSession none]
    let written := podAsked "[\"subscribe\", [\"v1\", \"Pod\", \"a\", \"undefined\", \"pods\"]]"
    let rewritten := podAsked "[\"subscribe\", [\"v1\", \"Pod\", \"a\", null, \"pods\"]]"
    some "undefined" ∈ Namespace.unset ∧ none ∈ Namespace.unset ∧
      List.Forall₂ Event.Alike written rewritten ∧
      ((lens.run written).session 0).watchedKeys = ["v1:Pod::a"] ∧
      (lens.run written).canonical = (lens.run rewritten).canonical := by
  intro lens written rewritten
  have undefined : some "undefined" ∈ Namespace.unset := by decide
  have absent : none ∈ Namespace.unset := by decide
  have paired : List.Forall₂ Event.Alike written rewritten :=
    .cons (.handleText 0 (by decide +kernel)) (.cons (.refl .settle) .nil)
  obtain ⟨_, _, _, _, runs⟩ := unset_indistinguishable lens undefined absent
  exact ⟨undefined, absent, paired, by decide +kernel, (runs written rewritten paired).2.2⟩

end Lens
end KubeLens
