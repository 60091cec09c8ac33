import KubeLens.Proofs.Lens.Outcome
import KubeLens.Proofs.Site.Orderly

/-!
# Contexts that could not be reached

An attempt to connect that fails bars its context.  From then on nobody dials the context, and
every activation of it is refused, until somebody clears or removes it; the next activation
after that dials again.
-/

namespace KubeLens

/-! ## Activations -/

namespace Site

/-- Whether a context can be connected to: the mounted credentials always, another one when it
is in a document that loads and describes clients. -/
def Offers (site : Site) (context : String) : Prop :=
  site.host.inCluster = true ∨ ∃ document config,
    site.host.load site.settings = .ok document ∧ document.hasContext context = true ∧
    document.clientConfig = .ok config

/-- The context that a request without a context, or with one, is about. -/
def aim (site : Site) (context? : Option String) : String :=
  match Switchboard.wanted? context? with
  | some name => Switchboard.target site.host name
  | none => site.board.current.getD (Switchboard.target site.host "")

/-- Whether every activation of a context is refused, and changes nothing. -/
structure Refuses (site : Site) (context : String) : Prop where
  ensureActive : ∀ name, Switchboard.target site.host name = context →
    site.board.ensureActive site.settings site.host site.fleet name =
      (.error (.contextBarred context), site.board, site.fleet)
  setActive : ∀ name, Switchboard.target site.host name = context →
    site.setActive name = (.error (.contextBarred context), site)
  resolve : ∀ context?, site.aim context? = context →
    site.resolve context? = (.error (.contextBarred context), site)

/-- Whether every activation of a context attempts to connect to it. -/
structure Tries (site : Site) (context : String) : Prop where
  ensureActive : ∀ name, Switchboard.target site.host name = context →
    (site.board.ensureActive site.settings site.host site.fleet name).2.2.connects =
      site.fleet.connects ++ [context]
  setActive : ∀ name, Switchboard.target site.host name = context →
    (site.setActive name).2.fleet.connects = site.fleet.connects ++ [context]
  resolve : ∀ context?, site.aim context? = context →
    (site.resolve context?).2.fleet.connects = site.fleet.connects ++ [context]

/-- When the context of a request is not the active one, the request activates a name that means
that context. -/
theorem resolve_eq_ensureActive {site : Site} {context : String} {context? : Option String}
    (coherent : site.board.Coherent) (inactive : site.board.current ≠ some context)
    (aimed : site.aim context? = context) :
    ∃ name, Switchboard.target site.host name = context ∧
      site.board.resolve site.settings site.host site.fleet context? =
        site.board.ensureActive site.settings site.host site.fleet name := by
  unfold aim at aimed
  unfold Switchboard.resolve
  cases wanted : Switchboard.wanted? context? with
  | some name =>
      rw [wanted] at aimed
      exact ⟨name, aimed, rfl⟩
  | none =>
      rw [wanted] at aimed
      cases current : site.board.current with
      | some active =>
          rw [current] at aimed inactive
          exact absurd (congrArg some aimed) inactive
      | none =>
          rw [current] at aimed
          refine ⟨"", aimed, ?_⟩
          rw [coherent.handle?_eq_none_iff.mpr current]

theorem refuses_of_barred {site : Site} {context : String} (coherent : site.board.Coherent)
    (barred : context ∈ site.board.failed) : site.Refuses context := by
  have inactive : site.board.current ≠ some context := fun active =>
    coherent.current_not_failed context active barred
  have refused : ∀ name, Switchboard.target site.host name = context →
      site.board.ensureActive site.settings site.host site.fleet name =
        (.error (.contextBarred context), site.board, site.fleet) := by
    intro name meant
    unfold Switchboard.ensureActive Switchboard.activate
    simp [meant, coherent.active?_eq_none_iff.mpr inactive, Switchboard.isBarred_iff.mpr barred]
  refine ⟨refused, fun name meant => ?_, fun context? aimed => ?_⟩
  · unfold Site.setActive
    rw [refused name meant]
    rfl
  · obtain ⟨name, meant, same⟩ := resolve_eq_ensureActive coherent inactive aimed
    unfold Site.resolve
    rw [same, refused name meant]

/-- What is offered can be described under every name that means it, but not under none. -/
theorem describes_of_offers {site : Site} {context name : String}
    (offered : site.Offers context) (named : context ≠ "")
    (meant : Switchboard.target site.host name = context) :
    Switchboard.describes site.settings site.host name = .ok () := by
  unfold Switchboard.target at meant
  unfold Switchboard.describes
  cases inside : site.host.inCluster with
  | true => rfl
  | false =>
      rw [inside] at meant
      obtain rfl : name = context := meant
      rcases offered with mounted | ⟨document, config, loaded, present, described⟩
      · rw [inside] at mounted
        cases mounted
      · have nonempty : name.isEmpty = false := by simpa [String.isEmpty_iff] using named
        simp [nonempty, loaded, present, described, Except.map]

theorem tries_of_idle {site : Site} {context : String} (coherent : site.board.Coherent)
    (unbarred : context ∉ site.board.failed) (inactive : site.board.current ≠ some context)
    (offered : site.Offers context) (named : context ≠ "") :
    site.Tries context := by
  have free : site.board.isBarred context = false := by
    simpa [Switchboard.isBarred] using unbarred
  have tried : ∀ name, Switchboard.target site.host name = context →
      (site.board.ensureActive site.settings site.host site.fleet name).2.2.connects =
        site.fleet.connects ++ [context] := by
    intro name meant
    have described := describes_of_offers offered named meant
    unfold Switchboard.ensureActive Switchboard.activate
    simp only [meant, coherent.active?_eq_none_iff.mpr inactive, free, described,
      Bool.false_eq_true, if_false]
    exact site.dial_connects context
  refine ⟨tried, tried, fun context? aimed => ?_⟩
  obtain ⟨name, meant, same⟩ := resolve_eq_ensureActive coherent inactive aimed
  unfold Site.resolve
  rw [same]
  exact tried name meant

/-! ## One outcome -/

/-- How often a context was dialled. -/
def dialled (site : Site) (context : String) : Nat :=
  site.fleet.connects.count context

/-- What somebody who knows the switchboard can rely on: it is coherent, and no empty name was
ever dialled. -/
structure Sound (site : Site) : Prop where
  coherent : site.board.Coherent
  named : "" ∉ site.fleet.connects

theorem Attempts.sound {before after : Site} (attempts : before.Attempts after)
    (sound : before.Sound) : after.Sound := by
  refine ⟨attempts.coherent sound.coherent, ?_⟩
  induction attempts with
  | refl => exact sound.named
  | @tail middle _ _ attempt ih =>
      cases attempt with
      | rest same => rwa [same.connects]
      | dial name _ _ described =>
          rw [dial_connects]
          intro present
          rcases List.mem_append.mp present with earlier | last
          · exact ih earlier
          · exact Switchboard.target_ne_blank described (List.mem_singleton.mp last).symm

namespace Outcome

variable {site after : Site} {event : Event}

theorem sound (outcome : site.Outcome event after) (sound : site.Sound) : after.Sound := by
  cases outcome with
  | attempts attempts => exact attempts.sound sound
  | surroundings same =>
      refine ⟨same.board ▸ sound.coherent, ?_⟩
      rw [same.connects]
      exact sound.named
  | added => exact ⟨sound.coherent, sound.named⟩
  | cleared => exact ⟨sound.coherent.unbar _, sound.named⟩
  | removed name dropped promoted =>
      exact promoted.sound ⟨sound.coherent.forget name, sound.named⟩

/-- Nobody is forgotten to have been dialled. -/
theorem dialled_le (outcome : site.Outcome event after) (context : String) :
    site.dialled context ≤ after.dialled context := by
  cases outcome with
  | attempts attempts => exact attempts.count_le context
  | surroundings same =>
      exact Nat.le_of_eq (congrArg (List.count context) same.connects.symm)
  | added => exact Nat.le_refl _
  | cleared => exact Nat.le_refl _
  | removed name dropped promoted => exact promoted.count_le context

/-- A context that cannot be reached is barred as soon as it is dialled. -/
theorem barred_of_dialled (outcome : site.Outcome event after) {context : String}
    (unreachable : context ∈ site.fleet.unreachable)
    (dialled : after.dialled context ≠ site.dialled context) :
    context ∈ after.board.failed := by
  cases outcome with
  | attempts attempts => exact attempts.barred_of_dialled unreachable dialled
  | surroundings same =>
      unfold Site.dialled at dialled
      rw [same.connects] at dialled
      exact absurd rfl dialled
  | added => exact absurd rfl dialled
  | cleared => exact absurd rfl dialled
  | removed name dropped promoted => exact promoted.barred_of_dialled unreachable dialled

/-- A context that cannot be reached is dialled at most once. -/
theorem dialled_le_succ (outcome : site.Outcome event after) {context : String}
    (unreachable : context ∈ site.fleet.unreachable) :
    after.dialled context ≤ site.dialled context + 1 := by
  cases outcome with
  | attempts attempts => exact attempts.count_le_succ unreachable
  | surroundings same =>
      exact Nat.le_succ_of_le (Nat.le_of_eq (congrArg (List.count context) same.connects))
  | added => exact Nat.le_succ _
  | cleared => exact Nat.le_succ _
  | removed name dropped promoted => exact promoted.count_le_succ unreachable

/-- A context that is neither barred nor active stays so unless it is dialled. -/
theorem idle (outcome : site.Outcome event after) {context : String}
    (unbarred : context ∉ site.board.failed) (inactive : site.board.current ≠ some context)
    (undialled : after.dialled context = site.dialled context) :
    context ∉ after.board.failed ∧ after.board.current ≠ some context := by
  cases outcome with
  | attempts attempts => exact attempts.idle unbarred inactive undialled
  | surroundings same =>
      rw [same.board]
      exact ⟨unbarred, inactive⟩
  | added => exact ⟨unbarred, inactive⟩
  | cleared => exact ⟨fun barred => unbarred (Switchboard.mem_unbar.mp barred).1, inactive⟩
  | removed name dropped promoted =>
      refine promoted.idle ?_ ?_ undialled
      · exact fun barred => unbarred (Switchboard.mem_forget.mp barred).1
      · exact fun active => inactive (Switchboard.forget_current.mp active).1

end Outcome
end Site

/-! ## One event -/

namespace Lens

/-- Whether an attempt to connect to a context fails in the course of an event. -/
structure Fails (lens : Lens) (event : Event) (context : String) : Prop where
  unreachable : context ∈ lens.site.fleet.unreachable
  dialled : (lens.act event).site.dialled context ≠ lens.site.dialled context

/-- Whether an event clears a context: somebody clears it, or removes it with success. -/
def clears (lens : Lens) (context : String) : Event → Bool
  | .clearFailed name => Switchboard.target lens.site.host name == context
  | .removeContext name => name == context && (lens.removeContext name).1.isOk
  | _ => false

/-- Whether no event of a run clears a context. -/
def clearsNever (lens : Lens) (context : String) : List Event → Bool
  | [] => true
  | event :: rest => !lens.clears context event && (lens.act event).clearsNever context rest

/-- An attempt that fails is the only one to its context in the event, and bars the context,
which has a name. -/
theorem act_bars {lens : Lens} {event : Event} {context : String} (sound : lens.site.Sound)
    (fails : lens.Fails event context) :
    (lens.act event).site.dialled context = lens.site.dialled context + 1 ∧
      context ∈ (lens.act event).site.board.failed ∧ context ≠ "" := by
  have outcome := lens.act_outcome event
  have atLeast := outcome.dialled_le context
  have atMost := outcome.dialled_le_succ fails.unreachable
  have grown := fails.dialled
  refine ⟨by omega, outcome.barred_of_dialled fails.unreachable fails.dialled, ?_⟩
  rintro rfl
  have never : lens.site.dialled "" = 0 := List.count_eq_zero.mpr sound.named
  have stillNever : (lens.act event).site.dialled "" = 0 :=
    List.count_eq_zero.mpr (outcome.sound sound).named
  exact fails.dialled (stillNever.trans never.symm)

/-- An event that does not clear a barred context neither dials it nor frees it. -/
theorem act_barred {lens : Lens} {event : Event} {context : String}
    (barred : context ∈ lens.site.board.failed)
    (uncleared : lens.clears context event = false) :
    context ∈ (lens.act event).site.board.failed ∧
      (lens.act event).site.dialled context = lens.site.dialled context := by
  have outcome := lens.act_outcome event
  generalize (lens.act event).site = after at outcome ⊢
  cases outcome with
  | attempts attempts => exact attempts.barred barred
  | surroundings same =>
      unfold Site.dialled
      rw [same.board, same.connects]
      exact ⟨barred, rfl⟩
  | added => exact ⟨barred, rfl⟩
  | cleared name =>
      have different : context ≠ Switchboard.target lens.site.host name := by
        rintro rfl
        simp [clears] at uncleared
      exact ⟨Switchboard.mem_unbar.mpr ⟨barred, different⟩, rfl⟩
  | removed name dropped promoted =>
      have different : context ≠ name := by
        rintro rfl
        have succeeded : (lens.removeContext context).1.isOk = true := by
          rw [lens.removeContext_isOk, dropped]
          rfl
        simp [clears, succeeded] at uncleared
      exact promoted.barred (Switchboard.mem_forget.mpr ⟨barred, different⟩)

/-- An event that clears a barred context does not dial it, and leaves it inactive. -/
theorem act_clears {lens : Lens} {event : Event} {context : String}
    (coherent : lens.site.board.Coherent) (barred : context ∈ lens.site.board.failed)
    (cleared : lens.clears context event = true) :
    context ∉ (lens.act event).site.board.failed ∧
      (lens.act event).site.board.current ≠ some context ∧
      (lens.act event).site.dialled context = lens.site.dialled context := by
  have inactive : lens.site.board.current ≠ some context := fun active =>
    coherent.current_not_failed context active barred
  cases event with
  | clearFailed name =>
      have meant : Switchboard.target lens.site.host name = context := by
        simpa [clears] using cleared
      refine ⟨fun present => ?_, inactive, rfl⟩
      exact (Switchboard.mem_unbar.mp present).2 meant.symm
  | removeContext name =>
      obtain ⟨rfl, succeeded⟩ : name = context ∧ (lens.removeContext name).1.isOk = true := by
        simpa [clears] using cleared
      obtain ⟨_, _, dropped⟩ := removeContext_dropped succeeded
      rw [Lens.act, removeContext_inactive dropped inactive]
      refine ⟨fun present => ?_, fun active => ?_, rfl⟩
      · exact (Switchboard.mem_forget.mp present).2 rfl
      · exact inactive (Switchboard.forget_current.mp active).1
  | _ => cases cleared

/-! ## Runs -/

theorem onHost_sound (settings : Settings) (host : Host) : (onHost settings host).site.Sound :=
  ⟨.empty, nofun⟩

theorem run_sound {lens : Lens} (sound : lens.site.Sound) (events : List Event) :
    (lens.run events).site.Sound := by
  refine run_induction (P := fun lens => lens.site.Sound) lens events sound ?_
  intro before event _ soundBefore
  exact (before.act_outcome event).sound soundBefore

/-- A barred context is neither dialled nor freed by events that do not clear it. -/
theorem run_barred {lens : Lens} {context : String} {events : List Event}
    (barred : context ∈ lens.site.board.failed)
    (uncleared : lens.clearsNever context events = true) :
    context ∈ (lens.run events).site.board.failed ∧
      (lens.run events).site.dialled context = lens.site.dialled context := by
  induction events generalizing lens with
  | nil => exact ⟨barred, rfl⟩
  | cons event rest ih =>
      obtain ⟨now, later⟩ : lens.clears context event = false ∧
          (lens.act event).clearsNever context rest = true := by
        simpa [clearsNever] using uncleared
      obtain ⟨stillBarred, sameCount⟩ := act_barred barred now
      obtain ⟨finallyBarred, finalCount⟩ := ih stillBarred later
      exact ⟨finallyBarred, finalCount.trans sameCount⟩

theorem dialled_le_run (lens : Lens) (events : List Event) (context : String) :
    lens.site.dialled context ≤ (lens.run events).site.dialled context := by
  refine run_induction (P := fun later => lens.site.dialled context ≤ later.site.dialled context)
    lens events (Nat.le_refl _) ?_
  intro before event _ le
  exact Nat.le_trans le ((before.act_outcome event).dialled_le context)

/-- A context that is neither barred nor active stays so until it is dialled. -/
theorem run_idle {lens : Lens} {context : String} {events : List Event}
    (unbarred : context ∉ lens.site.board.failed)
    (inactive : lens.site.board.current ≠ some context)
    (undialled : (lens.run events).site.dialled context = lens.site.dialled context) :
    context ∉ (lens.run events).site.board.failed ∧
      (lens.run events).site.board.current ≠ some context := by
  induction events generalizing lens with
  | nil => exact ⟨unbarred, inactive⟩
  | cons event rest ih =>
      rw [run_cons] at undialled
      have first := (lens.act_outcome event).dialled_le context
      have others := (lens.act event).dialled_le_run rest context
      have sameNow : (lens.act event).site.dialled context = lens.site.dialled context := by
        omega
      obtain ⟨stillUnbarred, stillInactive⟩ :=
        (lens.act_outcome event).idle unbarred inactive sameNow
      exact ih stillUnbarred stillInactive (undialled.trans sameNow.symm)

/-- An event in which an attempt to connect to a context fails dials the context once.  After it
no event dials the context and every activation of it is refused, as long as nothing clears it.
What clears it does not dial it either, and from then on until it is dialled again, every
activation of it that finds it offered attempts to connect. -/
theorem barred_until_cleared (settings : Settings) (host : Host) (earlier later : List Event)
    (failing : Event) (context : String)
    (fails : ((onHost settings host).run earlier).Fails failing context)
    (uncleared :
      (((onHost settings host).run earlier).act failing).clearsNever context later = true) :
    let barred := ((onHost settings host).run earlier).act failing
    let lens := barred.run later
    barred.site.dialled context =
        ((onHost settings host).run earlier).site.dialled context + 1 ∧
      lens.site.dialled context = barred.site.dialled context ∧
      lens.site.Refuses context ∧
      ∀ clearing, lens.clears context clearing = true →
        (lens.act clearing).site.dialled context = lens.site.dialled context ∧
        ∀ rest,
          ((lens.act clearing).run rest).site.dialled context =
            (lens.act clearing).site.dialled context →
          ((lens.act clearing).run rest).site.Offers context →
          ((lens.act clearing).run rest).site.Tries context := by
  intro barred lens
  have soundBefore := run_sound (onHost_sound settings host) earlier
  have soundBarred : barred.site.Sound := (act_outcome _ failing).sound soundBefore
  obtain ⟨once, nowBarred, named⟩ := act_bars soundBefore fails
  obtain ⟨stillBarred, sameCount⟩ := run_barred nowBarred uncleared
  have sound : lens.site.Sound := run_sound soundBarred later
  refine ⟨once, sameCount, Site.refuses_of_barred sound.coherent stillBarred, ?_⟩
  intro clearing cleared
  obtain ⟨unbarred, inactive, undialled⟩ := act_clears sound.coherent stillBarred cleared
  refine ⟨undialled, ?_⟩
  intro rest restCount offered
  obtain ⟨finallyUnbarred, finallyInactive⟩ := run_idle unbarred inactive restCount
  have soundAfter : ((lens.act clearing).run rest).site.Sound :=
    run_sound ((lens.act_outcome clearing).sound sound) rest
  exact Site.tries_of_idle soundAfter.coherent finallyUnbarred finallyInactive offered named

/-- The connection to `prod` fails; that it could be made again changes nothing until `prod` is
cleared. -/
theorem barred_until_cleared_prod :
    let before := (onHost (.defaults none) (.storing ["dev", "prod"])).run [.isolate ["prod"]]
    let barred := before.act (.setContext "prod")
    let later : List Event := [.isolate [], .setContext "dev", .check (some "prod")]
    let lens := (barred.run later).act (.clearFailed "prod")
    before.Fails (.setContext "prod") "prod" ∧ barred.clearsNever "prod" later = true ∧
      (barred.run later).site.Refuses "prod" ∧
      (lens.site.setActive "prod").2.fleet.connects = lens.site.fleet.connects ++ ["prod"] := by
  intro before barred later lens
  have fails : before.Fails (.setContext "prod") "prod" := ⟨by decide, by decide⟩
  have uncleared : barred.clearsNever "prod" later = true := by decide
  obtain ⟨_, _, refuses, afterwards⟩ :=
    barred_until_cleared _ _ [.isolate ["prod"]] later (.setContext "prod") "prod" fails uncleared
  obtain ⟨_, tries⟩ := afterwards (.clearFailed "prod") (by decide)
  refine ⟨fails, uncleared, refuses, (tries [] rfl (.inr ⟨_, _, rfl, rfl, rfl⟩)).setActive _ ?_⟩
  decide

end Lens
end KubeLens
