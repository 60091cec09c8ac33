import Mathlib.Data.List.Induction
import KubeLens.Proofs.Lens.Outcome
import KubeLens.Proofs.Site.Within

/-!
# Remembered collections

A request for managed objects collects them anew, or repeats what an earlier request about the
same context collected.  Which of the two it does depends on the run so far: on the last
collection of the context, on what was forgotten since, and on the clock.
-/

namespace KubeLens

/-! ## One request -/

namespace Managed

/-- What a request for managed objects can do to the collections that are kept. -/
inductive Serves (site : Site) (cache : Cache) (clock : Nat) (context? : Option String)
    (force : Bool) : Except ServiceError Result × Cache × Site → Prop
  /-- There is no connection, or nothing can be collected. -/
  | fails (error : ServiceError) (after : Site)
      (needed : ∀ handle, (site.resolve context?).1 = .ok handle → force = true ∨
        cache.fresh? site.settings.cacheTtl clock handle.context = none) :
      Serves site cache clock context? force (.error error, cache, after)
  /-- The last collection is young enough. -/
  | remembers (handle : Handle) (kept : Collected)
      (resolved : (site.resolve context?).1 = .ok handle) (allowed : force = false)
      (young : cache.fresh? site.settings.cacheTtl clock handle.context = some kept) :
      Serves site cache clock context? force
        (.ok ⟨kept.items, true, kept.fetchedAt⟩, cache, (site.resolve context?).2)
  /-- The objects are collected anew. -/
  | collects (handle : Handle) (items : List Json) (after : Site)
      (resolved : (site.resolve context?).1 = .ok handle)
      (needed : force = true ∨
        cache.fresh? site.settings.cacheTtl clock handle.context = none) :
      Serves site cache clock context? force
        (.ok ⟨items, false, clock⟩, Assoc.put cache handle.context ⟨items, clock⟩, after)

/-- Every request is served in one of these ways. -/
theorem managed_serves (site : Site) (cache : Cache) (clock : Nat) (context? : Option String)
    (force : Bool) :
    Serves site cache clock context? force (site.managed cache clock context? force) := by
  have settings : (site.resolve context?).2.settings = site.settings := rfl
  unfold Site.managed
  split
  · rename_i error middle resolveCall
    exact .fails error middle fun handle resolved => by rw [resolveCall] at resolved; cases resolved
  · rename_i handle middle resolveCall
    have resolved : (site.resolve context?).1 = .ok handle := by rw [resolveCall]
    have same : (site.resolve context?).2 = middle := by rw [resolveCall]
    rw [same] at settings
    have needless : (force = true ∨
          cache.fresh? site.settings.cacheTtl clock handle.context = none) →
        ∀ other, (site.resolve context?).1 = .ok other → force = true ∨
          cache.fresh? site.settings.cacheTtl clock other.context = none := by
      intro needed other also
      rw [resolved] at also
      cases also
      exact needed
    dsimp only
    rw [settings]
    split
    · rename_i kept kept?
      cases force with
      | true => cases kept?
      | false =>
          rw [← same]
          exact .remembers handle kept resolved rfl kept?
    · rename_i kept?
      have needed : force = true ∨
          cache.fresh? site.settings.cacheTtl clock handle.context = none := by
        cases force with
        | true => exact .inl rfl
        | false => exact .inr kept?
      split
      · exact .fails _ _ (needless needed)
      · exact .collects handle _ _ resolved needed

namespace Serves

variable {site : Site} {cache : Cache} {clock : Nat} {context? : Option String} {force : Bool}
  {outcome : Except ServiceError Result × Cache × Site} {handle : Handle}

/-- A collection is repeated exactly when that is allowed and it is young enough. -/
theorem repeats_iff (served : Serves site cache clock context? force outcome)
    (resolved : (site.resolve context?).1 = .ok handle) :
    (∃ result, outcome.1 = .ok result ∧ result.fromCache = true) ↔
      force = false ∧
        ∃ kept, cache.fresh? site.settings.cacheTtl clock handle.context = some kept := by
  have stale : (force = true ∨ cache.fresh? site.settings.cacheTtl clock handle.context = none) →
      ¬(force = false ∧
        ∃ kept, cache.fresh? site.settings.cacheTtl clock handle.context = some kept) := by
    rintro needed ⟨rfl, kept, young⟩
    rcases needed with forced | absent
    · cases forced
    · rw [young] at absent
      cases absent
  cases served with
  | fails error after needed =>
      refine iff_of_false ?_ (stale (needed handle resolved))
      rintro ⟨_, failed, _⟩
      cases failed
  | remembers owner kept own allowed young =>
      rw [own] at resolved
      cases resolved
      exact iff_of_true ⟨_, rfl, rfl⟩ ⟨allowed, kept, young⟩
  | collects owner items after own needed =>
      rw [own] at resolved
      cases resolved
      refine iff_of_false ?_ (stale needed)
      rintro ⟨_, collected, repeated⟩
      cases collected
      cases repeated

/-- A collection that is repeated is repeated as it was, and no cluster is asked for it. -/
theorem of_young (served : Serves site cache clock context? force outcome)
    (resolved : (site.resolve context?).1 = .ok handle) (allowed : force = false)
    {kept : Collected}
    (young : cache.fresh? site.settings.cacheTtl clock handle.context = some kept) :
    outcome.1 = .ok ⟨kept.items, true, kept.fetchedAt⟩ ∧
      outcome.2.2 = (site.resolve context?).2 := by
  obtain ⟨result, answered, repeated⟩ :=
    (served.repeats_iff resolved).mpr ⟨allowed, kept, young⟩
  cases served with
  | fails => cases answered
  | remembers owner other own _ same =>
      rw [own] at resolved
      cases resolved
      rw [young] at same
      cases same
      exact ⟨rfl, rfl⟩
  | collects =>
      cases answered
      cases repeated

theorem of_error (served : Serves site cache clock context? force outcome) {error : ServiceError}
    (failed : outcome.1 = .error error) : outcome.2.1 = cache := by
  cases served with
  | fails => rfl
  | remembers => cases failed
  | collects => cases failed

end Serves

/-- Whether forgetting the collection of the named context, or all of them when none is named,
forgets that of `context`. -/
def covers (named? : Option String) (context : String) : Bool :=
  named? == none || named? == some "" || named? == some context

theorem get?_clear (cache : Cache) (named? : Option String) (context : String) :
    Assoc.get? (cache.clear named?) context =
      if covers named? context then none else Assoc.get? cache context := by
  unfold Cache.clear covers
  cases named? with
  | none => rfl
  | some name =>
      by_cases empty : name = ""
      · simp [empty, Option.filter_some]
      · have given : (some name).filter (!·.isEmpty) = some name := by
          simp [Option.filter_some, empty]
        rw [given]
        simp [Assoc.get?_erase, empty]

/-- What an answer over a connection collects anew from a context. -/
def fetched? (context : String) :
    Except ServiceError Handle → Except ServiceError Result → Option Collected
  | .ok handle, .ok ⟨items, false, fetchedAt⟩ =>
    if handle.context = context then some ⟨items, fetchedAt⟩ else none
  | _, _ => none

end Managed

/-! ## One event -/

/-- The time at which an event reads the clock. -/
def Event.clock? : Event → Option Nat
  | .managed clock _ _ => some clock
  | _ => none

namespace Lens

/-- What an event collects anew from a context. -/
def collected? (lens : Lens) (context : String) : Event → Option Managed.Collected
  | .managed clock context? force =>
    Managed.fetched? context (lens.site.resolve context?).1 (lens.managed clock context? force).1
  | _ => none

/-- Whether an event forgets what was collected from a context: somebody clears it, or removes
it with success. -/
def forgets (lens : Lens) (context : String) : Event → Bool
  | .clearManaged context? => Managed.covers context? context
  | .removeContext name =>
    (lens.removeContext name).1.isOk && Managed.covers (some name) context
  | _ => false

theorem removeContext_cache (lens : Lens) (name : String) :
    (lens.removeContext name).2.cache =
      if (lens.removeContext name).1.isOk then lens.cache.clear (some name) else lens.cache := by
  rcases removed : lens.site.board.removeContext lens.site.settings lens.site.host
    lens.site.fleet name with ⟨answer, _⟩
  cases answer <;> simp [Lens.removeContext, removed, Except.isOk, Except.toBool]

theorem check_cache (lens : Lens) (context? : Option String) :
    (lens.check context?).2.cache = lens.cache := by
  unfold Lens.check Lens.restore
  dsimp only
  split
  · rfl
  · split <;> rfl

/-- A collection is remembered under its context, and other contexts keep what they had. -/
theorem managed_get? (lens : Lens) (clock : Nat) (context? : Option String) (force : Bool)
    (context : String) :
    Assoc.get? (lens.managed clock context? force).2.cache context =
      (lens.collected? context (.managed clock context? force)).or
        (Assoc.get? lens.cache context) := by
  have served := Managed.managed_serves lens.site lens.cache clock context? force
  unfold collected? Lens.managed
  dsimp only
  generalize lens.site.managed lens.cache clock context? force = outcome at served ⊢
  cases served with
  | fails error after => cases (lens.site.resolve context?).1 <;> rfl
  | remembers handle kept resolved =>
      rw [resolved]
      rfl
  | collects handle items after resolved =>
      rw [resolved, Assoc.get?_put]
      unfold Managed.fetched?
      dsimp only
      split <;> rfl

/-- After an event a context has what the event collected from it, or what it had before unless
the event forgets it. -/
theorem act_get? (lens : Lens) (event : Event) (context : String) :
    Assoc.get? (lens.act event).cache context =
      (lens.collected? context event).or
        (if lens.forgets context event then none else Assoc.get? lens.cache context) := by
  cases event with
  | managed clock context? force => exact lens.managed_get? clock context? force context
  | clearManaged context? => exact Managed.get?_clear lens.cache context? context
  | removeContext name =>
      rw [Lens.act, removeContext_cache]
      unfold forgets collected?
      dsimp only
      by_cases removed : (lens.removeContext name).1.isOk = true
      · simp [removed, Managed.get?_clear]
      · simp [removed]
  | check context? =>
      rw [Lens.act, check_cache]
      rfl
  | resolvePlural apiVersion kind context? =>
      unfold Lens.act Lens.resolvePlural
      dsimp only
      split
      · rfl
      · split <;> rfl
  | subscribe id descriptor =>
      unfold Lens.act Lens.subscribe
      dsimp only
      split <;> rfl
  | step id generation =>
      unfold Lens.act Lens.stepTask
      dsimp only
      split <;> rfl
  | tick id generation =>
      unfold Lens.act Lens.tickTask
      dsimp only
      split <;> rfl
  | _ => rfl

/-! ## Runs -/

/-- Whether `p` holds of no event of a run. -/
def never (p : Lens → Event → Bool) (lens : Lens) : List Event → Bool
  | [] => true
  | event :: rest => !p lens event && (lens.act event).never p rest

theorem never_append (p : Lens → Event → Bool) (lens : Lens) (earlier later : List Event) :
    lens.never p (earlier ++ later) =
      (lens.never p earlier && (lens.run earlier).never p later) := by
  induction earlier generalizing lens with
  | nil => rfl
  | cons event rest ih => simp [never, ih, Bool.and_assoc]

/-- Whether an event collects anew from a context. -/
def collects (context : String) (lens : Lens) (event : Event) : Bool :=
  (lens.collected? context event).isSome

/-- Whether an event collects anew from a context, or forgets what was collected from it. -/
def touches (context : String) (lens : Lens) (event : Event) : Bool :=
  lens.collects context event || lens.forgets context event

/-- The last collection of a context in a run, and its time, when nobody forgot it since. -/
def Remembers (lens : Lens) (events : List Event) (context : String) (time : Nat)
    (kept : Managed.Collected) : Prop :=
  ∃ earlier event later, events = earlier ++ event :: later ∧ event.clock? = some time ∧
    (lens.run earlier).collected? context event = some kept ∧
    ((lens.run earlier).act event).never (touches context) later = true

/-- What an event collects is dated with its own time. -/
theorem clock?_of_collected? {lens : Lens} {context : String} {event : Event}
    {kept : Managed.Collected} (collected : lens.collected? context event = some kept) :
    event.clock? = some kept.fetchedAt := by
  cases event with
  | managed clock context? force =>
      have served := Managed.managed_serves lens.site lens.cache clock context? force
      unfold collected? Lens.managed at collected
      dsimp only at collected
      generalize lens.site.managed lens.cache clock context? force = outcome at served collected
      cases served with
      | fails =>
          cases resolved : (lens.site.resolve context?).1 with
          | error _ => rw [resolved] at collected; cases collected
          | ok _ => rw [resolved] at collected; cases collected
      | remembers handle kept resolved =>
          rw [resolved] at collected
          cases collected
      | collects handle items after resolved =>
          rw [resolved] at collected
          unfold Managed.fetched? at collected
          dsimp only at collected
          split at collected
          · cases collected
            rfl
          · cases collected
  | _ => cases collected

/-- What is remembered after one more event was collected in it, or was remembered before and
neither collected anew nor forgotten. -/
theorem remembers_append_iff {lens : Lens} {events : List Event} {event : Event}
    {context : String} {time : Nat} {kept : Managed.Collected} :
    lens.Remembers (events ++ [event]) context time kept ↔
      (event.clock? = some time ∧ (lens.run events).collected? context event = some kept) ∨
      ((lens.run events).touches context event = false ∧
        lens.Remembers events context time kept) := by
  constructor
  · rintro ⟨earlier, first, later, split, timed, collected, untouched⟩
    rcases List.eq_nil_or_concat later with rfl | ⟨between, last, rfl⟩
    · obtain ⟨rfl, same⟩ := List.append_inj' split rfl
      obtain rfl := List.singleton_inj.mp same
      exact .inl ⟨timed, collected⟩
    · rw [List.concat_eq_append] at split untouched
      rw [← List.cons_append, ← List.append_assoc] at split
      obtain ⟨rfl, same⟩ := List.append_inj' split rfl
      obtain rfl := List.singleton_inj.mp same
      rw [never_append, Bool.and_eq_true] at untouched
      refine .inr ⟨?_, earlier, first, between, rfl, timed, collected, untouched.1⟩
      simpa [never, run_append] using untouched.2
  · rintro (⟨timed, collected⟩ | ⟨untouched, earlier, first, later, rfl, timed, collected, before⟩)
    · exact ⟨events, event, [], rfl, timed, collected, rfl⟩
    · refine ⟨earlier, first, later ++ [event], by simp, timed, collected, ?_⟩
      rw [run_append, run_cons] at untouched
      simp [never_append, never, before, untouched]

/-- What is kept for a context after a run is its last collection. -/
theorem get?_run_iff (settings : Settings) (host : Host) (events : List Event)
    (context : String) (kept : Managed.Collected) :
    Assoc.get? ((onHost settings host).run events).cache context = some kept ↔
      ∃ time, (onHost settings host).Remembers events context time kept := by
  -- The last event decides, unless it neither collects from the context nor forgets it.
  induction events using List.reverseRecOn with
  | nil =>
      constructor
      · nofun
      · rintro ⟨_, earlier, _, _, split, _⟩
        cases earlier <;> cases split
  | append_singleton events event ih =>
      rw [run_append, run_cons, run_nil, act_get?]
      cases collected : ((onHost settings host).run events).collected? context event with
      | some fresh =>
          have dated := clock?_of_collected? collected
          have touched : ((onHost settings host).run events).touches context event = true := by
            simp [touches, collects, collected]
          simp [remembers_append_iff, touched, collected, dated]
      | none =>
          rw [Option.none_or]
          by_cases forgotten : ((onHost settings host).run events).forgets context event = true
          · simp [remembers_append_iff, touches, collects, collected, forgotten]
          · simp [remembers_append_iff, touches, collects, collected, forgotten, ih]

/-- A run leaves the settings as they are. -/
theorem run_settings (lens : Lens) (events : List Event) :
    (lens.run events).site.settings = lens.site.settings := by
  refine run_induction (P := fun later => later.site.settings = lens.site.settings) lens events
    rfl ?_
  intro before event _ same
  exact (before.act_outcome event).settings.trans same

/-- What is not kept for a context stays so until it is collected. -/
theorem get?_eq_none_of_never {lens : Lens} {context : String} {events : List Event}
    (unkept : Assoc.get? lens.cache context = none)
    (uncollected : lens.never (collects context) events = true) :
    Assoc.get? (lens.run events).cache context = none := by
  induction events generalizing lens with
  | nil => exact unkept
  | cons event rest ih =>
      obtain ⟨now, later⟩ : lens.collected? context event = none ∧
          (lens.act event).never (collects context) rest = true := by
        simpa [never, collects] using uncollected
      refine ih ?_ later
      rw [act_get?, now, unkept, Option.none_or, ite_self]

theorem Remembers.fetchedAt {lens : Lens} {events : List Event} {context : String} {time : Nat}
    {kept : Managed.Collected} (remembered : lens.Remembers events context time kept) :
    kept.fetchedAt = time := by
  obtain ⟨_, _, _, _, timed, collected, _⟩ := remembered
  exact Option.some.inj ((clock?_of_collected? collected).symm.trans timed)

/-- What is kept for a context is young when the last collection is. -/
theorem fresh?_run_iff (settings : Settings) (host : Host) {events : List Event} {clock : Nat}
    (monotone : ∀ event ∈ events, ∀ time, event.clock? = some time → time ≤ clock)
    (context : String) (kept : Managed.Collected) :
    ((onHost settings host).run events).cache.fresh? settings.cacheTtl clock context =
        some kept ↔
      ∃ time, (onHost settings host).Remembers events context time kept ∧
        clock < time + settings.cacheTtl := by
  unfold Managed.Cache.fresh?
  rw [Option.filter_eq_some_iff, get?_run_iff]
  constructor
  · rintro ⟨⟨time, remembered⟩, recent⟩
    refine ⟨time, remembered, ?_⟩
    rw [remembered.fetchedAt] at recent
    have recent : clock - time < settings.cacheTtl := by simpa using recent
    omega
  · rintro ⟨time, remembered, recent⟩
    refine ⟨⟨time, remembered⟩, ?_⟩
    rw [remembered.fetchedAt, decide_eq_true_iff]
    obtain ⟨earlier, event, later, rfl, timed, _⟩ := remembered
    have past : time ≤ clock := monotone event (by simp) time timed
    omega

/-- A request repeats the last collection of its context exactly when it may, when nobody forgot
the collection since, and when it is younger than the time to live; it then calls no cluster.  A
request that fails leaves every collection as it was, and an event changes what is kept for a
context only by collecting from that context or by forgetting it.  So nothing that was collected
before a removal is repeated after it. -/
theorem managed_repeats (settings : Settings) (host : Host) (events : List Event) (clock : Nat)
    (context? : Option String) (force : Bool) {handle : Handle}
    (resolved : (((onHost settings host).run events).site.resolve context?).1 = .ok handle)
    (monotone : ∀ event ∈ events, ∀ time, event.clock? = some time → time ≤ clock) :
    let start := onHost settings host
    let lens := start.run events
    let answer := lens.managed clock context? force
    ((∃ result, answer.1 = .ok result ∧ result.fromCache = true) ↔
      force = false ∧ ∃ time kept, start.Remembers events handle.context time kept ∧
        clock < time + settings.cacheTtl) ∧
    (∀ time kept, force = false → start.Remembers events handle.context time kept →
      clock < time + settings.cacheTtl →
      answer.1 = .ok ⟨kept.items, true, kept.fetchedAt⟩ ∧
        ∀ context, (answer.2.site.fleet.cluster context).calls =
          (lens.site.fleet.cluster context).calls) ∧
    (∀ error, answer.1 = .error error → answer.2.cache = lens.cache) ∧
    (∀ event context, lens.touches context event = false →
      Assoc.get? (lens.act event).cache context = Assoc.get? lens.cache context) ∧
    (∀ earlier later, events = earlier ++ .removeContext handle.context :: later →
      ((start.run earlier).removeContext handle.context).1.isOk = true →
      ((start.run earlier).act (.removeContext handle.context)).never (collects handle.context)
        later = true →
      ∀ result, answer.1 = .ok result → result.fromCache = false) := by
  intro start lens answer
  have served : Managed.Serves lens.site lens.cache clock context? force
      (lens.site.managed lens.cache clock context? force) := Managed.managed_serves _ _ _ _ _
  have young : ∀ kept, lens.cache.fresh? lens.site.settings.cacheTtl clock handle.context =
      some kept ↔ ∃ time, start.Remembers events handle.context time kept ∧
        clock < time + settings.cacheTtl := by
    have settingsKept : lens.site.settings = settings := start.run_settings events
    rw [settingsKept]
    exact fresh?_run_iff settings host monotone handle.context
  refine ⟨?_, ?_, fun error failed => served.of_error failed, ?_, ?_⟩
  · refine (served.repeats_iff resolved).trans (and_congr_right fun _ => ?_)
    rw [exists_comm]
    exact exists_congr young
  · intro time kept allowed remembered recent
    obtain ⟨answered, unchanged⟩ :=
      served.of_young resolved allowed ((young kept).mpr ⟨time, remembered, recent⟩)
    refine ⟨answered, fun context => ?_⟩
    have same : answer.2.site.fleet.clusters = lens.site.fleet.clusters :=
      (congrArg (·.fleet.clusters) unchanged).trans (lens.site.resolve_clusters context?)
    unfold Fleet.cluster
    rw [same]
  · intro event context untouched
    obtain ⟨uncollected, unforgotten⟩ : lens.collected? context event = none ∧
        lens.forgets context event = false := by
      simpa [touches, collects] using untouched
    rw [act_get?, uncollected, unforgotten, Option.none_or, if_neg Bool.false_ne_true]
  · rintro earlier later rfl removed uncollected result answered
    have forgotten : (start.run earlier).forgets handle.context
        (.removeContext handle.context) = true := by
      simp [forgets, removed, Managed.covers]
    have dropped : Assoc.get?
        ((start.run earlier).act (.removeContext handle.context)).cache handle.context = none := by
      rw [act_get?, forgotten]
      rfl
    have absent : Assoc.get? lens.cache handle.context = none := by
      have := get?_eq_none_of_never dropped uncollected
      rwa [← run_cons, ← run_append] at this
    by_contra repeated
    obtain ⟨_, kept, fresh⟩ := (served.repeats_iff resolved).mp
      ⟨result, answered, eq_true_of_ne_false repeated⟩
    unfold Managed.Cache.fresh? at fresh
    rw [absent] at fresh
    cases fresh

/-- One context is collected, and another one is cleared. -/
def collectedOnce : List Event :=
  [.reshape "dev" { types := [ResourceType.customResourceDefinitions.shelfKey] },
    .managed 5 (some "dev") false, .clearManaged (some "prod")]

/-- The next request repeats the collection. -/
theorem managed_repeats_once :
    (((onHost (.defaults none) (.storing ["dev", "prod"])).run collectedOnce).managed 9
      (some "dev") false).1 = .ok ⟨[], true, 5⟩ := by
  have resolved : (((onHost (.defaults none) (.storing ["dev", "prod"])).run
      collectedOnce).site.resolve (some "dev")).1 = .ok ⟨"dev", ⟨"dev", false⟩⟩ := by
    decide +kernel
  have monotone : ∀ event ∈ collectedOnce, ∀ time, event.clock? = some time → time ≤ 9 := by
    simp [collectedOnce, Event.clock?]
  have collected : ((onHost (.defaults none) (.storing ["dev", "prod"])).run
      (collectedOnce.take 1)).collected? "dev" (.managed 5 (some "dev") false) =
        some ⟨[], 5⟩ := by
    have parts : (((onHost (.defaults none) (.storing ["dev", "prod"])).run
        (collectedOnce.take 1)).collected? "dev" (.managed 5 (some "dev") false)).map
          (fun kept => (kept.items.isEmpty, kept.fetchedAt)) = some (true, 5) := by
      decide +kernel
    obtain ⟨⟨items, fetchedAt⟩, found, same⟩ := Option.map_eq_some_iff.mp parts
    obtain ⟨empty, rfl⟩ := Prod.mk.inj same
    obtain rfl : items = [] := List.isEmpty_iff.mp empty
    exact found
  have repeats := (managed_repeats (.defaults none) (.storing ["dev", "prod"]) collectedOnce 9
    (some "dev") false resolved monotone).2.1
  refine (repeats 5 ⟨[], 5⟩ rfl ?_ (by decide)).1
  exact ⟨[_], _, [.clearManaged (some "prod")], rfl, rfl, collected, rfl⟩

end Lens
end KubeLens
