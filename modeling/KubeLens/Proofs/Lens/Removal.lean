import KubeLens.Proofs.Kubeconfig.Succession
import KubeLens.Proofs.Lens.Opening

/-!
# Removing a context

A removal drops its context from the store and from the switchboard.  When the context was active,
its successor is activated, and nothing is active if that fails.  Nothing else is changed, and a
removal that is refused changes nothing at all.
-/

namespace KubeLens

namespace Site

/-! ## Activating a context while no other one is active -/

/-- What activating a context comes to that is not active. -/
inductive Activation (site : Site) (target name : String) : Site → Prop
  /-- The context is barred, or the store does not describe it. -/
  | refused (reason : target ∈ site.board.failed ∨ ¬site.Describes name) :
      Activation site target name site
  | opened (unbarred : target ∉ site.board.failed) (described : site.Describes name)
      (reachable : target ∉ site.fleet.unreachable) {after : Site}
      (board : after.board = site.board.switchTo target { context := target })
      (dialled : after = site.dial target) : Activation site target name after
  | failed (unbarred : target ∉ site.board.failed) (described : site.Describes name)
      (unreachable : target ∈ site.fleet.unreachable) {after : Site}
      (board : after.board = site.board.bar target)
      (dialled : after = site.dial target) : Activation site target name after

theorem activate_cases {site : Site} {name : String}
    (inactive : site.board.active? (Switchboard.target site.host name) = none) :
    site.Activation (Switchboard.target site.host name) name (site.activate name).2 := by
  unfold Site.activate Switchboard.activate
  simp only [inactive]
  by_cases barred : Switchboard.target site.host name ∈ site.board.failed
  · simp only [Switchboard.isBarred_iff.mpr barred, if_true]
    exact .refused (.inl barred)
  · have free : site.board.isBarred (Switchboard.target site.host name) = false := by
      simpa [Switchboard.isBarred] using barred
    simp only [free, Bool.false_eq_true, if_false]
    cases described : Switchboard.describes site.settings site.host name with
    | error error =>
        refine .refused (.inr fun describes => ?_)
        rw [Site.Describes, described] at describes
        cases describes
    | ok _ =>
        rcases site.dial_cases (Switchboard.target site.host name) with
          ⟨reachable, board⟩ | ⟨unreachable, board⟩
        · exact .opened barred described reachable board rfl
        · exact .failed barred described unreachable board rfl

/-- The site with a new store, and a switchboard that has forgotten a context. -/
def without (site : Site) (host : Host) (name : String) : Site :=
  { site with host, board := site.board.forget name }

/-! ## What a removal comes to -/

/-- What follows the removal of the active context: its successor is active, with a client of its
own, or nothing is. -/
structure Succeeds (next? : Option String) (before after : Site) : Prop where
  active : (∃ next, next? = some next ∧ after.board.IsOn next) ∨
    after.board.current = none ∧ after.board.client = none
  /-- Nothing is active exactly when nobody is left to follow, or the activation of the successor
  fails: it is barred, or the store does not describe it, or it cannot be reached. -/
  vacant_iff : after.board.current = none ↔
    next? = none ∨ ∃ next, next? = some next ∧
      (next ∈ before.board.failed ∨ ¬after.Describes next ∨ next ∈ before.fleet.unreachable)

/-- What removing a context comes to.  `document` is what was stored before. -/
structure Removes (document : Kubeconfig) (name : String) (before after : Site) : Prop where
  /-- The store has exactly the other contexts, in their order. -/
  stored : ∃ left, after.host.load after.settings = .ok left ∧
    left.contexts = document.otherContexts name
  inactive : after.board.current ≠ some name
  unbarred : name ∉ after.board.failed
  stillBarred : ∀ other, other ≠ name → other ∈ before.board.failed → other ∈ after.board.failed
  /-- Nobody is barred but the successor of the active context, by a connection that failed. -/
  newlyBarred : ∀ other, other ∉ before.board.failed → other ∈ after.board.failed →
    before.board.current = some name ∧ document.successor? name = some other ∧
      after.fleet.connects = before.fleet.connects ++ [other] ∧
      other ∈ before.fleet.unreachable
  /-- When the context was not active, the connection stays and nobody is connected to. -/
  aside : before.board.current ≠ some name →
    after.board.current = before.board.current ∧ after.board.client = before.board.client ∧
      after.fleet = before.fleet
  succeeds : before.board.current = some name →
    Succeeds (document.successor? name) before after

section Forgetting

variable {site after : Site} {document : Kubeconfig} {host : Host} {name next : String}

theorem without_vacant (host : Host) (active : site.board.current = some name) :
    (site.without host name).board.current = none ∧
      (site.without host name).board.client = none := by
  simp [without, Switchboard.forget, active]

theorem mem_without {other : String} : other ∈ (site.without host name).board.failed ↔
    other ∈ site.board.failed ∧ other ≠ name :=
  Switchboard.mem_forget

/-- Removing a context that is not active. -/
theorem removes_inactive (inactive : site.board.current ≠ some name)
    (stored : ∃ left, host.load site.settings = .ok left ∧
      left.contexts = document.otherContexts name) :
    site.Removes document name (site.without host name) where
  stored := stored
  inactive active := (Switchboard.forget_current.mp active).2 rfl
  unbarred barred := (mem_without.mp barred).2 rfl
  stillBarred _ different barred := mem_without.mpr ⟨barred, different⟩
  newlyBarred _ unbarred barred := absurd (mem_without.mp barred).1 unbarred
  aside _ := by simp [without, Switchboard.forget, inactive]
  succeeds active := absurd active inactive

section Succession

variable (active : site.board.current = some name)
  (stored : ∃ left, host.load site.settings = .ok left ∧
    left.contexts = document.otherContexts name)

include active stored

/-- Removing the active context when no other one is left, or its successor is not connected
to. -/
theorem removes_unfollowed
    (unfollowed : document.successor? name = none ∨
      ∃ next, document.successor? name = some next ∧
        (next ∈ site.board.failed ∨ ¬(site.without host name).Describes next ∨
          next ∈ site.fleet.unreachable)) :
    site.Removes document name (site.without host name) where
  stored := stored
  inactive current := (Switchboard.forget_current.mp current).2 rfl
  unbarred barred := (mem_without.mp barred).2 rfl
  stillBarred _ otherwise barred := mem_without.mpr ⟨barred, otherwise⟩
  newlyBarred _ unbarred barred := absurd (mem_without.mp barred).1 unbarred
  aside inactive := absurd active inactive
  succeeds _ :=
    have vacant := without_vacant host active
    ⟨.inr vacant, iff_of_true vacant.1 unfollowed⟩

variable (follows : document.successor? name = some next)

include follows

/-- Removing the active context when its successor becomes active. -/
theorem removes_opened (unbarred : next ∉ (site.without host name).board.failed)
    (described : (site.without host name).Describes next)
    (reachable : next ∉ (site.without host name).fleet.unreachable)
    (board : after.board = (site.without host name).board.switchTo next { context := next })
    (dialled : after = (site.without host name).dial next) :
    site.Removes document name after := by
  have different := Kubeconfig.ne_of_successor? follows
  have isOn : after.board.IsOn next := ⟨{ context := next }, by rw [board]; rfl, rfl⟩
  refine ⟨?_, ?_, ?_, ?_, ?_, fun inactive => absurd active inactive, fun _ => ⟨?_, ?_⟩⟩
  · rw [dialled]
    exact stored
  · rw [board]
    exact fun same => different (Option.some.inj same)
  · rw [board]
    exact fun barred => (mem_without.mp (Switchboard.mem_switchTo.mp barred).1).2 rfl
  · rw [board]
    intro other otherwise barred
    have before : other ∈ (site.without host name).board.failed :=
      mem_without.mpr ⟨barred, otherwise⟩
    exact Switchboard.mem_switchTo.mpr ⟨before, fun same => unbarred (same ▸ before)⟩
  · rw [board]
    intro other free barred
    exact absurd (mem_without.mp (Switchboard.mem_switchTo.mp barred).1).1 free
  · exact .inl ⟨next, follows, isOn⟩
  · refine iff_of_false (by rw [board]; nofun) ?_
    rintro (nobody | ⟨other, otherFollows, fails⟩)
    · rw [follows] at nobody
      cases nobody
    · rw [follows] at otherFollows
      cases otherFollows
      rcases fails with barred | undescribed | unreachable
      · exact unbarred (mem_without.mpr ⟨barred, different⟩)
      · rw [dialled] at undescribed
        exact undescribed described
      · exact reachable unreachable

/-- Removing the active context when the connection to its successor fails. -/
theorem removes_failed (unreachable : next ∈ (site.without host name).fleet.unreachable)
    (board : after.board = (site.without host name).board.bar next)
    (dialled : after = (site.without host name).dial next) :
    site.Removes document name after := by
  have different := Kubeconfig.ne_of_successor? follows
  obtain ⟨vacant, clientless⟩ := without_vacant host active
  have nobody : after.board.current = none := by
    rw [board, Switchboard.bar_current, vacant]
  refine ⟨?_, ?_, ?_, ?_, ?_, fun inactive => absurd active inactive, fun _ => ⟨?_, ?_⟩⟩
  · rw [dialled]
    exact stored
  · exact nobody ▸ nofun
  · rw [board]
    intro barred
    rcases Switchboard.mem_bar.mp barred with before | rfl
    · exact (mem_without.mp before).2 rfl
    · exact different rfl
  · rw [board]
    intro other otherwise barred
    exact Switchboard.mem_bar.mpr (.inl (mem_without.mpr ⟨barred, otherwise⟩))
  · rw [board]
    intro other free barred
    rcases Switchboard.mem_bar.mp barred with before | rfl
    · exact absurd (mem_without.mp before).1 free
    · refine ⟨active, follows, ?_, unreachable⟩
      rw [dialled, dial_connects]
      rfl
  · exact .inr ⟨nobody, by rw [board, Switchboard.bar_client, clientless]⟩
  · exact iff_of_true nobody (.inr ⟨next, follows, .inr (.inr unreachable)⟩)

/-- Removing the active context when another one follows. -/
theorem removes_active (activation : (site.without host name).Activation next next after) :
    site.Removes document name after := by
  cases activation with
  | refused reason =>
      refine removes_unfollowed active stored (.inr ⟨next, follows, ?_⟩)
      exact reason.imp (fun barred => (mem_without.mp barred).1) .inl
  | opened unbarred described reachable board dialled =>
      exact removes_opened active stored follows unbarred described reachable board dialled
  | failed unbarred described unreachable board dialled =>
      exact removes_failed active stored follows unreachable board dialled

end Succession
end Forgetting
end Site

namespace Lens

variable {lens : Lens} {document left : Kubeconfig} {host : Host} {name : String}

/-- A removal that is refused changes nothing. -/
theorem removeContext_of_error {error : ServiceError}
    (refused : (lens.removeContext name).1 = .error error) :
    (lens.removeContext name).2 = lens := by
  rcases Switchboard.dropContext_cases lens.site.settings lens.site.host name with
    ⟨_, unchanged⟩ | ⟨_, _, _, _, _, _, _, dropped⟩
  · rw [removeContext_of_refused unchanged]
  · have succeeded := lens.removeContext_isOk name
    rw [refused, dropped] at succeeded
    cases succeeded

/-- Removing the active context activates the one that is promoted. -/
theorem removeContext_active
    (dropped : Switchboard.dropContext lens.site.settings lens.site.host name = (.ok left, host))
    (active : lens.site.board.current = some name) :
    (lens.removeContext name).2.site =
      match Switchboard.promoted? left with
      | none => lens.site.without host name
      | some next => ((lens.site.without host name).activate next).2 := by
  have forgotten : lens.site.board.forget name = (lens.site.board.unbar name).disconnect := by
    simp [Switchboard.forget, active]
  unfold Lens.removeContext Switchboard.removeContext Site.without
  simp only [dropped, Switchboard.unbar_current, active, if_true, forgotten]
  cases Switchboard.promoted? left <;> rfl

/-- Where a document can be loaded, its contexts can be removed, and no others, unless storing
fails. -/
theorem removeContext_isOk_iff (outside : lens.site.host.inCluster = false)
    (loaded : lens.site.host.load lens.site.settings = .ok document) :
    (lens.removeContext name).1.isOk = true ↔
      name ∈ document.contextNames ∧ lens.site.host.faults = [] := by
  rw [lens.removeContext_isOk, ← Kubeconfig.removeContext_isSome_iff]
  unfold Switchboard.dropContext
  rw [outside, loaded]
  simp only [Bool.false_eq_true, if_false]
  cases document.removeContext name with
  | none => simp [Except.isOk, Except.toBool]
  | some left =>
      dsimp only
      rw [Host.save_of_loadOrBlank (Host.loadOrBlank_of_load loaded) left]
      by_cases faultless : lens.site.host.faults = [] <;>
        simp [faultless, Except.map, Except.isOk, Except.toBool]

/-- A removal that succeeds, of a context that may be active or not. -/
theorem removeContext_removes (loaded : lens.site.host.load lens.site.settings = .ok document)
    (distinct : document.contextNames.Nodup) (succeeded : (lens.removeContext name).1.isOk = true) :
    lens.site.Removes document name (lens.removeContext name).2.site := by
  obtain ⟨left, host, dropped⟩ := removeContext_dropped succeeded
  obtain ⟨outside, before, loadedBefore, taken, saved⟩ := Switchboard.dropContext_eq_ok dropped
  obtain rfl : document = before := Except.ok.inj (loaded.symm.trans loadedBefore)
  have after := Host.save_eq_ok saved
  have stored : ∃ left, host.load lens.site.settings = .ok left ∧
      left.contexts = document.otherContexts name :=
    ⟨left.reread, by rw [after]; rfl,
      (Kubeconfig.removeContext_contexts distinct taken : left.contexts = _)⟩
  by_cases active : lens.site.board.current = some name
  · rw [removeContext_active dropped active, Kubeconfig.promoted?_removeContext distinct taken]
    cases follows : document.successor? name with
    | none => exact Site.removes_unfollowed active stored (.inl follows)
    | some next =>
        have stillOutside : host.inCluster = false := by
          rw [after]
          exact outside
        have target : Switchboard.target (lens.site.without host name).host next = next := by
          show (if host.inCluster then inClusterContext else next) = next
          simp [stillOutside]
        have inactive : (lens.site.without host name).board.active? next = none := by
          unfold Switchboard.active?
          simp [(Site.without_vacant host active).1]
        refine Site.removes_active active stored follows ?_
        have activation : (lens.site.without host name).Activation
            (Switchboard.target (lens.site.without host name).host next) next
            ((lens.site.without host name).activate next).2 :=
          Site.activate_cases (by rw [target]; exact inactive)
        rwa [target] at activation
  · rw [removeContext_inactive dropped active]
    exact Site.removes_inactive active stored

/-- Outside a cluster, a context can be removed exactly when it is stored and no step of storing
fails, and a removal that is refused changes nothing.  After one that succeeds, the other contexts
are left.  If the context was active, the one that the store proposed follows it, or else the first
one left, unless that one cannot be activated. -/
theorem removeContext_correct (lens : Lens) (document : Kubeconfig) (name : String)
    (outside : lens.site.host.inCluster = false)
    (loaded : lens.site.host.load lens.site.settings = .ok document)
    (distinct : document.contextNames.Nodup) :
    ((lens.removeContext name).1 = .ok () ↔
        name ∈ document.contextNames ∧ lens.site.host.faults = []) ∧
      (∀ error, (lens.removeContext name).1 = .error error → (lens.removeContext name).2 = lens) ∧
      ((lens.removeContext name).1 = .ok () →
        lens.site.Removes document name (lens.removeContext name).2.site) := by
  have isOk : (lens.removeContext name).1 = .ok () ↔
      (lens.removeContext name).1.isOk = true := by
    cases (lens.removeContext name).1 <;> simp [Except.isOk, Except.toBool]
  refine ⟨isOk.trans (removeContext_isOk_iff outside loaded), ?_, ?_⟩
  · exact fun error refused => removeContext_of_error refused
  · exact fun succeeded => removeContext_removes loaded distinct (isOk.mp succeeded)

/-- The active context is removed, and the one that the document proposes follows it, though it is
not the first one that is left. -/
theorem removeContext_proposed :
    let document : Kubeconfig :=
      { contexts := [{ name := "dev" }, { name := "prod" }, { name := "qa" }]
        current := some "qa" }
    let lens := (onHost (.defaults none) { kubeconfig := .saved document }).run [.setContext "dev"]
    let after := (lens.removeContext "dev").2
    lens.site.host.load lens.site.settings = .ok document ∧
      lens.site.board.current = some "dev" ∧
      lens.site.Removes document "dev" after.site ∧ after.site.board.current = some "qa" := by
  intro document lens after
  have loaded : lens.site.host.load lens.site.settings = .ok document := by rfl
  obtain ⟨isOk, _, removes⟩ :=
    removeContext_correct lens document "dev" (by decide) loaded (by decide)
  exact ⟨loaded, by decide, removes (isOk.mpr ⟨by decide, rfl⟩), by decide⟩

end Lens
end KubeLens
