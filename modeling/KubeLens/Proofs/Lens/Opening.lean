import KubeLens.Proofs.Lens.Usable

/-!
# When an activation succeeds

An activation succeeds when its context is active already, or when it is not barred, the store
lets it be activated, and it can be reached.  Then its connection is the active one.  An
activation that fails leaves the active connection as it is.
-/

namespace KubeLens

/-! ## The active connection -/

/-- Whether the active connection is one to a context, with a client for it. -/
def Switchboard.IsOn (board : Switchboard) (context : String) : Prop :=
  ∃ client, board.handle? = some ⟨context, client⟩ ∧ client.context = context

namespace Switchboard

variable {board : Switchboard} {context : String}

theorem handle?_eq_some_iff {handle : Handle} :
    board.handle? = some handle ↔
      board.current = some handle.context ∧ board.client = some handle.client := by
  obtain ⟨context, client⟩ := handle
  unfold handle?
  cases board.current <;> cases board.client <;> simp

/-- A coherent switchboard is on the active context. -/
theorem Coherent.isOn_iff (coherent : board.Coherent) :
    board.IsOn context ↔ board.current = some context := by
  constructor
  · rintro ⟨client, found, _⟩
    exact (handle?_eq_some_iff.mp found).1
  · intro active
    have both := coherent.current_isSome
    rw [active] at both
    obtain ⟨client, present⟩ := Option.isSome_iff_exists.mp both.symm
    have same := coherent.client_context client present
    rw [active] at same
    exact ⟨client, handle?_eq_some_iff.mpr ⟨active, present⟩, (Option.some.inj same).symm⟩

theorem IsOn.of_handle? {other : Switchboard} (isOn : board.IsOn context)
    (same : other.handle? = board.handle?) : other.IsOn context := by
  obtain ⟨client, found, clientContext⟩ := isOn
  exact ⟨client, same.trans found, clientContext⟩

end Switchboard

/-! ## Activations -/

namespace Site

/-- Whether an activation of a name succeeds. -/
def Opens (site : Site) (name : String) : Prop :=
  site.board.current = some (Switchboard.target site.host name) ∨
    (Switchboard.target site.host name ∉ site.board.failed ∧ site.Describes name ∧
      Switchboard.target site.host name ∉ site.fleet.unreachable)

variable {site : Site} {name : String}

/-- An activation that succeeds gives the connection to the context that is meant, which is the
active one from then on, and bars no context. -/
theorem ensureActive_of_opens (coherent : site.board.Coherent) (opens : site.Opens name) :
    ∃ client, client.context = Switchboard.target site.host name ∧
      (site.board.ensureActive site.settings site.host site.fleet name).1 =
        .ok ⟨Switchboard.target site.host name, client⟩ ∧
      (site.board.ensureActive site.settings site.host site.fleet name).2.1.handle? =
        some ⟨Switchboard.target site.host name, client⟩ ∧
      (site.board.ensureActive site.settings site.host site.fleet name).2.1.failed ⊆
        site.board.failed := by
  unfold Switchboard.ensureActive
  by_cases active : site.board.current = some (Switchboard.target site.host name)
  · obtain ⟨client, found, same⟩ := coherent.isOn_iff.mpr active
    have present : site.board.active? (Switchboard.target site.host name) =
        some ⟨Switchboard.target site.host name, client⟩ := by
      rw [Switchboard.active?, if_pos active, found]
    rw [present]
    exact ⟨client, same, rfl, found, List.Subset.refl _⟩
  · obtain ⟨unbarred, described, reachable⟩ := opens.resolve_left active
    have free : site.board.isBarred (Switchboard.target site.host name) = false := by
      simpa [Switchboard.isBarred] using unbarred
    have allowed : Switchboard.describes site.settings site.host name = .ok () := described
    refine ⟨{ context := Switchboard.target site.host name }, rfl, ?_⟩
    unfold Switchboard.activate Switchboard.dial Fleet.connect
    simp only [coherent.active?_eq_none_iff.mpr active, free, allowed, reachable,
      Bool.false_eq_true, if_false]
    exact ⟨trivial, rfl, fun other barred => (Switchboard.mem_switchTo.mp barred).1⟩

/-- An activation that fails leaves the active connection as it is. -/
theorem ensureActive_of_not_opens (coherent : site.board.Coherent) (closed : ¬ site.Opens name) :
    (∃ error,
      (site.board.ensureActive site.settings site.host site.fleet name).1 = .error error) ∧
      (site.board.ensureActive site.settings site.host site.fleet name).2.1.handle? =
        site.board.handle? := by
  obtain ⟨inactive, closed⟩ := not_or.mp closed
  unfold Switchboard.ensureActive Switchboard.activate
  simp only [coherent.active?_eq_none_iff.mpr inactive]
  split
  · exact ⟨⟨_, rfl⟩, rfl⟩
  · rename_i unbarred
    split
    · exact ⟨⟨_, rfl⟩, rfl⟩
    · rename_i described
      have free : Switchboard.target site.host name ∉ site.board.failed := by
        simpa [Switchboard.isBarred] using unbarred
      by_cases unreachable : Switchboard.target site.host name ∈ site.fleet.unreachable
      · unfold Switchboard.dial Fleet.connect
        simp [unreachable, Switchboard.handle?]
      · exact absurd ⟨free, described, unreachable⟩ closed

/-- How a request for a connection ends: it gives the connection to the context that it is about,
which is the active one from then on, or it fails and leaves the active connection as it is. -/
inductive Resolves (site : Site) (context? : Option String) : Prop
  | fails (error : ServiceError) (answer : (site.resolve context?).1 = .error error)
      (unchanged : (site.resolve context?).2.board.handle? = site.board.handle?)
  | finds (client : Client) (own : client.context = site.aim context?)
      (answer : (site.resolve context?).1 = .ok ⟨site.aim context?, client⟩)
      (active : (site.resolve context?).2.board.handle? = some ⟨site.aim context?, client⟩)
      (bars : (site.resolve context?).2.board.failed ⊆ site.board.failed)

theorem resolves (coherent : site.board.Coherent) (context? : Option String) :
    site.Resolves context? := by
  have activated : ∀ name, site.aim context? = Switchboard.target site.host name →
      site.board.resolve site.settings site.host site.fleet context? =
        site.board.ensureActive site.settings site.host site.fleet name →
      site.Resolves context? := by
    intro name meant same
    have answer : (site.resolve context?).1 =
        (site.board.ensureActive site.settings site.host site.fleet name).1 := by
      unfold Site.resolve
      rw [same]
    have board : (site.resolve context?).2.board =
        (site.board.ensureActive site.settings site.host site.fleet name).2.1 := by
      unfold Site.resolve
      rw [same]
    by_cases opens : site.Opens name
    · obtain ⟨client, own, found, active, bars⟩ := ensureActive_of_opens coherent opens
      rw [← answer, ← meant] at found
      rw [← board] at active bars
      rw [← meant] at active own
      exact .finds client own found active bars
    · obtain ⟨⟨error, failed⟩, unchanged⟩ := ensureActive_of_not_opens coherent opens
      rw [← answer] at failed
      rw [← board] at unchanged
      exact .fails error failed unchanged
  unfold aim Switchboard.resolve at activated
  cases wanted : Switchboard.wanted? context? with
  | some name =>
      rw [wanted] at activated
      exact activated name rfl rfl
  | none =>
      rw [wanted] at activated
      cases current : site.board.current with
      | none =>
          rw [current] at activated
          refine activated "" rfl ?_
          rw [coherent.handle?_eq_none_iff.mpr current]
      | some active =>
          obtain ⟨client, found, own⟩ := coherent.isOn_iff.mpr current
          have about : site.aim context? = active := by
            unfold aim
            rw [wanted, current]
            rfl
          have kept : site.resolve context? = (.ok ⟨active, client⟩, site) := by
            unfold Site.resolve Switchboard.resolve
            rw [wanted, found]
          refine .finds client (own.trans about.symm) ?_ ?_ ?_
          · rw [kept, about]
          · rw [kept, about]
            exact found
          · rw [kept]
            exact List.Subset.refl _

/-- The connection that is found is one to the context that the request is about. -/
theorem resolve_own (coherent : site.board.Coherent) {context? : Option String} {handle : Handle}
    (found : (site.resolve context?).1 = .ok handle) :
    handle.context = site.aim context? ∧ handle.client.context = site.aim context? := by
  cases site.resolves coherent context? with
  | fails error answer =>
      rw [answer] at found
      cases found
  | finds client own answer =>
      rw [answer] at found
      cases found
      exact ⟨rfl, own⟩

/-- A connection that is found in an orderly site is to a context that is meant by its own name. -/
theorem Orderly.found (orderly : site.Orderly) {context? : Option String} {handle : Handle}
    (found : (site.resolve context?).1 = .ok handle) :
    handle.context ≠ "" ∧ Switchboard.target site.host handle.context = handle.context := by
  have order := (site.resolve_evolves context?).attempts.keepsOrder
  have after := order.orderly orderly
  cases site.resolves orderly.coherent context? with
  | fails error answer =>
      rw [answer] at found
      cases found
  | finds client own answer active =>
      rw [answer] at found
      cases found
      have current := (Switchboard.handle?_eq_some_iff.mp active).1
      refine ⟨fun blank => after.current_ne_blank (blank ▸ current), ?_⟩
      rw [← Switchboard.target_congr order.inCluster]
      exact after.isNamed _ current

theorem aim_of_named {context : String} (named : context ≠ "") :
    site.aim (some context) = Switchboard.target site.host context := by
  simp [aim, Switchboard.wanted?, Option.filter_some, named]

/-- The context that a request names, or else the active one. -/
def meant? (site : Site) (context? : Option String) : Option String :=
  (Switchboard.wanted? context?).or site.board.current

/-- Outside a cluster a request is about the context that it means. -/
theorem aim_of_meant? (outside : site.host.inCluster = false) {context? : Option String}
    {context : String} (meant : site.meant? context? = some context) :
    site.aim context? = context := by
  unfold meant? at meant
  unfold aim
  cases wanted : Switchboard.wanted? context? with
  | some other =>
      rw [wanted] at meant
      simpa [Switchboard.target, outside] using meant
  | none =>
      rw [wanted, Option.none_or] at meant
      rw [meant]
      rfl

/-- Making a context active succeeds exactly when its activation does. -/
theorem setActive_of_opens (coherent : site.board.Coherent) (opens : site.Opens name) :
    (site.setActive name).1 = .ok () ∧
      (site.setActive name).2.board.IsOn (Switchboard.target site.host name) := by
  obtain ⟨client, own, answer, active, _⟩ := ensureActive_of_opens coherent opens
  unfold setActive
  dsimp only
  rw [answer]
  exact ⟨rfl, client, active, own⟩

theorem setActive_of_not_opens (coherent : site.board.Coherent) (closed : ¬ site.Opens name) :
    (∃ error, (site.setActive name).1 = .error error) ∧
      (site.setActive name).2.board.handle? = site.board.handle? := by
  obtain ⟨⟨error, answer⟩, unchanged⟩ := ensureActive_of_not_opens coherent closed
  unfold setActive
  dsimp only
  rw [answer]
  exact ⟨⟨error, rfl⟩, unchanged⟩

end Site
end KubeLens
