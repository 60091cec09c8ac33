import KubeLens.Proofs.Lens.Activating
import KubeLens.Proofs.Lens.Removal
import KubeLens.Proofs.Switchboard.Chronicle

/-!
# Activating at the same time

Whoever wants a context to be active looks at the active connection first, and takes the lock only
if it is another one.  Between the look and the lock others may do anything.  The look is taken
again under the lock, so that a context is dialled only while it is idle, and whoever gets a
connection gets one to the context that was meant.
-/

namespace KubeLens

/-! ## Callers -/

/-- How far somebody has come who wants a context to be active. -/
inductive Stage
  /-- The active connection is still to be looked at. -/
  | calling
  /-- It was another one, and the lock is waited for. -/
  | waiting
  | answered (answer : Except ServiceError Handle)
  deriving DecidableEq

/-- Somebody who wants a context to be active. -/
structure Caller where
  name : String
  stage : Stage
  deriving DecidableEq

/-- The service, all callers so far, and what changed the switchboard, oldest first. -/
structure Exchange where
  lens : Lens
  callers : List Caller := []
  changes : List Switchboard.Change := []

/-- What happens at once. -/
inductive Action
  | call (name : String)
  /-- A caller looks at the active connection. -/
  | look (place : Nat)
  /-- A caller that waits gets the lock. -/
  | lock (place : Nat)
  | remove (name : String)
  | clear (name : String)
  /-- Someone else writes the kubeconfig file, or other contexts can be reached. -/
  | surround (kubeconfig : KubeconfigFile) (unreachable : List String)

/-- Whether an action is part of activating a context, or a change of the surroundings. -/
def Action.Activates (host : Host) (context : String) : Action → Prop
  | .call name => Switchboard.target host name = context
  | .look _ | .lock _ | .surround _ _ => True
  | .remove _ | .clear _ => False

namespace Site

/-- How far a caller is after a look. -/
def look (site : Site) (name : String) : Stage :=
  match site.board.active? (Switchboard.target site.host name) with
  | some handle => .answered (.ok handle)
  | none => .waiting

/-- What the calls did to the switchboard that are on record later on. -/
def dialsUntil (before after : Site) : List Switchboard.Change :=
  (after.fleet.connects.drop before.fleet.connects.length).map fun context =>
    if context ∈ before.fleet.unreachable then .refused context else .connected context

end Site

namespace Exchange

def step (exchange : Exchange) : Action → Exchange
  | .call name => { exchange with callers := exchange.callers ++ [{ name, stage := .calling }] }
  | .look place =>
    match exchange.callers[place]? with
    | some { name, stage := .calling } =>
      { exchange with
        callers := exchange.callers.set place { name, stage := exchange.lens.site.look name } }
    | _ => exchange
  | .lock place =>
    match exchange.callers[place]? with
    | some { name, stage := .waiting } =>
      let (answer, site) := exchange.lens.site.activate name
      { lens := { exchange.lens with site }
        callers := exchange.callers.set place { name, stage := .answered answer }
        changes := exchange.changes ++ exchange.lens.site.dialsUntil site }
    | _ => exchange
  | .remove name =>
    let (answer, lens) := exchange.lens.removeContext name
    { exchange with
      lens
      changes := exchange.changes ++ (if answer.isOk then [.removed name] else []) ++
        exchange.lens.site.dialsUntil lens.site }
  | .clear name =>
    { exchange with
      lens := exchange.lens.clearFailed name
      changes := exchange.changes ++
        [.cleared (Switchboard.target exchange.lens.site.host name)] }
  | .surround kubeconfig unreachable =>
    let site := exchange.lens.site
    { exchange with
      lens := { exchange.lens with
        site := { site with
          host := { site.host with kubeconfig }, fleet := { site.fleet with unreachable } } } }

def run (exchange : Exchange) (schedule : List Action) : Exchange :=
  schedule.foldl step exchange

end Exchange

/-- The service when nobody has called yet. -/
def Lens.exchange (lens : Lens) : Exchange := { lens }

/-! ## Accounts -/

namespace Site

/-- Whether changes account for what became of a switchboard and of the record of calls. -/
structure Accounts (before : Site) (changes : List Switchboard.Change) (after : Site) :
    Prop where
  inCluster : after.host.inCluster = before.host.inCluster
  board : after.board = before.board.after changes
  connects : after.fleet.connects =
    before.fleet.connects ++ changes.filterMap Switchboard.Change.dialled?
  careful : before.board.Careful changes

namespace Accounts

theorem refl (site : Site) : site.Accounts [] site :=
  ⟨rfl, rfl, (List.append_nil _).symm, trivial⟩

theorem trans {first second third : Site} {earlier later : List Switchboard.Change}
    (before : first.Accounts earlier second) (after : second.Accounts later third) :
    first.Accounts (earlier ++ later) third where
  inCluster := after.inCluster.trans before.inCluster
  board := by rw [after.board, before.board, Switchboard.after_append]
  connects := by
    rw [after.connects, before.connects, List.filterMap_append, List.append_assoc]
  careful := before.careful.append (before.board ▸ after.careful)

theorem coherent {before after : Site} {changes : List Switchboard.Change}
    (accounts : before.Accounts changes after) (coherent : before.board.Coherent) :
    after.board.Coherent := by
  rw [accounts.board]
  exact accounts.careful.coherent coherent

end Accounts

variable {site after : Site} {name context : String}

theorem dialsUntil_of_dialled
    (dialled : after.fleet.connects = site.fleet.connects ++ [context]) :
    site.dialsUntil after =
      [if context ∈ site.fleet.unreachable then .refused context else .connected context] := by
  simp [dialsUntil, dialled]

@[simp] theorem dialsUntil_self (site : Site) : site.dialsUntil site = [] := by
  simp [dialsUntil]

theorem accounts_self (site : Site) : site.Accounts (site.dialsUntil site) site := by
  rw [dialsUntil_self]
  exact .refl site

/-- An idle context may be dialled. -/
theorem accounts_dial (idle : site.board.Idle context) :
    site.Accounts (site.dialsUntil (site.dial context)) (site.dial context) := by
  rw [dialsUntil_of_dialled (site.dial_connects context)]
  by_cases unreachable : context ∈ site.fleet.unreachable
  · rw [if_pos unreachable]
    refine ⟨rfl, dial_board_of_unreachable unreachable, site.dial_connects context, ?_, trivial⟩
    rintro other ⟨⟩
    exact idle
  · rw [if_neg unreachable]
    refine ⟨rfl, dial_board_of_reachable unreachable, site.dial_connects context, ?_, trivial⟩
    rintro other ⟨⟩
    exact idle

theorem Exit.accounts {answer : Except ServiceError Handle} (exit : site.Exit name answer after)
    (coherent : site.board.Coherent) : site.Accounts (site.dialsUntil after) after := by
  have idle : site.board.active? (Switchboard.target site.host name) = none →
      Switchboard.target site.host name ∉ site.board.failed →
      site.board.Idle (Switchboard.target site.host name) :=
    fun inactive unbarred => ⟨coherent.active?_eq_none_iff.mp inactive, unbarred⟩
  cases exit with
  | kept => exact accounts_self site
  | barred => exact accounts_self site
  | undescribed => exact accounts_self site
  | connected inactive unbarred => exact accounts_dial (idle inactive unbarred)
  | refused inactive unbarred => exact accounts_dial (idle inactive unbarred)

/-- An activation dials no other context than the one that it means. -/
theorem Exit.dialled {answer : Except ServiceError Handle} (exit : site.Exit name answer after) :
    ∀ change ∈ site.dialsUntil after,
      change.dialled? = some (Switchboard.target site.host name) := by
  have one : ∀ change ∈ site.dialsUntil (site.dial (Switchboard.target site.host name)),
      change.dialled? = some (Switchboard.target site.host name) := by
    rw [dialsUntil_of_dialled (site.dial_connects _)]
    intro change present
    rw [List.mem_singleton.mp present]
    split <;> rfl
  cases exit with
  | kept => simp
  | barred => simp
  | undescribed => simp
  | connected => exact one
  | refused => exact one

/-- A context is removed that may be active or not. -/
theorem accounts_without {host : Host} (same : host.inCluster = site.host.inCluster) :
    site.Accounts [.removed name] (site.without host name) :=
  ⟨same, rfl, (List.append_nil _).symm, nofun, trivial⟩

end Site

/-- A removal may promote a context, which is dialled if it is idle. -/
theorem Lens.removeContext_accounts (lens : Lens) (name : String)
    (coherent : lens.site.board.Coherent) :
    lens.site.Accounts
      ((if (lens.removeContext name).1.isOk then [.removed name] else []) ++
        lens.site.dialsUntil (lens.removeContext name).2.site)
      (lens.removeContext name).2.site := by
  rw [lens.removeContext_isOk]
  rcases Switchboard.dropContext_cases lens.site.settings lens.site.host name with
    ⟨error, refused⟩ | ⟨_, left, host, _, _, _, saved, dropped⟩
  · rw [removeContext_of_refused refused, refused]
    exact Site.accounts_self lens.site
  · rw [dropped]
    have forgotten : lens.site.Accounts [.removed name] (lens.site.without host name) := by
      refine Site.accounts_without ?_
      rw [Host.save_eq_ok saved]
      rfl
    refine forgotten.trans ?_
    by_cases active : lens.site.board.current = some name
    · rw [removeContext_active dropped active]
      cases Switchboard.promoted? left with
      | none =>
          exact Site.accounts_self _
      | some next =>
          exact ((lens.site.without host name).activate_exit next).accounts
            (forgotten.coherent coherent)
    · rw [removeContext_inactive dropped active]
      exact Site.accounts_self (lens.site.without host name)

/-! ## Steps -/

/-- Whether whoever has an answer got a connection to the context that was meant. -/
def Caller.Served (host : Host) (caller : Caller) : Prop :=
  ∀ handle, caller.stage = .answered (.ok handle) →
    handle.context = Switchboard.target host caller.name ∧
      handle.client.context = Switchboard.target host caller.name

namespace Site

variable {site : Site} {name : String}

theorem served_look (coherent : site.board.Coherent) :
    Caller.Served site.host { name, stage := site.look name } := by
  intro handle answered
  unfold look at answered
  split at answered
  · rename_i active
    cases answered
    have grants := (Exit.kept active).grants coherent
    exact ⟨grants.context, grants.client⟩
  · cases answered

theorem served_lock (coherent : site.board.Coherent) :
    Caller.Served site.host { name, stage := .answered (site.activate name).1 } := by
  rintro handle answered
  have exit := site.activate_exit name
  rw [Stage.answered.inj answered] at exit
  have grants := exit.grants coherent
  exact ⟨grants.context, grants.client⟩

end Site

namespace Exchange

/-- What one action does: the new changes account for it, and callers are served. -/
structure Leads (before after : Exchange) : Prop where
  accounts : ∃ changes, after.changes = before.changes ++ changes ∧
    before.lens.site.Accounts changes after.lens.site
  callers : ∀ caller ∈ after.callers,
    caller ∈ before.callers ∨ caller.Served before.lens.site.host

theorem leads_refl (exchange : Exchange) : exchange.Leads exchange :=
  ⟨⟨[], (List.append_nil _).symm, .refl _⟩, fun _ => .inl⟩

theorem step_leads (exchange : Exchange) (action : Action)
    (coherent : exchange.lens.site.board.Coherent) :
    exchange.Leads (exchange.step action) := by
  cases action with
  | call name =>
      refine ⟨⟨[], (List.append_nil _).symm, .refl _⟩, fun caller present => ?_⟩
      rcases List.mem_append.mp present with before | new
      · exact .inl before
      · rw [List.mem_singleton.mp new]
        exact .inr nofun
  | look place =>
      unfold step
      dsimp only
      split
      · refine ⟨⟨[], (List.append_nil _).symm, .refl _⟩, fun caller present => ?_⟩
        rcases List.mem_or_eq_of_mem_set present with before | rfl
        · exact .inl before
        · exact .inr (Site.served_look coherent)
      · exact exchange.leads_refl
  | lock place =>
      unfold step
      dsimp only
      split
      · rename_i name _
        refine ⟨⟨_, rfl, (exchange.lens.site.activate_exit name).accounts coherent⟩,
          fun caller present => ?_⟩
        rcases List.mem_or_eq_of_mem_set present with before | rfl
        · exact .inl before
        · exact .inr (Site.served_lock coherent)
      · exact exchange.leads_refl
  | remove name =>
      exact ⟨⟨_, List.append_assoc _ _ _, exchange.lens.removeContext_accounts name coherent⟩,
        fun _ => .inl⟩
  | clear name =>
      exact ⟨⟨_, rfl, rfl, rfl, (List.append_nil _).symm, nofun, trivial⟩, fun _ => .inl⟩
  | surround kubeconfig unreachable =>
      exact ⟨⟨[], (List.append_nil _).symm, rfl, rfl, (List.append_nil _).symm, trivial⟩,
        fun _ => .inl⟩

/-! ## Schedules -/

theorem run_induction {P : Exchange → Prop} (exchange : Exchange) (schedule : List Action)
    (initial : P exchange)
    (keeps : ∀ before action, action ∈ schedule → P before → P (before.step action)) :
    P (exchange.run schedule) :=
  List.foldlRecOn schedule step initial fun before holds action present =>
    keeps before action present holds

/-- What is known of an exchange that began at a site. -/
structure Tracks (site : Site) (exchange : Exchange) : Prop where
  accounts : site.Accounts exchange.changes exchange.lens.site
  served : ∀ caller ∈ exchange.callers, caller.Served site.host

theorem Tracks.step {site : Site} {exchange : Exchange} (tracks : Tracks site exchange)
    (coherent : site.board.Coherent) (action : Action) : Tracks site (exchange.step action) := by
  have leads := exchange.step_leads action (tracks.accounts.coherent coherent)
  obtain ⟨changes, grown, accounts⟩ := leads.accounts
  refine ⟨grown ▸ tracks.accounts.trans accounts, fun caller present => ?_⟩
  rcases leads.callers caller present with before | served
  · exact tracks.served caller before
  · intro handle answered
    have own := served handle answered
    rwa [Switchboard.target, tracks.accounts.inCluster, ← Switchboard.target] at own

theorem tracks_start (lens : Lens) : Tracks lens.site lens.exchange :=
  ⟨.refl lens.site, fun _ present => absurd present List.not_mem_nil⟩

theorem run_tracks (lens : Lens) (coherent : lens.site.board.Coherent) (schedule : List Action) :
    Tracks lens.site (lens.exchange.run schedule) :=
  run_induction (P := Tracks lens.site) _ schedule (tracks_start lens)
    fun _ action _ tracks => tracks.step coherent action

/-! ## One context -/

/-- Whether all callers mean one context, and nothing but this context was ever dialled. -/
structure Alone (host : Host) (context : String) (exchange : Exchange) : Prop where
  callers : ∀ caller ∈ exchange.callers, Switchboard.target host caller.name = context
  changes : ∀ change ∈ exchange.changes, change.dialled? = some context

theorem Alone.step {host : Host} {context : String} {exchange : Exchange} {action : Action}
    (alone : Alone host context exchange) (activates : action.Activates host context)
    (same : exchange.lens.site.host.inCluster = host.inCluster) :
    Alone host context (exchange.step action) := by
  cases action with
  | call name =>
      refine ⟨fun caller present => ?_, alone.changes⟩
      rcases List.mem_append.mp present with before | new
      · exact alone.callers caller before
      · rw [List.mem_singleton.mp new]
        exact activates
  | look place =>
      unfold Exchange.step
      dsimp only
      split
      · rename_i name found
        refine ⟨fun caller present => ?_, alone.changes⟩
        rcases List.mem_or_eq_of_mem_set present with before | rfl
        · exact alone.callers caller before
        · exact alone.callers { name, stage := .calling } (List.mem_of_getElem? found)
      · exact alone
  | lock place =>
      unfold Exchange.step
      dsimp only
      split
      · rename_i name found
        have meant := alone.callers _ (List.mem_of_getElem? found)
        refine ⟨fun caller present => ?_, fun change present => ?_⟩
        · rcases List.mem_or_eq_of_mem_set present with before | rfl
          · exact alone.callers caller before
          · exact meant
        · rcases List.mem_append.mp present with before | new
          · exact alone.changes change before
          · rw [← meant, Switchboard.target, ← same, ← Switchboard.target]
            exact (exchange.lens.site.activate_exit name).dialled change new
      · exact alone
  | remove name => exact activates.elim
  | clear name => exact activates.elim
  | surround kubeconfig unreachable => exact ⟨alone.callers, alone.changes⟩

theorem run_alone (lens : Lens) (coherent : lens.site.board.Coherent) {context : String}
    {schedule : List Action}
    (activates : ∀ action ∈ schedule, action.Activates lens.site.host context) :
    Alone lens.site.host context (lens.exchange.run schedule) :=
  (run_induction (P := fun exchange => Tracks lens.site exchange ∧
      Alone lens.site.host context exchange) _ schedule
    ⟨tracks_start lens, fun _ present => absurd present List.not_mem_nil,
      fun _ present => absurd present List.not_mem_nil⟩
    fun _ action present ⟨tracks, alone⟩ => ⟨tracks.step coherent action,
      alone.step (activates action present) tracks.accounts.inCluster⟩).2

/-! ## One caller -/

/-- A look by the last caller. -/
theorem step_look {exchange : Exchange} {earlier : List Caller} {name : String}
    (last : exchange.callers = earlier ++ [{ name, stage := .calling }]) :
    exchange.step (.look earlier.length) =
      { exchange with
        callers := earlier ++ [{ name, stage := exchange.lens.site.look name }] } := by
  unfold step
  simp only [last, List.getElem?_concat_length, List.set_append_right _ _ (Nat.le_refl _),
    Nat.sub_self, List.set_cons_zero]

/-- A caller that nobody comes between is answered as if it had asked all at once. -/
theorem run_undisturbed (exchange : Exchange) (name : String) :
    let place := exchange.callers.length
    let after := exchange.run [.call name, .look place, .lock place]
    after.lens.site = (exchange.lens.site.ensureActive name).2 ∧
      after.callers = exchange.callers ++
        [{ name, stage := .answered (exchange.lens.site.ensureActive name).1 }] := by
  intro place after
  have looked : after = ({ exchange with callers := exchange.callers ++
      [{ name, stage := exchange.lens.site.look name }] } : Exchange).step (.lock place) :=
    congrArg (step · (.lock place)) (step_look rfl)
  rw [looked]
  unfold Site.look Site.ensureActive Switchboard.ensureActive
  cases exchange.lens.site.board.active?
      (Switchboard.target exchange.lens.site.host name) with
  | some handle => simp [step, place]
  | none => simp [step, place, Site.activate]

end Exchange

/-! ## All schedules -/

namespace Lens

/-- However callers, removals and clearings follow each other, the chronicle accounts for the
switchboard and for all calls.  A context is dialled only while it is idle; between two
connections to it, it was removed or another one was connected to.  When nothing but one context
is activated, it is dialled at most once.  Whoever gets a connection gets one to the context that
was meant. -/
theorem exchange_careful (lens : Lens) (coherent : lens.site.board.Coherent)
    (schedule : List Action) :
    let exchange := lens.exchange.run schedule
    let after := exchange.lens.site
    let dialled := exchange.changes.filterMap Switchboard.Change.dialled?
    (after.board = lens.site.board.after exchange.changes ∧
      after.fleet.connects = lens.site.fleet.connects ++ dialled) ∧
    (∀ earlier change later context, exchange.changes = earlier ++ change :: later →
      change.dialled? = some context → (lens.site.board.after earlier).Idle context) ∧
    (∀ earlier between later context,
      exchange.changes =
        earlier ++ .connected context :: (between ++ .connected context :: later) →
      .removed context ∈ between ∨ ∃ other, other ≠ context ∧ .connected other ∈ between) ∧
    (∀ context, (∀ action ∈ schedule, action.Activates lens.site.host context) →
      dialled = [] ∨ dialled = [context]) ∧
    ∀ caller ∈ exchange.callers, ∀ handle, caller.stage = .answered (.ok handle) →
      handle.context = Switchboard.target lens.site.host caller.name ∧
        handle.client.context = Switchboard.target lens.site.host caller.name := by
  intro exchange after dialled
  have tracks := Exchange.run_tracks lens coherent schedule
  have careful : lens.site.board.Careful exchange.changes := tracks.accounts.careful
  refine ⟨⟨tracks.accounts.board, tracks.accounts.connects⟩, ?_, ?_, ?_, tracks.served⟩
  · intro earlier change later context chronicle isDialled
    rw [chronicle] at careful
    exact careful.idle isDialled
  · intro earlier between later context chronicle
    rw [chronicle] at careful
    exact careful.reconnected
  · intro context activates
    exact careful.once (Exchange.run_alone lens coherent activates).changes

/-- Two callers miss the context that both of them mean.  It is dialled for the first one only,
unless another context is activated before the second one gets the lock. -/
theorem exchange_careful_missed :
    let lens := onHost (.defaults none) (Host.storing ["dev", "prod"])
    let missed : List Action := [.call "dev", .call "dev", .look 0, .look 1, .lock 0]
    let together := lens.exchange.run (missed ++ [.lock 1])
    let apart := lens.exchange.run (missed ++ [.call "prod", .look 2, .lock 2, .lock 1])
    lens.site.board.Coherent ∧
      together.changes.filterMap Switchboard.Change.dialled? = ["dev"] ∧
      apart.changes = [.connected "dev", .connected "prod", .connected "dev"] ∧
      (lens.site.board.after [.connected "dev", .connected "prod"]).Idle "dev" ∧
      ∀ caller ∈ together.callers, caller.name = "dev" ∧
        caller.stage = .answered (.ok ⟨"dev", { context := "dev" }⟩) := by
  intro lens missed together apart
  have coherent : lens.site.board.Coherent :=
    (onHost_sound (.defaults none) (Host.storing ["dev", "prod"])).coherent
  obtain ⟨_, _, _, once, _⟩ :=
    exchange_careful lens coherent (missed ++ [.lock 1])
  obtain ⟨_, idle, _, _, _⟩ :=
    exchange_careful lens coherent (missed ++ [.call "prod", .look 2, .lock 2, .lock 1])
  have chronicle : apart.changes = [.connected "dev", .connected "prod", .connected "dev"] := by
    decide +kernel
  have activates : ∀ action ∈ missed ++ [.lock 1], action.Activates lens.site.host "dev" := by
    simp [missed, Action.Activates, Switchboard.target, lens, onHost, Host.storing, Host.inCluster]
  refine ⟨coherent, (once "dev" activates).resolve_left (by decide +kernel), chronicle,
    idle [.connected "dev", .connected "prod"] (.connected "dev") [] "dev" chronicle rfl,
    by decide +kernel⟩

end Lens
end KubeLens
