import KubeLens.Proofs.Lens.Opening

/-!
# Activations as a whole

An activation ends in one of five ways, and only two of them dial.  One that fails leaves the
active connection and the store as they are, and bars its context only if it was dialled in vain.
One that succeeds bars nothing, and dials nothing when its context was active before.  Whether
credentials are mounted may change at any time, and so may the kubeconfig file.
-/

namespace KubeLens

theorem Switchboard.unbar_failed {board : Switchboard} {target : String}
    (unbarred : target ∉ board.failed) : (board.unbar target).failed = board.failed := by
  refine List.filter_eq_self.mpr fun name barred => bne_iff_ne.mpr ?_
  rintro rfl
  exact unbarred barred

namespace Fleet

variable {fleet : Fleet} {context : String}

theorem connect_reachable (reachable : context ∉ fleet.unreachable) :
    fleet.connect context =
      (.ok { context }, { fleet with connects := fleet.connects ++ [context] }) :=
  Prod.ext (if_neg reachable) rfl

theorem connect_unreachable (unreachable : context ∈ fleet.unreachable) :
    ∃ cause, fleet.connect context =
      (.error cause, { fleet with connects := fleet.connects ++ [context] }) :=
  ⟨_, Prod.ext (if_pos unreachable) rfl⟩

end Fleet

namespace Site

/-- Makes a context active and gives its connection; for the active context nothing happens. -/
def ensureActive (site : Site) (name : String) : Except ServiceError Handle × Site :=
  let (answer, board, fleet) := site.board.ensureActive site.settings site.host site.fleet name
  (answer, { site with board, fleet })

/-- The look that an activation takes without the lock is taken again under it. -/
theorem ensureActive_eq_activate (site : Site) (name : String) :
    site.ensureActive name = site.activate name := by
  unfold Site.ensureActive Site.activate Switchboard.ensureActive
  cases active : site.board.active? (Switchboard.target site.host name) with
  | none => rfl
  | some handle =>
      unfold Switchboard.activate
      simp only [active]

theorem setActive_eq (site : Site) (name : String) :
    site.setActive name =
      ((site.ensureActive name).1.map fun _ => (), (site.ensureActive name).2) := rfl

/-- A context that can be reached becomes active when it is dialled. -/
theorem dial_board_of_reachable {site : Site} {target : String}
    (reachable : target ∉ site.fleet.unreachable) :
    (site.dial target).board = site.board.switchTo target { context := target } := by
  rcases site.dial_cases target with ⟨_, switched⟩ | ⟨unreachable, _⟩
  · exact switched
  · exact absurd unreachable reachable

/-- A context that cannot be reached is barred when it is dialled. -/
theorem dial_board_of_unreachable {site : Site} {target : String}
    (unreachable : target ∈ site.fleet.unreachable) :
    (site.dial target).board = site.board.bar target := by
  rcases site.dial_cases target with ⟨reachable, _⟩ | ⟨_, barred⟩
  · exact absurd unreachable reachable
  · exact barred

/-! ## How an activation ends -/

/-- The ways in which an activation ends. -/
inductive Exit (site : Site) (name : String) : Except ServiceError Handle → Site → Prop
  /-- The context is active already. -/
  | kept {handle : Handle}
      (active : site.board.active? (Switchboard.target site.host name) = some handle) :
      Exit site name (.ok handle) site
  | barred (inactive : site.board.active? (Switchboard.target site.host name) = none)
      (barred : Switchboard.target site.host name ∈ site.board.failed) :
      Exit site name (.error (.contextBarred (Switchboard.target site.host name))) site
  /-- No client can be described. -/
  | undescribed (inactive : site.board.active? (Switchboard.target site.host name) = none)
      {error : ServiceError}
      (reason : Switchboard.describes site.settings site.host name = .error error) :
      Exit site name (.error error) site
  | connected (inactive : site.board.active? (Switchboard.target site.host name) = none)
      (unbarred : Switchboard.target site.host name ∉ site.board.failed)
      (described : site.Describes name)
      (reachable : Switchboard.target site.host name ∉ site.fleet.unreachable) :
      Exit site name
        (.ok ⟨Switchboard.target site.host name,
          { context := Switchboard.target site.host name }⟩)
        (site.dial (Switchboard.target site.host name))
  /-- The context is dialled in vain. -/
  | refused (inactive : site.board.active? (Switchboard.target site.host name) = none)
      (unbarred : Switchboard.target site.host name ∉ site.board.failed)
      (described : site.Describes name)
      (unreachable : Switchboard.target site.host name ∈ site.fleet.unreachable)
      {cause : ClusterError}
      (refusal : (site.fleet.connect (Switchboard.target site.host name)).1 = .error cause) :
      Exit site name (.error (.connectFailed (Switchboard.target site.host name) cause))
        (site.dial (Switchboard.target site.host name))

/-- Dialling a context, when nothing stands against it. -/
theorem dial_exit {site : Site} {name : String}
    (inactive : site.board.active? (Switchboard.target site.host name) = none)
    (unbarred : Switchboard.target site.host name ∉ site.board.failed)
    (described : site.Describes name) :
    site.Exit name (site.board.dial site.fleet (Switchboard.target site.host name)).1
      (site.dial (Switchboard.target site.host name)) := by
  unfold Switchboard.dial
  by_cases unreachable : Switchboard.target site.host name ∈ site.fleet.unreachable
  · obtain ⟨cause, refusal⟩ := Fleet.connect_unreachable unreachable
    rw [refusal]
    exact .refused inactive unbarred described unreachable (congrArg Prod.fst refusal)
  · rw [Fleet.connect_reachable unreachable]
    exact .connected inactive unbarred described unreachable

theorem activate_exit (site : Site) (name : String) :
    site.Exit name (site.activate name).1 (site.activate name).2 := by
  cases inactive : site.board.active? (Switchboard.target site.host name) with
  | some handle =>
      simp only [Site.activate, Switchboard.activate, inactive]
      exact .kept inactive
  | none =>
      by_cases barred : Switchboard.target site.host name ∈ site.board.failed
      · simp only [Site.activate, Switchboard.activate, inactive,
          Switchboard.isBarred_iff.mpr barred, if_true]
        exact .barred inactive barred
      · have free : site.board.isBarred (Switchboard.target site.host name) = false := by
          simpa [Switchboard.isBarred] using barred
        cases described : Switchboard.describes site.settings site.host name with
        | error error =>
            simp only [Site.activate, Switchboard.activate, inactive, free, described,
              Bool.false_eq_true, if_false]
            exact .undescribed inactive described
        | ok _ =>
            simp only [Site.activate, Switchboard.activate, inactive, free, described,
              Bool.false_eq_true, if_false]
            exact dial_exit inactive barred described

theorem ensureActive_exit (site : Site) (name : String) :
    site.Exit name (site.ensureActive name).1 (site.ensureActive name).2 := by
  rw [ensureActive_eq_activate]
  exact site.activate_exit name

/-- A request that names a context activates it. -/
theorem resolve_of_wanted {site : Site} {context? : Option String} {name : String}
    (named : Switchboard.wanted? context? = some name) :
    site.resolve context? = site.ensureActive name := by
  unfold Site.resolve Switchboard.resolve
  rw [named]
  rfl

/-- A context that is not barred, can be described and can be reached stays so, whatever attempts
to connect are made. -/
theorem connects_of_reachable {site : Site} (coherent : site.board.Coherent)
    {context? : Option String} {name : String} (named : Switchboard.wanted? context? = some name)
    (unbarred : Switchboard.target site.host name ∉ site.board.failed)
    (described : site.Describes name)
    (reachable : Switchboard.target site.host name ∉ site.fleet.unreachable) :
    site.Connects context? := by
  intro after attempts
  have opens : after.Opens name := by
    refine .inr ⟨?_, ?_, ?_⟩
    · exact attempts.host.symm ▸ attempts.unbarred reachable unbarred
    · unfold Site.Describes
      rwa [attempts.settings, attempts.host]
    · rwa [attempts.host, attempts.unreachable]
  obtain ⟨client, _, answer, _⟩ := ensureActive_of_opens (attempts.coherent coherent) opens
  exact ⟨_, (congrArg Prod.fst (resolve_of_wanted named)).trans answer⟩

/-! ## What an activation leaves -/

/-- What an activation leaves that fails. -/
structure Declines (site : Site) (name : String) (error : ServiceError) (after : Site) :
    Prop where
  current : after.board.current = site.board.current
  client : after.board.client = site.board.client
  stored : after.host = site.host
  /-- Nothing at all is changed, unless the context was dialled in vain.  Then it alone is barred,
  and the error says that it could not be connected to. -/
  barred : after = site ∨ ∃ cause,
    (site.fleet.connect (Switchboard.target site.host name)).1 = .error cause ∧
    error = .connectFailed (Switchboard.target site.host name) cause ∧
    after.fleet.connects = site.fleet.connects ++ [Switchboard.target site.host name] ∧
    Switchboard.target site.host name ∉ site.board.failed ∧
    after.board.failed = site.board.failed ++ [Switchboard.target site.host name]

/-- What an activation leaves that succeeds. -/
structure Grants (site : Site) (name : String) (handle : Handle) (after : Site) : Prop where
  context : handle.context = Switchboard.target site.host name
  client : handle.client.context = Switchboard.target site.host name
  active : after.board.handle? = some handle
  current : after.board.current = some (Switchboard.target site.host name)
  failed : after.board.failed = site.board.failed
  /-- Nothing happens for the active context. -/
  again : site.board.current = some (Switchboard.target site.host name) → after = site
  /-- Any other context is dialled once. -/
  dialled : site.board.current ≠ some (Switchboard.target site.host name) →
    after.fleet.connects = site.fleet.connects ++ [Switchboard.target site.host name]

variable {site after : Site} {name : String}

theorem Exit.declines {error : ServiceError} (exit : site.Exit name (.error error) after) :
    site.Declines name error after := by
  cases exit with
  | barred => exact ⟨rfl, rfl, rfl, .inl rfl⟩
  | undescribed => exact ⟨rfl, rfl, rfl, .inl rfl⟩
  | refused inactive unbarred described unreachable refusal =>
      have barred := dial_board_of_unreachable unreachable
      have free : ¬ site.board.isBarred (Switchboard.target site.host name) = true :=
        fun present => unbarred (Switchboard.isBarred_iff.mp present)
      refine ⟨by rw [barred, Switchboard.bar_current], by rw [barred, Switchboard.bar_client],
        rfl, .inr ⟨_, refusal, rfl, site.dial_connects _, unbarred, ?_⟩⟩
      rw [barred, Switchboard.bar, if_neg free]

theorem Exit.grants {handle : Handle} (exit : site.Exit name (.ok handle) after)
    (coherent : site.board.Coherent) : site.Grants name handle after := by
  cases exit with
  | kept active =>
      have current : site.board.current = some (Switchboard.target site.host name) := by
        by_contra inactive
        rw [coherent.active?_eq_none_iff.mpr inactive] at active
        cases active
      rw [Switchboard.active?, if_pos current] at active
      obtain ⟨client, found, own⟩ := coherent.isOn_iff.mpr current
      obtain rfl : handle = ⟨_, client⟩ := Option.some.inj (active.symm.trans found)
      exact ⟨rfl, own, found, current, rfl, fun _ => rfl, fun other => absurd current other⟩
  | connected inactive unbarred described reachable =>
      have switched := dial_board_of_reachable reachable
      have other := coherent.active?_eq_none_iff.mp inactive
      refine ⟨rfl, rfl, by rw [switched]; rfl, by rw [switched]; rfl, ?_,
        fun current => absurd current other, fun _ => site.dial_connects _⟩
      rw [switched]
      exact Switchboard.unbar_failed unbarred

/-! ## Activations that dial nothing -/

/-- What stands against dialling a context outside a cluster. -/
inductive Lacks (site : Site) (name : String) : Prop
  | blank (blank : name = "")
  /-- The kubeconfig is missing or cannot be read. -/
  | unreadable {error : ServiceError} (unreadable : site.host.load site.settings = .error error)
  | unknown {document : Kubeconfig} (loaded : site.host.load site.settings = .ok document)
      (unknown : document.hasContext name = false)
  /-- No client can be made from the kubeconfig. -/
  | unusable {document : Kubeconfig} (loaded : site.host.load site.settings = .ok document)
      {error : ServiceError} (unusable : document.clientConfig = .error error)

theorem Lacks.not_describes (lacks : site.Lacks name) (outside : site.host.inCluster = false) :
    ¬ site.Describes name := by
  rw [Site.describes_iff outside]
  rintro ⟨named, known, document, config, loaded, converted⟩
  cases lacks with
  | blank blank => exact named blank
  | unreadable unreadable =>
      rw [unreadable] at loaded
      cases loaded
  | unknown stored unknown =>
      obtain ⟨other, read, present⟩ := (Host.knows_of_outside outside).mp known
      obtain rfl := Except.ok.inj (stored.symm.trans read)
      rw [Kubeconfig.hasContext_iff.mpr present] at unknown
      cases unknown
  | unusable stored unusable =>
      obtain rfl := Except.ok.inj (stored.symm.trans loaded)
      rw [converted] at unusable
      cases unusable

/-- An activation changes nothing when its context cannot be described. -/
theorem Exit.of_not_describes {answer : Except ServiceError Handle}
    (exit : site.Exit name answer after) (undescribed : ¬ site.Describes name) : after = site := by
  cases exit with
  | kept => rfl
  | barred => rfl
  | undescribed => rfl
  | connected _ _ described => exact absurd described undescribed
  | refused _ _ described => exact absurd described undescribed

/-- A barred context is not tried again. -/
theorem ensureActive_of_barred (coherent : site.board.Coherent)
    (barred : Switchboard.target site.host name ∈ site.board.failed) :
    site.ensureActive name =
      (.error (.contextBarred (Switchboard.target site.host name)), site) := by
  unfold Site.ensureActive
  rw [(refuses_of_barred coherent barred).ensureActive name rfl]

/-- The site with other files. -/
def onFiles (site : Site) (host : Host) : Site :=
  { site with host }

end Site

namespace Lens

/-- The service after the directory of the service account was changed. -/
def mount (lens : Lens) (accountFiles? : Option (List String)) : Lens :=
  { lens with site := { lens.site with host := { lens.site.host with accountFiles? } } }

/-- What events do one after the other, each with what the directory of the service account holds
by then. -/
def runMounting (lens : Lens) (history : List (Option (List String) × Event)) : Lens :=
  history.foldl (fun lens (accountFiles?, event) => (lens.mount accountFiles?).act event) lens

theorem runMounting_sound {lens : Lens} (sound : lens.site.Sound)
    (history : List (Option (List String) × Event)) : (lens.runMounting history).site.Sound :=
  List.foldlRecOn (motive := fun later : Lens => later.site.Sound) history _ sound
    fun before sound (accountFiles?, event) _ =>
      ((before.mount accountFiles?).act_outcome event).sound ⟨sound.coherent, sound.named⟩

/-- Whatever happened before, and whatever files there are now: an activation that fails leaves the
active connection and the store, and bars nothing but a context that it dialled in vain.  One that
succeeds gives and keeps the connection to the context that is meant, bars nothing, and dials at
most once, and not at all for the active context.  A barred context is never dialled, and outside a
cluster neither is one that the store does not describe. -/
theorem activation_atomic (settings : Settings) (host : Host)
    (history : List (Option (List String) × Event)) (files : Host) (name : String) :
    let site := ((onHost settings host).runMounting history).site.onFiles files
    let answer := (site.ensureActive name).1
    let after := (site.ensureActive name).2
    site.setActive name = (answer.map fun _ => (), after) ∧
      (∀ error, answer = .error error → site.Declines name error after) ∧
      (∀ handle, answer = .ok handle → site.Grants name handle after) ∧
      (Switchboard.target site.host name ∈ site.board.failed →
        answer = .error (.contextBarred (Switchboard.target site.host name)) ∧ after = site) ∧
      (files.inCluster = false → site.Lacks name → after = site) := by
  intro site answer after
  have coherent : site.board.Coherent :=
    (runMounting_sound (onHost_sound settings host) history).coherent
  have exit : site.Exit name answer after := site.ensureActive_exit name
  refine ⟨site.setActive_eq name, ?_, ?_, ?_, ?_⟩
  · rintro error failed
    rw [failed] at exit
    exact exit.declines
  · rintro handle found
    rw [found] at exit
    exact exit.grants coherent
  · intro barred
    have refused := Site.ensureActive_of_barred coherent barred
    exact ⟨congrArg Prod.fst refused, congrArg Prod.snd refused⟩
  · exact fun outside lacks => exit.of_not_describes (lacks.not_describes outside)

/-- The kubeconfig is lost after a context became active and another one could not be reached.  The
first one still activates, the other one stays barred, and nothing is dialled. -/
theorem activation_atomic_lost :
    let host := Host.storing ["dev", "prod"]
    let history : List (Option (List String) × Event) :=
      [(none, .isolate ["prod"]), (none, .setContext "prod"), (none, .setContext "dev")]
    let site := ((onHost (.defaults none) host).runMounting history).site.onFiles {}
    site.fleet.connects = ["prod", "dev"] ∧
      site.Grants "dev" ⟨"dev", { context := "dev" }⟩ (site.ensureActive "dev").2 ∧
      (site.ensureActive "dev").2 = site ∧
      site.Declines "prod" (.contextBarred "prod") (site.ensureActive "prod").2 ∧
      (site.ensureActive "prod").2 = site := by
  intro host history site
  obtain ⟨_, _, grants, _, _⟩ :=
    activation_atomic (.defaults none) host history {} "dev"
  obtain ⟨_, declines, _, barred, _⟩ :=
    activation_atomic (.defaults none) host history {} "prod"
  have dev := grants ⟨"dev", { context := "dev" }⟩ (by rfl)
  obtain ⟨refused, unchanged⟩ := barred (by decide)
  exact ⟨by rfl, dev, dev.again (by rfl), declines _ refused, unchanged⟩

/-- Inside a cluster the empty name means the mounted credentials.  They are dialled for it, and
barred when that fails. -/
theorem activation_unnamed :
    let lens := (onHost (.defaults none) { accountFiles? := some credentialFiles }).run
      [.isolate [inClusterContext]]
    let result := lens.site.ensureActive ""
    lens.site.Lacks "" ∧ result.1.isOk = false ∧
      lens.site.fleet.connects = [] ∧ lens.site.board.failed = [] ∧
      result.2.fleet.connects = [inClusterContext] ∧
      result.2.board.failed = [inClusterContext] :=
  ⟨.blank rfl, by decide⟩

end Lens
end KubeLens
