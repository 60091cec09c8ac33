import KubeLens.Proofs.Lens.Opening
import KubeLens.Proofs.Site.Alone
import KubeLens.Proofs.Watch.Phases

/-!
# The cluster of a watch

Outside a cluster, a task that was started for a context only ever has a client of that context.
What it does over this client depends on no other cluster.
-/

namespace KubeLens
namespace Watch

/-! ## Clients of tasks -/

/-- Whether a task that was started for a context has no client of another one. -/
def Task.Anchored (task : Task) : Prop :=
  ∀ context, task.context? = some context → context ≠ "" →
    ∀ client ∈ task.phase.client?, client.context = context

namespace Task

variable {task : Task}

/-- A phase without a client. -/
theorem Anchored.of_phase (free : task.phase.client? = none) : task.Anchored := by
  intro context _ _ client present
  rw [free] at present
  cases present

theorem Leads.anchored {site : Site} {phase : Phase} (leads : task.Leads site phase)
    (coherent : site.board.Coherent) (outside : site.host.inCluster = false)
    (anchored : task.Anchored) : Task.Anchored { task with phase } := by
  intro context own named client present
  have own : task.context? = some context := own
  rcases leads.client_cases with ⟨_, handle, found, rfl⟩ | same
  · obtain rfl := Option.some.inj present
    have meant : site.meant? task.context? = some context := by
      rw [own]
      simp [Site.meant?, Switchboard.wanted?, Option.filter_some, named]
    rw [(Site.resolve_own coherent found).2, Site.aim_of_meant? outside meant]
  · exact anchored context own named client (same client present)

end Task

/-- Whether all tasks of a session are anchored. -/
def Session.Anchored (session : Session) : Prop :=
  ∀ task ∈ session.tasks, task.Anchored

namespace Session

variable {session : Session}

/-- A turn of a task keeps all tasks anchored. -/
theorem Anchored.turn {task : Task} {site : Site} {after : Session} (anchored : session.Anchored)
    (advances : task.Advances site session after) (present : task ∈ session.tasks)
    (sessionCoherent : session.Coherent) (coherent : site.board.Coherent)
    (outside : site.host.inCluster = false) : after.Anchored := by
  refine advances.each anchored fun phase leads other stored same => ?_
  obtain rfl := sessionCoherent.task_unique stored present same
  exact leads.anchored coherent outside (anchored other stored)

/-- A message starts tasks without a client. -/
theorem Anchored.handle (anchored : session.Anchored) (active? : Option String)
    (control : Control) : (session.handle active? control).Anchored := by
  obtain ⟨dropped, started, heeds⟩ := session.handle_heeds active? control
  intro task present
  rw [heeds.arranges.tasks] at present
  rcases List.mem_append.mp present with kept | new
  · obtain ⟨earlier, stored, rfl⟩ := List.mem_map.mp kept
    exact anchored earlier stored
  · exact .of_phase (by rw [(heeds.arranges.fresh task new).2]; rfl)

theorem Anchored.deed {before after : Turn} (anchored : before.2.Anchored)
    (deed : Deed before after) (sane : before.2.Sane) (coherent : before.1.board.Coherent)
    (outside : before.1.host.inCluster = false) : after.2.Anchored := by
  cases deed with
  | asks active? control => exact anchored.handle active? control
  | owes messages => exact anchored
  | replies =>
      unfold Anchored
      rw [before.2.reply_tasks]
      exact anchored
  | receives count => exact anchored
  | hangsUp => exact anchored
  | closes => exact anchored
  | steps task present _ due =>
      exact anchored.turn (task.step_advances due _ _) present sane.coherent coherent outside
  | ticks task present period =>
      exact anchored.turn (task.tick_advances period _ _) present sane.coherent coherent outside
  | rests => exact anchored

end Session

namespace Hub

/-- Whether all tasks of a hub are anchored. -/
def Anchored (hub : Hub) : Prop :=
  ∀ session ∈ hub.sessions, session.Anchored

theorem Anchored.session {hub : Hub} (anchored : hub.Anchored) (id : Nat) :
    (hub.session id).Anchored :=
  forall_session anchored (List.forall_mem_nil _) id

theorem Anchored.put {hub : Hub} {id : Nat} {session : Session} (anchored : hub.Anchored)
    (changed : session.Anchored) : (hub.put id session).Anchored :=
  forall_put anchored changed

/-! ## Moves -/

/-- A hub whose tasks are anchored, and surroundings in which they stay so. -/
structure Moored (site : Site) (hub : Hub) : Prop where
  coherent : site.board.Coherent
  outside : site.host.inCluster = false
  sane : hub.Sane
  anchored : hub.Anchored

variable {permits : Nat → Happening → Prop} {before after : Site × Hub}

theorem Move.moored (move : Move permits before after) (orderly : before.1.Orderly)
    (moored : Moored before.1 before.2) : Moored after.1 after.2 := by
  refine ⟨(move.keepsOrder.orderly orderly).coherent,
    move.keepsOrder.inCluster.trans moored.outside, move.sane moored.sane, ?_⟩
  have anchored := moored.anchored
  cases move with
  | serves => exact anchored
  | happens site hub id happening =>
      exact anchored.put ((anchored.session id).deed (happening.deed (site, hub.session id))
        (moored.sane.session id) moored.coherent moored.outside)
  | opens site hub context? =>
      intro session present
      rcases List.mem_append.mp present with old | fresh
      · exact anchored session old
      · rw [List.mem_singleton.mp fresh]
        exact List.forall_mem_nil _
  | cancels => exact anchored

theorem Moves.moored (moves : Moves permits before after) (orderly : before.1.Orderly)
    (moored : Moored before.1 before.2) : Moored after.1 after.2 := by
  have kept : after.1.Orderly ∧ Moored after.1 after.2 := by
    induction moves with
    | refl => exact ⟨orderly, moored⟩
    | tail _ last ih => exact ⟨last.keepsOrder.orderly ih.1, last.moored ih.1 ih.2⟩
  exact kept.2

end Hub

/-! ## Other clusters -/

variable {context : String}

namespace Source

variable {source : Source} (own : source.client.context = context)

include own

theorem feed?_only (site : Site) : source.feed? (site.only context) = source.feed? site := by
  unfold feed? Site.only
  rw [← own, source.client.cluster_only]

theorem modify_only (site : Site) (change : Feed → Feed) :
    source.modify (site.only context) change = (source.modify site change).only context := by
  unfold modify Site.only Fleet.modify
  rw [← own]
  simp

end Source

namespace Task

variable {task : Task} (own : ∀ client ∈ task.phase.client?, client.context = context)

include own

theorem own_of_source? {source : Source} (held : task.phase.source? = some source) :
    source.client.context = context :=
  own source.client (client?_of_source? held)

theorem release_only (site : Site) :
    task.release (site.only context) = (task.release site).only context := by
  unfold release
  split
  · rename_i source held
    exact Source.modify_only (own_of_source? own held) site Feed.close
  · rfl

theorem stop_only (site : Site) (session : Session) :
    task.stop (site.only context, session) =
      ((task.stop (site, session)).1.only context, (task.stop (site, session)).2) :=
  congrArg (·, session.dropTask task.generation) (release_only own site)

theorem canStep_only (site : Site) (session : Session) :
    task.canStep (site.only context) session = task.canStep site session := by
  unfold canStep
  cases phase : task.phase with
  | streaming source due =>
      unfold hasInput
      dsimp only
      rw [Source.feed?_only (own_of_source? own (by rw [phase]; rfl))]
  | _ => rfl

omit own in
theorem connect_only (site : Site) (session : Session) :
    task.connect (site.only context, session) =
      ((task.connect (site, session)).1.only context, (task.connect (site, session)).2) := by
  have resolved := Site.resolve_ignores context task.context? site
  unfold connect
  dsimp only at resolved ⊢
  rw [resolved]
  obtain ⟨answer, after⟩ := site.resolve task.context?
  cases answer <;> rfl

theorem subscribe_only {handle : Handle} (connected : task.phase = .connected handle)
    (site : Site) (session : Session) :
    task.subscribe handle (site.only context, session) =
      ((task.subscribe handle (site, session)).1.only context,
        (task.subscribe handle (site, session)).2) := by
  obtain rfl := own handle.client (by rw [connected]; rfl)
  unfold subscribe
  dsimp only
  cases GroupVersion.parseAllowCore task.descriptor.apiVersion with
  | error fault => rfl
  | ok gv =>
      have named := Site.pluralOf_ignores handle.client gv task.descriptor.kind
        task.descriptor.plural? site
      dsimp only at named ⊢
      rw [named]
      obtain ⟨plural, after⟩ :=
        site.pluralOf handle.client gv task.descriptor.kind task.descriptor.plural?
      have watched := handle.client.watch_ignores
        (.ofGroupVersion gv task.descriptor.kind plural) task.descriptor.space?
        task.descriptor.name after.fleet
      unfold Site.only
      dsimp only at watched ⊢
      rw [watched]

/-- What a task does when it has read its object. -/
theorem read_only {source : Source} (held : task.phase.source? = some source)
    (next : Except ClusterError Json → Phase) (site : Site) (session : Session) :
    let continues := fun site : Site => match task.read source site with
      | (none, site) => (site, task.enter session (.stalled source))
      | (some answer, site) => (site, task.enter session (next answer))
    continues (site.only context) = ((continues site).1.only context, (continues site).2) := by
  obtain rfl := own_of_source? own held
  have got := Site.getWith_ignores source.client source.type task.descriptor.space?
    task.descriptor.name site
  unfold read
  dsimp only at got ⊢
  rw [got]
  obtain ⟨answer?, after⟩ :=
    site.getWith source.client source.type task.descriptor.space? task.descriptor.name
  cases answer? <;> rfl

theorem take_only {source : Source} (held : task.phase.source? = some source) (due : Nat)
    (site : Site) (session : Session) :
    task.take source due (site.only context, session) =
      ((task.take source due (site, session)).1.only context,
        (task.take source due (site, session)).2) := by
  have same := own_of_source? own held
  unfold take
  dsimp only
  rw [Source.feed?_only same]
  cases (source.feed? site).bind Feed.next? with
  | some item => exact congrArg (·, _) (Source.modify_only same site Feed.advance)
  | none => exact congrArg (·, _) (release_only own site)

/-- A step of a task depends on no cluster but that of its client. -/
theorem step_only (due : Nat) (site : Site) (session : Session) :
    task.step due (site.only context, session) =
      ((task.step due (site, session)).1.only context, (task.step due (site, session)).2) := by
  unfold step
  dsimp only
  by_cases stopping : task.isStopping session = true
  · simp only [stopping, if_true]
    exact stop_only own site session
  · simp only [stopping]
    cases phase : task.phase with
    | starting => exact connect_only site session
    | connected handle => exact subscribe_only own phase site session
    | opened source =>
        exact read_only own (by rw [phase]; rfl)
          (fun answer => .telling source (task.firstMessage answer) none) site session
    | streaming source _ => exact take_only own (by rw [phase]; rfl) _ site session
    | _ => rfl

theorem tick_only (period : Nat) (site : Site) (session : Session) :
    task.tick period (site.only context, session) =
      ((task.tick period (site, session)).1.only context,
        (task.tick period (site, session)).2) := by
  unfold tick
  dsimp only
  by_cases stopping : task.isStopping session = true
  · simp only [stopping, if_true]
    exact stop_only own site session
  · simp only [stopping]
    cases phase : task.phase with
    | streaming source due =>
        exact read_only own (by rw [phase]; rfl)
          (fun answer => .goingOn source (task.laterMessage? answer) _) site session
    | _ => rfl

/-- A step of a task changes no cluster but that of its client. -/
theorem step_onlyAt (due : Nat) (site : Site) (session : Session) :
    site.fleet.OnlyAt context (task.step due (site, session)).1.fleet := by
  by_cases starting : task.phase = .starting
  · have connected := site.resolve_clusters task.context?
    refine .of_clusters ?_
    unfold step stop release connect
    dsimp only
    simp only [starting, Phase.source?]
    split
    · rfl
    · split <;> rename_i answer <;> rwa [answer] at connected
  · exact (step_within starting own due site session).fleet

end Task
end Watch
end KubeLens
