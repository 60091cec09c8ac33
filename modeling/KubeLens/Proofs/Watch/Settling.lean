import Mathlib.Algebra.Order.BigOperators.Group.List
import KubeLens.Proofs.Watch.Deliveries
import KubeLens.Proofs.Watch.Moves

/-!
# Settling

Each reply of a session and each step of a task that need not wait leaves less to be done.  So
`settle` goes on long enough: when it is done, no session can send anything that it owes, and every
task waits.
-/

namespace KubeLens

/-! ## Items that were not read -/

namespace Fleet

/-- How many items of the feed at a spot were not read yet. -/
def unreadAt (fleet : Fleet) (spot : Spot) : Nat :=
  (fleet.feedAt? spot).elim 0 Feed.unread

/-- A fleet before and after something that leaves no feed with more to read. -/
def Wanes (before after : Fleet) : Prop :=
  ∀ spot, after.unreadAt spot ≤ before.unreadAt spot

variable {before after : Fleet}

theorem Wanes.refl (fleet : Fleet) : fleet.Wanes fleet :=
  fun _ => Nat.le_refl _

theorem Wanes.trans {first second third : Fleet} (earlier : first.Wanes second)
    (later : second.Wanes third) : first.Wanes third :=
  fun spot => (later spot).trans (earlier spot)

theorem Steady.wanes (steady : before.Steady after) : before.Wanes after := by
  intro spot
  obtain ⟨calls, same⟩ := steady.contents spot.1
  unfold unreadAt feedAt?
  rw [same]

end Fleet

theorem Client.watch_unreadAt (client : Client) (fleet : Fleet) (type : ResourceType)
    (space : Option String) (name : String) :
    (client.watch fleet type space name).2.unreadAt
      (client.context, (client.watch fleet type space name).1) = 0 := by
  unfold Fleet.unreadAt
  rw [client.watch_feedAt? fleet type space name]
  rfl

theorem Client.watch_wanes (client : Client) (fleet : Fleet) (type : ResourceType)
    (space : Option String) (name : String) :
    fleet.Wanes (client.watch fleet type space name).2 := by
  intro spot
  by_cases new : spot = (client.context, (client.watch fleet type space name).1)
  · rw [new, client.watch_unreadAt]
    exact Nat.zero_le _
  · unfold Fleet.unreadAt
    rw [client.watch_feedAt?_of_ne fleet type space name new]

namespace Watch

theorem Source.modify_feedAt? (source : Source) (site : Site) (change : Feed → Feed)
    (spot : Spot) :
    (source.modify site change).fleet.feedAt? spot =
      if spot = source.spot then (site.fleet.feedAt? spot).map change
      else site.fleet.feedAt? spot := by
  unfold Source.modify Fleet.modify Source.spot
  by_cases same : source.client.context = spot.1
  · obtain ⟨_, place⟩ := spot
    subst same
    rw [Fleet.feedAt?_put_self]
    unfold Fleet.feedAt? Cluster.modifyFeed
    by_cases here : source.place = place
    · simp [here]
    · simp [here, Ne.symm here]
  · rw [Fleet.feedAt?_put_of_ne _ _ same, if_neg]
    rintro rfl
    exact same rfl

theorem Source.modify_wanes (source : Source) (site : Site) {change : Feed → Feed}
    (less : ∀ feed : Feed, (change feed).unread ≤ feed.unread) :
    site.fleet.Wanes (source.modify site change).fleet := by
  intro spot
  unfold Fleet.unreadAt
  rw [source.modify_feedAt? site change spot]
  split
  · cases site.fleet.feedAt? spot with
    | none => exact Nat.le_refl _
    | some feed => exact less feed
  · exact Nat.le_refl _

/-! ## Steps that a task has left -/

theorem foldr_add_eq_sum {α : Type} (items : List α) (count : α → Nat) :
    items.foldr (fun item left => count item + left) 0 = (items.map count).sum := by
  rw [List.sum_eq_foldr, List.foldr_map]

theorem Phase.rank_pos (phase : Phase) : 0 < phase.rank := by
  cases phase <;> simp [rank]

namespace Task

variable {task : Task}

theorem stepsLeft_eq (task : Task) (site : Site) :
    task.stepsLeft site = 2 * task.spot?.elim 0 site.fleet.unreadAt + task.phase.rank := by
  unfold stepsLeft Task.spot? Phase.spot?
  cases task.phase.source? <;> rfl

theorem stepsLeft_pos (task : Task) (site : Site) : 0 < task.stepsLeft site :=
  Nat.add_pos_right _ task.phase.rank_pos

theorem stepsLeft_mono (task : Task) {before after : Site}
    (wanes : before.fleet.Wanes after.fleet) : task.stepsLeft after ≤ task.stepsLeft before := by
  rw [stepsLeft_eq, stepsLeft_eq]
  cases task.spot? with
  | none => exact Nat.le_refl _
  | some spot => exact Nat.add_le_add_right (Nat.mul_le_mul_left 2 (wanes spot)) _

/-- A task before and after one of its turns, in which something gets done. -/
inductive Spends (task : Task) (before after : Turn) : Prop
  | enters (phase : Phase) (wanes : before.1.fleet.Wanes after.1.fleet)
      (tasks : after.2.tasks = (before.2.setPhase task.generation phase).tasks)
      (less : ({ task with phase } : Task).stepsLeft after.1 < task.stepsLeft before.1)
  | leaves (wanes : before.1.fleet.Wanes after.1.fleet)
      (tasks : after.2.tasks = (before.2.dropTask task.generation).tasks)

theorem Spends.wanes {before after : Turn} (spends : task.Spends before after) :
    before.1.fleet.Wanes after.1.fleet := by
  cases spends <;> assumption

theorem release_wanes (task : Task) (site : Site) : site.fleet.Wanes (task.release site).fleet := by
  unfold release
  split
  · exact Source.modify_wanes _ site fun _ => Nat.le_refl _
  · exact .refl site.fleet

/-- A task that goes on without a feed, or with the feed that it has, gets one step further. -/
theorem Spends.proceeds {before after : Turn} (phase : Phase)
    (wanes : before.1.fleet.Wanes after.1.fleet)
    (tasks : after.2.tasks = (before.2.setPhase task.generation phase).tasks)
    (held : phase.source? = none ∨ phase.source? = task.phase.source?)
    (less : phase.rank < task.phase.rank) : task.Spends before after := by
  refine .enters phase wanes tasks ?_
  rw [stepsLeft_eq, stepsLeft_eq]
  rcases held with none_held | same
  · simp only [Task.spot?, Phase.spot?, none_held, Option.map_none, Option.elim_none]
    omega
  · have spot : ({ task with phase } : Task).spot? = task.spot? := congrArg (Option.map _) same
    rw [spot]
    cases task.spot? with
    | none => simpa using less
    | some spot =>
        have fewer := wanes spot
        simp only [Option.elim_some]
        omega

/-- An item that was read leaves one less to be read, and at most a message to be sent. -/
theorem take_spends {source : Source} {due : Nat} (streaming : task.phase = .streaming source due)
    (site : Site) (session : Session) :
    task.Spends (site, session) (task.take source due (site, session)) := by
  unfold take
  dsimp only
  split
  · rename_i item next
    have own : site.fleet.feedAt? source.spot = source.feed? site := rfl
    refine .enters _ (source.modify_wanes site fun feed => Nat.sub_le_sub_left (Nat.le_succ _) _)
      rfl ?_
    obtain ⟨feed, here, unread⟩ := Option.bind_eq_some_iff.mp next
    obtain ⟨inside, _⟩ := List.getElem?_eq_some_iff.mp unread
    have held : task.spot? = some source.spot := by
      simp [Task.spot?, Phase.spot?, streaming, Phase.source?]
    have still : ({ task with phase := .goingOn source (task.itemMessage? item) due } :
        Task).spot? = some source.spot := by
      simp [Task.spot?, Phase.spot?]
    have told : (Phase.goingOn source (task.itemMessage? item) due).rank ≤ 4 := by
      cases task.itemMessage? item <;> simp [Phase.goingOn, Phase.rank]
    have rank : task.phase.rank = 3 := by rw [streaming]; rfl
    rw [stepsLeft_eq, stepsLeft_eq, held, still]
    simp only [Option.elim_some, Fleet.unreadAt, source.modify_feedAt?, if_true, own, here,
      Option.map_some, Feed.advance, Feed.unread]
    omega
  · exact .proceeds _ (task.release_wanes site) rfl (.inl rfl) (by simp [streaming, Phase.rank])

theorem connect_spends (starting : task.phase = .starting) (site : Site) (session : Session) :
    task.Spends (site, session) (task.connect (site, session)) := by
  have resolved := (site.resolve_evolves task.context?).steady
  unfold connect
  dsimp only
  split
  all_goals
    rename_i answer
    rw [answer] at resolved
    exact .proceeds _ resolved.wanes rfl (.inl rfl) (by simp [starting, Phase.rank])

theorem pin_spends {handle : Handle} (resolved : task.phase = .resolved handle) (site : Site)
    (session : Session) : task.Spends (site, session) (task.pin handle (site, session)) := by
  unfold pin
  dsimp only
  refine .proceeds (.connected handle) (.refl site.fleet) ?_ (.inl rfl)
    (by simp [resolved, Phase.rank])
  split <;> rfl

/-- A new feed has nothing to read yet. -/
theorem subscribe_spends {handle : Handle} (connected : task.phase = .connected handle)
    (site : Site) (session : Session) :
    task.Spends (site, session) (task.subscribe handle (site, session)) := by
  unfold subscribe
  dsimp only
  split
  · exact .proceeds _ (.refl site.fleet) rfl (.inl rfl) (by simp [connected, Phase.rank])
  · rename_i gv _
    have named := (site.pluralOf_evolves handle.client gv task.descriptor.kind
      task.descriptor.plural?).steady
    refine .enters _ (named.wanes.trans (handle.client.watch_wanes _ _ _ _)) rfl ?_
    rw [stepsLeft_eq, stepsLeft_eq]
    simp only [Task.spot?, Phase.spot?, Phase.source?, Option.map_some, Option.elim_some,
      Source.spot, connected, Phase.rank, handle.client.watch_unreadAt]
    omega

theorem readFirst_spends {source : Source} (opened : task.phase = .opened source) (site : Site)
    (session : Session) :
    task.Spends (site, session) (task.readFirst source (site, session)) := by
  have asked := (site.getWith_evolves source.client source.type task.descriptor.space?
    task.descriptor.name).steady
  unfold readFirst read
  dsimp only
  split
  all_goals
    rename_i answer
    rw [answer] at asked
    exact .proceeds _ asked.wanes rfl (.inr (by rw [opened]; rfl)) (by simp [opened, Phase.rank])

/-- A step that need not wait gets something done. -/
theorem step_spends {site : Site} {session : Session} (able : task.canStep site session = true)
    (due : Nat) : task.Spends (site, session) (task.step due (site, session)) := by
  unfold step
  by_cases stopping : task.isStopping session = true
  · rw [if_pos stopping]
    exact .leaves (task.release_wanes site) rfl
  · rw [if_neg stopping]
    cases phase : task.phase with
    | starting => exact connect_spends phase site session
    | resolved handle => exact pin_spends phase site session
    | connected handle => exact subscribe_spends phase site session
    | opened source => exact readFirst_spends phase site session
    | telling source message due? =>
        refine .proceeds (.streaming source (due?.getD due)) (.refl site.fleet)
          (Session.setPhase_tasks _ _ (post_tasks session _ _)) (.inr (by rw [phase]; rfl))
          (by simp [phase, Phase.rank])
    | streaming source next => exact take_spends phase site session
    | stalled source => simp [canStep, stopping, phase] at able
    | ending reason =>
        exact .proceeds (.reporting reason) (.refl site.fleet)
          (Session.setPhase_tasks _ _ (session.deregister_tasks task)) (.inl rfl)
          (by simp [phase, Phase.rank])
    | reporting reason =>
        exact .leaves (.refl site.fleet) (Session.dropTask_tasks _ (post_tasks session _ _))

end Task

/-! ## Steps that a session has left -/

namespace Session

variable {session : Session} {task : Task} {count lower : Task → Nat}

/-- One task enters a phase that counts for less, and no other task counts for more. -/
theorem sum_setPhase_lt {phase : Phase} (present : task ∈ session.tasks)
    (others : ∀ other ∈ session.tasks, lower other ≤ count other)
    (entered : ∀ other ∈ session.tasks, other.generation = task.generation →
      lower { other with phase } ≤ count other)
    (less : lower { task with phase } < count task) :
    ((session.setPhase task.generation phase).tasks.map lower).sum <
      (session.tasks.map count).sum := by
  rw [setPhase, List.map_map]
  refine List.sum_lt_sum _ _ (fun other stored => ?_) ⟨task, present, ?_⟩
  · rw [Function.comp_apply]
    split
    · exact entered other stored ‹_›
    · exact others other stored
  · rwa [Function.comp_apply, if_pos rfl]

/-- A task leaves, and no other task counts for more. -/
theorem sum_dropTask_lt (present : task ∈ session.tasks)
    (others : ∀ other ∈ session.tasks, lower other ≤ count other) (positive : 0 < count task) :
    ((session.dropTask task.generation).tasks.map lower).sum < (session.tasks.map count).sum := by
  have kept : ((session.dropTask task.generation).tasks.map lower).sum =
      (session.tasks.map fun other =>
        if other.generation ≠ task.generation then lower other else 0).sum := by
    rw [List.sum_map_ite]
    simp [dropTask, bne, beq_eq_decide]
  rw [kept]
  refine List.sum_lt_sum _ _ (fun other stored => ?_) ⟨task, present, ?_⟩
  · split
    · exact others other stored
    · exact Nat.zero_le _
  · rwa [if_neg (by simp)]

theorem stepsLeft_eq_sum (session : Session) (site : Site) :
    session.stepsLeft site =
      session.replies.length + (session.tasks.map (·.stepsLeft site)).sum := by
  rw [stepsLeft, foldr_add_eq_sum]

theorem stepsLeft_mono (session : Session) {before after : Site}
    (wanes : before.fleet.Wanes after.fleet) :
    session.stepsLeft after ≤ session.stepsLeft before := by
  rw [stepsLeft_eq_sum, stepsLeft_eq_sum]
  exact Nat.add_le_add_left (List.sum_le_sum fun task _ => task.stepsLeft_mono wanes) _

theorem stepsLeft_reply (able : session.canReply = true) (site : Site) :
    session.reply.stepsLeft site < session.stepsLeft site := by
  obtain ⟨owing, room⟩ := Bool.and_eq_true_iff.mp able
  unfold stepsLeft
  rw [session.reply_tasks]
  refine Nat.add_lt_add_right ?_ _
  unfold reply
  cases replies : session.replies with
  | nil => simp [replies] at owing
  | cons message rest =>
      dsimp only
      rw [if_pos room]
      unfold post
      split
      · exact Nat.lt_succ_self _
      · split <;> exact Nat.lt_succ_self _

/-- A step of a task leaves less to be done. -/
theorem stepsLeft_step {site : Site} (coherent : session.Coherent) (present : task ∈ session.tasks)
    (able : task.canStep site session = true) (due : Nat) :
    (task.step due (site, session)).2.stepsLeft (task.step due (site, session)).1 <
      session.stepsLeft site := by
  have utters := task.step_utters due (site, session)
  have spends := task.step_spends able due
  generalize task.step due (site, session) = after at utters spends
  rw [stepsLeft_eq_sum, stepsLeft_eq_sum, utters.replies nofun]
  refine Nat.add_lt_add_left ?_ _
  cases spends with
  | enters phase wanes tasks less =>
      rw [tasks]
      refine sum_setPhase_lt present (fun other _ => other.stepsLeft_mono wanes)
        (fun other stored same => ?_) less
      rw [coherent.task_unique stored present same]
      exact Nat.le_of_lt less
  | leaves wanes tasks =>
      rw [tasks]
      exact sum_dropTask_lt present (fun other _ => other.stepsLeft_mono wanes)
        (task.stepsLeft_pos site)

end Session

/-! ## Settling -/

namespace Hub

theorem sum_set_lt {count lower : Session → Nat} {sessions : List Session} {id : Nat}
    (inside : id < sessions.length) (others : ∀ session ∈ sessions, lower session ≤ count session)
    {after : Session} (less : lower after < count sessions[id]) :
    ((sessions.set id after).map lower).sum < (sessions.map count).sum := by
  induction sessions generalizing id with
  | nil => cases inside
  | cons first rest ih =>
      have othersRest : ∀ session ∈ rest, lower session ≤ count session :=
        fun session later => others session (List.mem_cons_of_mem _ later)
      cases id with
      | zero => exact Nat.add_lt_add_of_lt_of_le less (List.sum_le_sum othersRest)
      | succ id =>
          exact Nat.add_lt_add_of_le_of_lt (others first List.mem_cons_self)
            (ih (Nat.lt_of_succ_lt_succ inside) othersRest less)

variable {site : Site} {hub : Hub}

theorem stepBound_put {id : Nat} (inside : id < hub.sessions.length) {after : Site}
    {session : Session} (wanes : site.fleet.Wanes after.fleet)
    (less : session.stepsLeft after < (hub.session id).stepsLeft site) :
    stepBound after (hub.put id session) < stepBound site hub := by
  unfold stepBound
  rw [foldr_add_eq_sum, foldr_add_eq_sum]
  refine sum_set_lt inside (fun other _ => other.stepsLeft_mono wanes) ?_
  rwa [Hub.session, List.getElem?_eq_getElem inside] at less

/-- What the peer receives leaves as much to be done. -/
theorem stepBound_receive (site : Site) (hub : Hub) (id count : Nat) :
    stepBound site (hub.put id ((hub.session id).receive count)) = stepBound site hub := by
  unfold stepBound put
  rw [foldr_add_eq_sum, foldr_add_eq_sum]
  refine congrArg List.sum (List.ext_getElem (by simp) fun place _ inside => ?_)
  simp only [List.getElem_map, List.getElem_set]
  split
  · rename_i here
    subst here
    rw [List.length_map] at inside
    rw [Hub.session, List.getElem?_eq_getElem inside]
    rfl
  · rfl

theorem canReply_of_answering? {id : Nat} (owing : hub.answering? = some id) :
    id < hub.sessions.length ∧ (hub.session id).canReply = true := by
  obtain ⟨inside, able, _⟩ := List.findIdx?_eq_some_iff_getElem.mp owing
  rw [Hub.session, List.getElem?_eq_getElem inside]
  exact ⟨inside, able⟩

theorem stepBound_reply {id : Nat} (owing : hub.answering? = some id) (site : Site) :
    stepBound site (hub.put id (hub.session id).reply) < stepBound site hub := by
  obtain ⟨inside, able⟩ := canReply_of_answering? owing
  exact stepBound_put inside (.refl site.fleet) (Session.stepsLeft_reply able site)

theorem stepBound_step (sane : hub.Sane) {id generation : Nat}
    (ready : ready? site hub = some (id, generation)) (now : Nat) :
    stepBound (stepTask now site hub id generation).1 (stepTask now site hub id generation).2 <
      stepBound site hub := by
  obtain ⟨task, present, rfl, able⟩ := mem_of_ready? ready
  rw [stepTask_eq_happen sane present able, happen_step sane present able]
  exact stepBound_put (inside_of_mem present) (Task.step_spends able _).wanes
    (Session.stepsLeft_step (sane.session id).coherent present able _)

theorem stepTask_sane (sane : hub.Sane) {id generation : Nat}
    (ready : ready? site hub = some (id, generation)) (now : Nat) :
    (stepTask now site hub id generation).2.Sane := by
  obtain ⟨task, present, rfl, able⟩ := mem_of_ready? ready
  rw [stepTask_eq_happen sane present able]
  exact sane.happen site id _

/-- With enough steps nobody can go on in the end: each step leaves fewer to be made. -/
theorem run_idles (now fuel : Nat) (site : Site) (hub : Hub) (sane : hub.Sane)
    (enough : stepBound site hub ≤ fuel) :
    (run now fuel site hub).2.answering? = none ∧
      (run now fuel site hub).2.isIdle (run now fuel site hub).1 = true := by
  induction fuel generalizing site hub with
  | zero =>
      have spent {later : Nat} (less : later < stepBound site hub) : False :=
        Nat.not_lt_zero later (Nat.lt_of_lt_of_le less enough)
      refine ⟨Option.eq_none_iff_forall_ne_some.mpr fun id owing =>
        spent (stepBound_reply owing site), Option.isNone_iff_eq_none.mpr ?_⟩
      exact Option.eq_none_iff_forall_ne_some.mpr fun place ready =>
        spent (stepBound_step sane ready now)
  | succ fuel ih =>
      unfold run
      split
      · rename_i _ _ id owing
        exact ih _ _ (sane.happen site id .replies)
          (Nat.le_of_lt_succ (Nat.lt_of_lt_of_le (stepBound_reply owing site) enough))
      · rename_i id generation _ ready
        exact ih _ _ (stepTask_sane sane ready now)
          (Nat.le_of_lt_succ (Nat.lt_of_lt_of_le (stepBound_step sane ready now) enough))
      · exact ⟨‹_›, Option.isNone_iff_eq_none.mpr ‹_›⟩

/-- Whoever goes on leaves less to be done. -/
theorem run_cases (now fuel : Nat) (site : Site) (hub : Hub) (sane : hub.Sane) :
    run now fuel site hub = (site, hub) ∨
      stepBound (run now fuel site hub).1 (run now fuel site hub).2 < stepBound site hub := by
  induction fuel generalizing site hub with
  | zero => exact .inl rfl
  | succ fuel ih =>
      unfold run
      split
      · rename_i id owing
        have less := stepBound_reply owing site
        rcases ih site (hub.put id (hub.session id).reply) (sane.happen site id .replies) with
          same | fewer
        · exact .inr (by rwa [same])
        · exact .inr (fewer.trans less)
      · rename_i id generation _ ready
        have less := stepBound_step sane ready now
        have still := stepTask_sane sane ready now
        generalize stepTask now site hub id generation = next at less still ⊢
        dsimp only
        rcases ih next.1 next.2 still with same | fewer
        · exact .inr (by rwa [same])
        · exact .inr (fewer.trans less)
      · exact .inl rfl

theorem settle_cases (hub : Hub) (sane : hub.Sane) (now : Nat) (site : Site) :
    hub.settle now site = (site, hub) ∨
      stepBound (hub.settle now site).1 (hub.settle now site).2 < stepBound site hub :=
  run_cases now _ site hub sane

/-- When a hub has settled, no session can send what it owes, and every task waits. -/
theorem settle_idles (hub : Hub) (sane : hub.Sane) (now : Nat) (site : Site) :
    (hub.settle now site).2.answering? = none ∧
      (hub.settle now site).2.isIdle (hub.settle now site).1 = true :=
  run_idles now _ site hub sane (Nat.le_refl _)

end Hub
end Watch
end KubeLens
