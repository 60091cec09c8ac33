import KubeLens.Proofs.Watch.Standing

/-!
# What a watch tells in its own turns

Each turn of a task that serves a watch takes the stream further: the first message is to be told
when the object is read, one message when an item of the feed concerns it, the farewell when the
feed has ended.  What is to be told is told in a turn of its own, when there is room.
-/

namespace KubeLens
namespace Watch

theorem Source.modify_feed? (source : Source) (site : Site) (change : Feed → Feed) :
    source.feed? (source.modify site change) = (source.feed? site).map change := by
  unfold Source.feed? Source.modify Client.cluster Fleet.modify Cluster.modifyFeed
  rw [Fleet.cluster_put_self]
  simp

variable {task : Task} {source : Source} {first again : Message → Prop} {dismissed : Prop}
  {feed : Feed} {site : Site} {session : Session}

namespace Task

theorem enter_task? {after : Session} (found : session.task? task.generation = some task)
    (tasks : after.tasks = session.tasks) (phase : Phase) :
    (task.enter after phase).task? task.generation = some { task with phase } := by
  unfold Task.enter
  rw [Session.setPhase_task?_self, Session.task?_of_tasks tasks, found]
  rfl

theorem isStopping_of_cancelled (cancelled : task.isCancelled = true)
    (running : task.phase.isRunning = true) (session : Session) :
    task.isStopping session = true := by
  simp [isStopping, cancelled, running]

theorem not_isStopping (uncancelled : task.isCancelled = false) (online : session.Online) :
    task.isStopping session = false := by
  obtain ⟨alive, _⟩ := online
  simp [isStopping, uncancelled, alive]

/-! ## Turns in which nothing is told -/

theorem step_outbox_of_early (early : task.phase.isEarly = true) (due : Nat) (turn : Turn) :
    (task.step due turn).2.outbox = turn.2.outbox := by
  unfold Task.step
  split
  · rfl
  · cases phase : task.phase with
    | starting =>
        unfold Task.connect
        dsimp only
        split <;> rfl
    | resolved =>
        unfold Task.pin
        dsimp only
        split <;> rfl
    | connected =>
        unfold Task.subscribe
        dsimp only
        split <;> rfl
    | opened =>
        unfold Task.readFirst
        dsimp only
        split <;> rfl
    | _ => simp [phase, Phase.isEarly] at early

theorem tick_outbox (period : Nat) (turn : Turn) :
    (task.tick period turn).2.outbox = turn.2.outbox := by
  unfold Task.tick
  split
  · rfl
  · split
    · unfold Task.readAgain
      dsimp only
      split <;> rfl
    · rfl

/-! ## How a watch gets its feed -/

section

variable (site) (found : session.task? task.generation = some task)
  (going : task.isStopping session = false)

include found going

/-- A task whose context can be connected to has found its connection after its first step. -/
theorem step_connects {handle : Handle} (starting : task.phase = .starting)
    (connects : (site.resolve task.context?).1 = .ok handle) (due : Nat) :
    (task.step due (site, session)).2.task? task.generation =
      some { task with phase := .resolved handle } := by
  unfold Task.step
  rw [if_neg (by simp [going]), starting]
  dsimp only [Task.connect]
  split
  · rename_i error after answer
    rw [answer] at connects
    cases connects
  · rename_i other after answer
    rw [answer] at connects
    obtain rfl := Except.ok.inj connects
    exact task.enter_task? found rfl _

/-- A task that has found its connection goes on with it. -/
theorem step_pins {handle : Handle} (resolved : task.phase = .resolved handle) (due : Nat) :
    (task.step due (site, session)).2.task? task.generation =
      some { task with phase := .connected handle } := by
  unfold Task.step
  rw [if_neg (by simp [going]), resolved]
  dsimp only [Task.pin]
  refine task.enter_task? found ?_ _
  split <;> rfl

/-- A connected task whose `apiVersion` can be read has a feed after its next step, and nothing was
delivered to it yet. -/
theorem step_opens {handle : Handle} {gv : GroupVersion}
    (connected : task.phase = .connected handle)
    (parses : GroupVersion.parseAllowCore task.descriptor.apiVersion = .ok gv) (due : Nat) :
    ∃ source : Source, ∃ feed, source.feed? (task.step due (site, session)).1 = some feed ∧
      feed.taken = 0 ∧ (task.step due (site, session)).2.task? task.generation =
        some { task with phase := .opened source } := by
  unfold Task.step
  rw [if_neg (by simp [going]), connected]
  dsimp only [Task.subscribe]
  rw [parses]
  dsimp only
  generalize site.pluralOf handle.client gv task.descriptor.kind task.descriptor.plural? = named
  obtain ⟨plural, after⟩ := named
  let type := ResourceType.ofGroupVersion gv task.descriptor.kind plural
  let opened := handle.client.watch after.fleet type task.descriptor.space? task.descriptor.name
  exact ⟨⟨handle.client, type, opened.1⟩, _, handle.client.watch_feedAt? after.fleet type
    task.descriptor.space? task.descriptor.name, rfl, task.enter_task? found rfl _⟩

end

/-! ## Turns with a feed -/

section

variable (found : session.task? task.generation = some task)
  (uncancelled : task.isCancelled = false)
  (online : session.Online) (feed? : source.feed? site = some feed)

include found uncancelled online feed?

/-- A task goes on with its feed after something that takes nothing from it. -/
theorem goingOn_stands {own? : Option Spot} {after : Site} {later : Session}
    (touches : site.fleet.Touches own? after.fleet) (foreign : own? ≠ some source.spot)
    {phase : Phase} (entered : later = task.enter session phase)
    (reading : Reading task.descriptor source first again feed (session.saidBy task.generation)
      phase) :
    StandsAt task.generation task.descriptor source first again dismissed (after, later) := by
  obtain ⟨next, here, longer, taken⟩ := touches source.spot feed feed?
  subst entered
  exact ⟨next, here, .running (task.enter_task? found rfl phase) uncancelled online
    (reading.extend longer (taken foreign))⟩

theorem readFirst_stands (untaken : feed.taken = 0)
    (silent : session.saidBy task.generation = [])
    (begins : ∀ message, task.descriptor.Begins source site.fleet message → first message) :
    StandsAt task.generation task.descriptor source first again dismissed
      (task.readFirst source (site, session)) := by
  have touches : site.fleet.Touches none (task.read source site).2.fleet :=
    (task.read_turns source site).touches
  unfold readFirst
  dsimp only
  split
  · rename_i after answer
    rw [answer] at touches
    exact goingOn_stands found uncancelled online feed? touches nofun rfl
      (.stalled (.inl silent))
  · rename_i answer after answered
    have read : (task.read source site).1 = some answer := congrArg Prod.fst answered
    rw [answered] at touches
    refine goingOn_stands found uncancelled online feed? touches nofun rfl
      (.telling (untaken ▸ Nat.zero_le _) ?_)
    rw [untaken, silent]
    exact .first (begins _ (firstMessage_begins read))

theorem readAgain_stands (within : feed.taken ≤ feed.delivered.length)
    (told : task.descriptor.Streams first again (feed.delivered.take feed.taken)
      (session.saidBy task.generation))
    (shows : ∀ message, task.descriptor.Shows source site.fleet message → again message)
    (due : Nat) :
    StandsAt task.generation task.descriptor source first again dismissed
      (task.readAgain source due (site, session)) := by
  have touches : site.fleet.Touches none (task.read source site).2.fleet :=
    (task.read_turns source site).touches
  unfold readAgain
  dsimp only
  split
  · rename_i after answer
    rw [answer] at touches
    exact goingOn_stands found uncancelled online feed? touches nofun rfl
      (.stalled (told.started (List.take_prefix _ _)))
  · rename_i answer after answered
    have read : (task.read source site).1 = some answer := congrArg Prod.fst answered
    rw [answered] at touches
    refine goingOn_stands found uncancelled online feed? touches nofun rfl
      (.goingOn within ?_)
    cases later : task.laterMessage? answer with
    | none => simpa using told
    | some message => exact .again told (shows _ (laterMessage?_shows read later))

/-- The message that waits is told. -/
theorem tell_stands {message : Message} {due : Nat} (within : feed.taken ≤ feed.delivered.length)
    (tells : task.descriptor.Streams first again (feed.delivered.take feed.taken)
      (session.saidBy task.generation ++ [message])) :
    StandsAt task.generation task.descriptor source first again dismissed
      (site, task.enter (task.tell session message) (.streaming source due)) := by
  have utters := session.post_utters (some task.generation) message
  have said : (task.tell session message).saidBy task.generation =
      session.saidBy task.generation ++ [message] :=
    Session.saidBy_post online task.generation message
  rw [← said] at tells
  exact ⟨feed, feed?, .running (task.enter_task? found (post_tasks session _ message) _)
    uncancelled (utters.stays online) (.streaming within tells)⟩

/-- The next item is to be told, or the feed has ended. -/
theorem take_stands {due : Nat} (streaming : task.phase = .streaming source due)
    (told : task.descriptor.Streams first again (feed.delivered.take feed.taken)
      (session.saidBy task.generation))
    (able : hasInput source site = true) :
    StandsAt task.generation task.descriptor source first again dismissed
      (task.take source due (site, session)) := by
  unfold take
  dsimp only
  rw [feed?, Option.bind_some]
  cases next : feed.next? with
  | some item =>
      obtain ⟨inside, _⟩ := List.getElem?_eq_some_iff.mp next
      refine ⟨feed.advance, ?_,
        .running (task.enter_task? found rfl _) uncancelled online (.goingOn inside ?_)⟩
      · rw [source.modify_feed?, feed?]
        rfl
      · have taken : feed.advance.delivered.take feed.advance.taken =
            feed.delivered.take feed.taken ++ [item] := by
          unfold Feed.next? at next
          simp [Feed.advance, List.take_add_one, next]
        rw [taken]
        exact told.item (task.itemMessage?_tells item)
  | none =>
      have ended : feed.isAttached = false := by
        simpa [hasInput, feed?, next, Feed.isFinished] using able
      have all : feed.delivered.take feed.taken = feed.delivered :=
        List.take_of_length_le (List.getElem?_eq_none_iff.mp next)
      rw [all] at told
      refine ⟨feed.close, ?_, .ending (task.enter_task? found rfl _) (.inl rfl) online ended
        told⟩
      unfold release Phase.source?
      rw [streaming]
      dsimp only
      rw [source.modify_feed?, feed?]
      rfl

end

/-! ## Turns after the feed -/

theorem deregister_forgets (sane : session.Sane) (present : task ∈ session.tasks) :
    (session.deregister task).Forgets task.generation := by
  intro key registered
  rw [Session.deregister_watches] at registered
  split at registered
  · rw [Assoc.get?_erase] at registered
    split at registered
    · cases registered
    · rename_i other
      exact other (sane.owner task present key registered).symm
  · rename_i absent
    obtain rfl := sane.owner task present key registered
    exact absent registered

/-! ## The task of a watch -/

/-- After a turn a task is as it was, or in a phase that it may enter. -/
theorem Advances.own {after : Session} {later : Task} (advances : task.Advances site session after)
    (found : session.task? task.generation = some task)
    (chosen : after.task? task.generation = some later) :
    later = task ∨ ∃ phase, task.Leads site phase ∧ later = { task with phase } := by
  cases advances with
  | rests tasks =>
      rw [Session.task?_of_tasks tasks, found] at chosen
      exact .inl (Option.some.inj chosen).symm
  | enters phase leads tasks =>
      rw [Session.task?_of_tasks tasks, session.setPhase_task?_self, found] at chosen
      exact .inr ⟨phase, leads, (Option.some.inj chosen).symm⟩
  | leaves tasks =>
      rw [Session.task?_of_tasks tasks, session.dropTask_task?_self] at chosen
      cases chosen

/-- A task that has read its object has read it. -/
theorem Advances.late {after : Session} {later : Task} (advances : task.Advances site session after)
    (found : session.task? task.generation = some task) (late : task.phase.isEarly = false)
    (chosen : after.task? task.generation = some later) : later.phase.isEarly = false := by
  rcases advances.own found chosen with rfl | ⟨phase, leads, rfl⟩
  · exact late
  · by_contra early
    exact Bool.false_ne_true (late.symm.trans (leads.early (by simpa using early)))

/-- A task that serves a watch goes on with its source, or ends. -/
theorem Leads.serves {phase : Phase} (leads : task.Leads site phase)
    (serves : task.phase.Serves source) : phase.Serves source := by
  cases leads with
  | keeps other held still =>
      obtain rfl := serves.source_unique held
      exact .inl still
  | ending | reporting => exact .inr rfl
  | resolved starting => simp [starting, Phase.Serves, Phase.source?, Phase.isRunning] at serves
  | connected _ resolved => simp [resolved, Phase.Serves, Phase.source?, Phase.isRunning] at serves
  | opened _ connected => simp [connected, Phase.Serves, Phase.source?, Phase.isRunning] at serves

/-- A turn of a task that serves a watch leaves it with its object and its source. -/
theorem Advances.serves {after : Session} {later : Task}
    (advances : task.Advances site session after)
    (found : session.task? task.generation = some task) (serves : task.phase.Serves source)
    (chosen : after.task? task.generation = some later) :
    later.descriptor = task.descriptor ∧ later.phase.Serves source := by
  rcases advances.own found chosen with rfl | ⟨phase, leads, rfl⟩
  · exact ⟨rfl, serves⟩
  · exact ⟨rfl, leads.serves serves⟩

end Task

/-! ## Any turn -/

variable {generation : Nat} {descriptor : Descriptor} {before after : Turn}

namespace StandsAt

/-- A watch that nobody listens to says nothing. -/
theorem offline (dismisses : dismissed) (feed? : source.feed? before.1 = some feed)
    (told : descriptor.Started first again feed.delivered (before.2.saidBy task.generation))
    (gone : ¬before.2.Online) (found : before.2.task? task.generation = some task)
    (late : before.2.saidBy task.generation ≠ [] →
      ∀ other, before.2.task? task.generation = some other → other.phase.isEarly = false)
    (advances : task.Advances before.1 before.2 after.2)
    (utters : Session.Utters (some task.generation) before.2 after.2)
    (turns : before.1.fleet.Turns task.spot? after.1.fleet) :
    StandsAt task.generation descriptor source first again dismissed after := by
  obtain ⟨later, here, longer, _⟩ := turns.touches source.spot feed feed?
  have same := utters.saidBy_offline gone task.generation
  rw [← same] at told late
  exact ⟨later, here, .dismissed dismisses (told.extend longer.delivered)
    (.inl fun online => gone (utters.online online))
    fun spoken _ chosen => advances.late found (late spoken task found) chosen⟩

/-- A watch that is about to stop stops. -/
theorem stop (dismisses : dismissed) (feed? : source.feed? before.1 = some feed)
    (told : descriptor.Started first again feed.delivered (before.2.saidBy task.generation)) :
    StandsAt task.generation descriptor source first again dismissed (task.stop before) := by
  obtain ⟨later, here, longer, _⟩ := (task.release_turns before.1).touches source.spot feed feed?
  have gone (other : Task) : (task.stop before).2.task? task.generation ≠ some other := by
    rw [Task.stop, before.2.dropTask_task?_self]
    exact (Option.some_ne_none other).symm
  exact ⟨later, here, .dismissed dismisses (told.extend longer.delivered)
    (.inr fun other chosen => absurd chosen (gone other))
    fun _ other chosen => absurd chosen (gone other)⟩

/-- A step of its own task takes the stream further. -/
theorem step (sane : session.Sane) (found : session.task? task.generation = some task)
    (stands : StandsAt task.generation task.descriptor source first again dismissed
      (site, session))
    (able : task.canStep site session = true)
    (begins : task.phase.isEarly = true →
      ∀ message, task.descriptor.Begins source site.fleet message → first message) (due : Nat) :
    StandsAt task.generation task.descriptor source first again dismissed
      (task.step due (site, session)) := by
  obtain ⟨feed, feed?, standing⟩ := stands
  have turns := task.step_turns due (site, session)
  have utters := task.step_utters due (site, session)
  have advances := task.step_advances due site session
  cases standing with
  | running known uncancelled online reading =>
      obtain rfl := Option.some.inj (found.symm.trans known)
      have going := Task.not_isStopping uncancelled online
      unfold Task.step
      rw [if_neg (by simp [going])]
      cases phase : task.phase with
      | opened _ =>
          rw [phase] at reading
          cases reading with
          | opened untaken silent =>
              exact Task.readFirst_stands found uncancelled online feed? untaken silent
                (begins (by rw [phase]; rfl))
      | telling _ _ _ =>
          rw [phase] at reading
          cases reading with
          | telling within tells =>
              exact Task.tell_stands found uncancelled online feed? within tells
      | streaming _ _ =>
          rw [phase] at reading
          cases reading with
          | streaming within told =>
              refine Task.take_stands found uncancelled online feed? phase told ?_
              simpa [Task.canStep, going, phase] using able
      | stalled _ => exact ⟨feed, feed?, .running found uncancelled online reading⟩
      | _ =>
          rw [phase] at reading
          cases reading
  | ending known phase online detached told =>
      obtain rfl := Option.some.inj (found.symm.trans known)
      have going : task.isStopping session = false := by
        rcases phase with ending | ⟨reporting, _⟩ <;> simp [Task.isStopping, Phase.isRunning, *]
      unfold Task.step
      rw [if_neg (by simp [going])]
      rcases phase with ending | ⟨reporting, forgets⟩
      · have silent : Session.Utters none session (session.deregister task) :=
          task.deregister_utters session
        obtain ⟨present, _⟩ := Session.task?_eq_some found
        rw [ending]
        -- Taking the key off the list tells nothing.
        rw [← silent.saidBy_of_ne (Option.some_ne_none _).symm] at told
        exact ⟨feed, feed?, .ending (task.enter_task? found (session.deregister_tasks task) _)
          (.inr ⟨rfl, Task.deregister_forgets sane present⟩) (silent.stays online) detached told⟩
      · have retains := Task.post_retains session (some task.generation) task.descriptor.farewell
        rw [reporting]
        exact ⟨feed, feed?, .finished ⟨detached,
          ⟨_, told, Session.saidBy_post online task.generation _⟩, Session.dropTask_task?_self _ _,
          fun key registered => forgets key (retains.watches ▸ registered)⟩⟩
  | finished finished => exact absurd (found.symm.trans finished.gone) (Option.some_ne_none _)
  | dismissed dismisses told quiet late =>
      rcases quiet with gone | stopping
      · exact offline dismisses feed? told gone found late advances utters turns
      · obtain ⟨cancelled, running⟩ := stopping task found
        unfold Task.step
        rw [if_pos (Task.isStopping_of_cancelled cancelled running session)]
        exact stop dismisses feed? told

/-- A later read of its own task is to be told. -/
theorem tick (found : session.task? task.generation = some task)
    (stands : StandsAt task.generation task.descriptor source first again dismissed
      (site, session))
    (shows : ∀ message, task.descriptor.Shows source site.fleet message → again message)
    (period : Nat) :
    StandsAt task.generation task.descriptor source first again dismissed
      (task.tick period (site, session)) := by
  obtain ⟨feed, feed?, standing⟩ := stands
  have turns := task.tick_turns period (site, session)
  have utters := task.tick_utters period (site, session)
  have advances := task.tick_advances period site session
  cases standing with
  | running known uncancelled online reading =>
      obtain rfl := Option.some.inj (found.symm.trans known)
      have going := Task.not_isStopping uncancelled online
      unfold Task.tick
      rw [if_neg (by simp [going])]
      split
      · rename_i streaming
        rw [streaming] at reading
        cases reading with
        | streaming within told =>
            exact Task.readAgain_stands found uncancelled online feed? within told shows _
      · exact ⟨feed, feed?, .running found uncancelled online reading⟩
  | ending known phase online detached told =>
      obtain rfl := Option.some.inj (found.symm.trans known)
      have rests : task.tick period (site, session) = (site, session) := by
        rcases phase with ending | ⟨reporting, _⟩ <;>
          simp [Task.tick, Task.isStopping, Phase.isRunning, *]
      rw [rests]
      exact ⟨feed, feed?, .ending found phase online detached told⟩
  | finished finished => exact absurd (found.symm.trans finished.gone) (Option.some_ne_none _)
  | dismissed dismisses told quiet late =>
      rcases quiet with gone | stopping
      · exact offline dismisses feed? told gone found late advances utters turns
      · obtain ⟨cancelled, running⟩ := stopping task found
        unfold Task.tick
        rw [if_pos (Task.isStopping_of_cancelled cancelled running session)]
        exact stop dismisses feed? told

end StandsAt

namespace Stands

theorem step (sane : before.2.Sane)
    (stands : Stands generation descriptor source first again dismissed before)
    (found : before.2.task? generation = some task)
    (able : task.canStep before.1 before.2 = true)
    (begins : task.phase.isEarly = true →
      ∀ message, descriptor.Begins source before.1.fleet message → first message) (due : Nat) :
    Stands generation descriptor source first again dismissed (task.step due before) := by
  obtain ⟨_, rfl⟩ := Session.task?_eq_some found
  obtain ⟨rfl, serves⟩ := stands.own task found
  exact ⟨(task.step_change due before).next ▸ stands.used,
    fun later chosen => (task.step_advances due before.1 before.2).serves found serves chosen,
    stands.standing.step sane found able begins due⟩

theorem tick (stands : Stands generation descriptor source first again dismissed before)
    (found : before.2.task? generation = some task)
    (shows : ∀ message, descriptor.Shows source before.1.fleet message → again message)
    (period : Nat) :
    Stands generation descriptor source first again dismissed (task.tick period before) := by
  obtain ⟨_, rfl⟩ := Session.task?_eq_some found
  obtain ⟨rfl, serves⟩ := stands.own task found
  exact ⟨(task.tick_change period before).next ▸ stands.used,
    fun later chosen => (task.tick_advances period before.1 before.2).serves found serves chosen,
    stands.standing.tick found shows period⟩

end Stands
end Watch
end KubeLens
