import KubeLens.Proofs.Watch.Effects

/-!
# The course of a watch

A watch that was started finds its connection, goes on with it, and gets its feed, unless it is
dismissed on the way.  From then on it stands where its own turns took it, whatever the other
sessions, the other tasks and the clusters do in between.
-/

namespace KubeLens
namespace Watch

variable {generation : Nat} {descriptor : Descriptor} {context? : Option String} {source : Source}
  {first again : Message → Prop} {dismissed finds : Prop} {acts : Happening → Prop}
  {before after : Turn}

/-! ## With a feed -/

namespace Stands

/-- Whatever happens to a watch that has a feed, it stands. -/
theorem effect (sane : before.2.Sane)
    (stands : Stands generation descriptor source first again dismissed before)
    (effect : Effect generation dismissed acts before after)
    (begins : ¬before.2.HasRead generation →
      ∀ message, descriptor.Begins source before.1.fleet message → first message)
    (shows : ∀ period, acts (.tick generation period) →
      ∀ message, descriptor.Shows source before.1.fleet message → again message) :
    Stands generation descriptor source first again dismissed after := by
  cases effect with
  | spares spares touches foreign =>
      obtain ⟨used, own, feed, feed?, standing⟩ := stands
      obtain ⟨later, here, longer, taken⟩ := touches source.spot feed feed?
      refine ⟨Nat.lt_of_lt_of_le used spares.next, fun task chosen => ?_, later, here,
        standing.spare spares longer fun task found reads => taken ?_⟩
      · obtain ⟨cancelled, tasks, _⟩ := spares.task
        rw [tasks] at chosen
        obtain ⟨earlier, found, rfl⟩ := Option.map_eq_some_iff.mp chosen
        exact own earlier found
      · refine foreign task source.spot found ?_
        unfold Task.spot? Phase.spot?
        rw [reads]
        rfl
  | unused unused => exact absurd stands.used (Nat.not_lt.mpr unused)
  | @steps task found able due =>
      refine stands.step sane found able (fun early => begins fun read => ?_) due
      exact Bool.false_ne_true ((read.late task found).symm.trans early)
  | ticks found period permitted => exact stands.tick found (shows period permitted) period

theorem mono {begins shows : Message → Prop} {leaves : Prop}
    (stands : Stands generation descriptor source first again dismissed before)
    (firsts : before.2.HasRead generation → ∀ message, first message → begins message)
    (agains : ∀ message, again message → shows message) (dismisses : dismissed → leaves) :
    Stands generation descriptor source begins shows leaves before := by
  obtain ⟨used, own, feed, feed?, standing⟩ := stands
  exact ⟨used, own, feed, feed?, standing.mono used firsts agains dismisses⟩

end Stands

/-! ## Before there is a feed -/

/-- A watch on the way to its feed.  `finds` is known of the surroundings while the watch has yet to
look for its connection. -/
inductive Rising (generation : Nat) (descriptor : Descriptor) (context? : Option String)
    (dismissed finds : Prop) (session : Session) : Prop
  | goes {task : Task} (found : session.task? generation = some task)
      (serves : task.descriptor = descriptor) (bound : task.context? = context?)
      (free : task.phase.source? = none) (early : task.phase.isEarly = true)
      (uncancelled : task.isCancelled = false) (online : session.Online)
      (silent : session.saidBy generation = []) (hopes : task.phase = .starting → finds) :
      Rising generation descriptor context? dismissed finds session
  /-- Nobody listens, or the task is about to stop. -/
  | dismissed (dismisses : dismissed) (used : generation < session.nextGeneration)
      (silent : session.saidBy generation = [])
      (quiet : ¬session.Online ∨ ∀ task, session.task? generation = some task →
        task.isCancelled = true ∧ task.phase.isRunning = true) :
      Rising generation descriptor context? dismissed finds session

/-- A watch that was started: it is on the way to its feed, or stands.  What the stream may tell
depends on the source. -/
inductive Course (generation : Nat) (descriptor : Descriptor) (context? : Option String)
    (first again : Source → Message → Prop) (dismissed finds : Prop) (turn : Turn) : Prop
  | rising (rising : Rising generation descriptor context? dismissed finds turn.2) :
      Course generation descriptor context? first again dismissed finds turn
  | stands (source : Source)
      (stands : Stands generation descriptor source (first source) (again source) dismissed turn) :
      Course generation descriptor context? first again dismissed finds turn

theorem Phase.isRunning_of_early {phase : Phase} (early : phase.isEarly = true) :
    phase.isRunning = true := by
  cases phase with
  | ending | reporting => cases early
  | _ => rfl

namespace Rising

variable {session : Session}

theorem used (rising : Rising generation descriptor context? dismissed finds session)
    (coherent : session.Coherent) : generation < session.nextGeneration := by
  cases rising with
  | goes found =>
      obtain ⟨present, rfl⟩ := Session.task?_eq_some found
      exact coherent.role_below _ (List.mem_map_of_mem present)
  | dismissed _ used => exact used

theorem silent (rising : Rising generation descriptor context? dismissed finds session) :
    session.saidBy generation = [] := by
  cases rising <;> assumption

/-- A watch on its way need not wait. -/
theorem able (rising : Rising generation descriptor context? dismissed finds session)
    (kept : ¬dismissed) (site : Site) :
    ∃ task, session.task? generation = some task ∧ task.canStep site session = true := by
  cases rising with
  | @goes task found _ _ free early =>
      refine ⟨task, found, Bool.or_eq_true_iff.mpr (.inr ?_)⟩
      cases phase : task.phase with
      | starting | resolved | connected => rfl
      | opened source => simp [phase, Phase.source?] at free
      | _ => simp [phase, Phase.isEarly] at early
  | dismissed dismisses => exact absurd dismisses kept

/-- What others do leaves a watch on its way, unless they dismiss it. -/
theorem spare {later : Session} (used : generation < session.nextGeneration)
    (rising : Rising generation descriptor context? dismissed finds session)
    (spares : Session.Spares generation dismissed session later) :
    Rising generation descriptor context? dismissed finds later := by
  have still := spares.said.trans rising.silent
  have next := Nat.lt_of_lt_of_le used spares.next
  obtain ⟨cancelled, tasks, cancels⟩ := spares.task
  cases rising with
  | @goes task found serves bound free early uncancelled online silent hopes =>
      rw [found, Option.map_some] at tasks
      by_cases heard : later.Online
      · cases cancelled with
        | true =>
            refine .dismissed (cancels rfl) next still (.inr fun other chosen => ?_)
            obtain rfl := Option.some.inj (tasks.symm.trans chosen)
            exact ⟨Bool.or_true _, Phase.isRunning_of_early early⟩
        | false =>
            rw [Task.cancelIf_false] at tasks
            exact .goes tasks serves bound free early uncancelled heard still hopes
      · exact .dismissed (spares.offline online heard) next still (.inl heard)
  | dismissed dismisses _ _ quiet =>
      refine .dismissed dismisses next still ?_
      rcases quiet with offline | stopping
      · exact .inl fun online => offline (spares.online online)
      · refine .inr fun task chosen => ?_
        rw [tasks] at chosen
        obtain ⟨earlier, found, rfl⟩ := Option.map_eq_some_iff.mp chosen
        obtain ⟨flagged, running⟩ := stopping earlier found
        exact ⟨by simp [Task.cancelIf, flagged], running⟩

/-- More may be known of the surroundings and of the dismissal of a watch. -/
theorem mono {leaves hopes : Prop}
    (rising : Rising generation descriptor context? dismissed finds session)
    (dismisses : dismissed → leaves)
    (hope : ∀ task, session.task? generation = some task → task.phase = .starting → finds →
      hopes) : Rising generation descriptor context? leaves hopes session := by
  cases rising with
  | goes found serves bound free early uncancelled online silent hopes =>
      exact .goes found serves bound free early uncancelled online silent
        fun starting => hope _ found starting (hopes starting)
  | dismissed left used silent quiet => exact .dismissed (dismisses left) used silent quiet

/-- A watch that was dismissed says nothing in its own turns either. -/
theorem dismiss {task : Task} (dismisses : dismissed)
    (used : task.generation < after.2.nextGeneration)
    (silent : before.2.saidBy task.generation = []) (gone : ¬before.2.Online)
    (utters : Session.Utters (some task.generation) before.2 after.2) :
    Rising task.generation descriptor context? dismissed finds after.2 :=
  .dismissed dismisses used ((utters.saidBy_offline gone _).trans silent)
    (.inl fun online => gone (utters.online online))

theorem stop {task : Task} (dismisses : dismissed)
    (used : task.generation < before.2.nextGeneration)
    (silent : before.2.saidBy task.generation = []) :
    Rising task.generation descriptor context? dismissed finds (task.stop before).2 := by
  refine .dismissed dismisses used silent (.inr fun other chosen => ?_)
  rw [Task.stop, before.2.dropTask_task?_self] at chosen
  cases chosen

section

variable {firsts agains : Source → Message → Prop} {task : Task} {site : Site} {gv : GroupVersion}

/-- A step brings a watch nearer to its feed, when its connection can be found and its `apiVersion`
can be read. -/
theorem goes_step (used : task.generation < session.nextGeneration)
    (found : session.task? task.generation = some task) (bound : task.context? = context?)
    (free : task.phase.source? = none) (early : task.phase.isEarly = true)
    (uncancelled : task.isCancelled = false) (online : session.Online)
    (silent : session.saidBy task.generation = [])
    (parses : GroupVersion.parseAllowCore task.descriptor.apiVersion = .ok gv)
    (connects : task.phase = .starting → ∃ handle, (site.resolve context?).1 = .ok handle)
    (due : Nat) :
    Course task.generation task.descriptor context? firsts agains dismissed finds
      (task.step due (site, session)) := by
  have going := Task.not_isStopping uncancelled online
  have still : (task.step due (site, session)).2.saidBy task.generation = [] := by
    unfold Session.saidBy at silent ⊢
    rwa [task.step_outbox_of_early early]
  have heard := (task.step_utters due (site, session)).stays online
  cases phase : task.phase with
  | starting =>
      obtain ⟨handle, connected⟩ := connects phase
      rw [← bound] at connected
      have entered := task.step_connects site found going phase connected due
      exact .rising (.goes entered rfl bound rfl rfl uncancelled heard still nofun)
  | resolved handle =>
      have entered := task.step_pins site found going phase due
      exact .rising (.goes entered rfl bound rfl rfl uncancelled heard still nofun)
  | connected handle =>
      obtain ⟨source, feed, feed?, untaken, entered⟩ :=
        task.step_opens site found going phase parses due
      refine .stands source ⟨(task.step_change due (site, session)).next ▸ used,
        fun other chosen => ?_, feed, feed?, .running entered uncancelled heard
          (.opened untaken still)⟩
      obtain rfl := Option.some.inj (entered.symm.trans chosen)
      exact ⟨rfl, .inl rfl⟩
  | opened source =>
      rw [phase] at free
      cases free
  | _ => simp [phase, Phase.isEarly] at early

theorem step (coherent : before.2.Coherent)
    (rising : Rising generation descriptor context? dismissed finds before.2)
    (found : before.2.task? generation = some task)
    (parses : GroupVersion.parseAllowCore descriptor.apiVersion = .ok gv)
    (connects : finds → ∃ handle, (before.1.resolve context?).1 = .ok handle) (due : Nat) :
    Course generation descriptor context? firsts agains dismissed finds (task.step due before) := by
  have used := rising.used coherent
  obtain ⟨_, rfl⟩ := Session.task?_eq_some found
  cases rising with
  | goes known serves bound free early uncancelled online silent hopes =>
      obtain rfl := Option.some.inj (found.symm.trans known)
      subst serves
      exact goes_step used found bound free early uncancelled online silent parses
        (fun starting => connects (hopes starting)) due
  | dismissed dismisses used silent quiet =>
      have next := (task.step_change due before).next
      refine .rising ?_
      rcases quiet with gone | stopping
      · exact dismiss dismisses (next ▸ used) silent gone (task.step_utters due before)
      · obtain ⟨cancelled, running⟩ := stopping task found
        unfold Task.step
        rw [if_pos (Task.isStopping_of_cancelled cancelled running before.2)]
        exact stop dismisses used silent

/-- A task on its way to its feed waits for no time. -/
theorem tick (rising : Rising generation descriptor context? dismissed finds before.2)
    (found : before.2.task? generation = some task) (period : Nat) :
    Rising generation descriptor context? dismissed finds (task.tick period before).2 := by
  obtain ⟨_, rfl⟩ := Session.task?_eq_some found
  cases rising with
  | goes known serves bound free early uncancelled online silent hopes =>
      obtain rfl := Option.some.inj (found.symm.trans known)
      have rests : task.tick period before = before := by
        unfold Task.tick
        rw [if_neg (by simp [Task.not_isStopping uncancelled online])]
        split
        · rename_i streaming
          simp [streaming, Phase.isEarly] at early
        · rfl
      rw [rests]
      exact .goes found serves bound free early uncancelled online silent hopes
  | dismissed dismisses used silent quiet =>
      have next := (task.tick_change period before).next
      rcases quiet with gone | stopping
      · exact dismiss dismisses (next ▸ used) silent gone (task.tick_utters period before)
      · obtain ⟨cancelled, running⟩ := stopping task found
        unfold Task.tick
        rw [if_pos (Task.isStopping_of_cancelled cancelled running before.2)]
        exact stop dismisses used silent

end

end Rising

/-! ## On the way and afterwards -/

namespace Course

variable {firsts agains : Source → Message → Prop} {gv : GroupVersion}

/-- A watch has told nothing yet, since it is on the way to its feed or was dismissed, or it has
told a stream. -/
theorem told
    (course : Course generation descriptor context? firsts agains dismissed finds before) :
    before.2.saidBy generation = [] ∧ (dismissed ∨ ∃ task,
        before.2.task? generation = some task ∧ task.phase.source? = none ∧
        task.phase.isRunning = true) ∨
      ∃ source feed, source.feed? before.1 = some feed ∧
        (descriptor.Started (firsts source) (agains source) feed.delivered
            (before.2.saidBy generation) ∨
          Finished generation descriptor (firsts source) (agains source) feed before.2) := by
  cases course with
  | rising rising =>
      refine .inl ⟨rising.silent, ?_⟩
      cases rising with
      | goes found _ _ free early =>
          exact .inr ⟨_, found, free, Phase.isRunning_of_early early⟩
      | dismissed dismisses => exact .inl dismisses
  | stands source stands =>
      obtain ⟨_, _, feed, feed?, standing⟩ := stands
      exact .inr ⟨source, feed, feed?, standing.told⟩

/-- When nothing is left to do and there is room, a watch that was not dismissed has its feed and
has told everything, unless it waits for an answer that never comes. -/
theorem settled (coherent : before.2.Coherent)
    (course : Course generation descriptor context? firsts agains dismissed finds before)
    (kept : ¬dismissed) (room : before.2.accepts = true)
    (waits : ∀ task, before.2.task? generation = some task →
      task.canStep before.1 before.2 = false) :
    ∃ source feed, source.feed? before.1 = some feed ∧
      (Current generation descriptor (firsts source) (agains source) feed before.2 ∨
        Finished generation descriptor (firsts source) (agains source) feed before.2 ∨
        ∃ task, before.2.task? generation = some task ∧ task.phase = .stalled source) := by
  cases course with
  | rising rising =>
      obtain ⟨task, found, able⟩ := rising.able kept before.1
      exact absurd (able.symm.trans (waits task found)) nofun
  | stands source stands =>
      obtain ⟨_, own, feed, feed?, standing⟩ := stands
      exact ⟨source, feed, feed?, standing.settled coherent feed?
        (fun task chosen => (own task chosen).1) kept room waits⟩

theorem keyed (course : Course generation descriptor context? firsts agains dismissed finds before)
    (task : Task) (found : before.2.task? generation = some task) :
    dismissed ∨ task.key = descriptor.key := by
  cases course with
  | rising rising =>
      cases rising with
      | goes known serves =>
          obtain rfl := Option.some.inj (found.symm.trans known)
          exact .inr (congrArg Descriptor.key serves)
      | dismissed dismisses => exact .inl dismisses
  | stands source stands => exact .inr (congrArg Descriptor.key (stands.own task found).1)

/-- Whatever happens to a watch, its course goes on. -/
theorem effect (sane : before.2.Sane)
    (course : Course generation descriptor context? firsts agains dismissed finds before)
    (effect : Effect generation dismissed acts before after)
    (parses : GroupVersion.parseAllowCore descriptor.apiVersion = .ok gv)
    (connects : finds → ∀ due, acts (.step generation due) →
      ∃ handle, (before.1.resolve context?).1 = .ok handle)
    (begins : ¬before.2.HasRead generation → ∀ source message,
      descriptor.Begins source before.1.fleet message → firsts source message)
    (shows : ∀ period, acts (.tick generation period) → ∀ source message,
      descriptor.Shows source before.1.fleet message → agains source message) :
    Course generation descriptor context? firsts agains dismissed finds after := by
  cases course with
  | stands source stands =>
      exact .stands source (stands.effect sane effect (fun unread => begins unread source)
        fun period permitted => shows period permitted source)
  | rising rising =>
      have used := rising.used sane.coherent
      cases effect with
      | spares spares _ _ => exact .rising (rising.spare used spares)
      | unused unused => exact absurd used (Nat.not_lt.mpr unused)
      | steps found _ due permitted =>
          exact rising.step sane.coherent found parses
            (fun known => connects known due permitted) due
      | ticks found period _ => exact .rising (rising.tick found period)

theorem mono {begins shows : Source → Message → Prop} {leaves hopes : Prop}
    (course : Course generation descriptor context? firsts agains dismissed finds before)
    (first : before.2.HasRead generation → ∀ source message,
      firsts source message → begins source message)
    (again : ∀ source message, agains source message → shows source message)
    (dismisses : dismissed → leaves)
    (hope : ∀ task, before.2.task? generation = some task → task.phase = .starting → finds →
      hopes) : Course generation descriptor context? begins shows leaves hopes before := by
  cases course with
  | rising rising => exact .rising (rising.mono dismisses hope)
  | stands source stands =>
      exact .stands source
        (stands.mono (fun read => first read source) (again source) dismisses)

end Course

/-! ## Along the moves of a hub -/

theorem Source.Hangs.of_sameStores {before after : Fleet} (hangs : source.Hangs after)
    (same : before.SameStores after) : source.Hangs before := by
  obtain ⟨_, _, cluster⟩ := same source.client.context
  unfold Source.Hangs Client.cluster at hangs ⊢
  rwa [cluster] at hangs

namespace Hub

variable {permits : Nat → Happening → Prop} {id : Nat} {start final : Site × Hub}

/-- In a move a task comes to wait in vain only for a cluster that does not answer. -/
theorem Move.waitsOn {hung : Source → Prop} (move : Move permits start final)
    (hangs : ∀ source : Source, source.Hangs start.1.fleet → hung source)
    (waits : start.2.WaitsOn hung) : final.2.WaitsOn hung := by
  cases move with
  | serves => exact waits
  | happens site hub place happening =>
      by_cases inside : place < hub.sessions.length
      · unfold Hub.happen
        have deed := happening.deed (site, hub.session place)
        generalize happening.turn (site, hub.session place) = turn at deed ⊢
        cases deed with
        | asks => exact waits.speak inside (Session.handle_speaks _ _ _)
        | owes => exact waits.speak inside (Session.owe_speaks _ _)
        | replies => exact waits.speak inside (Session.reply_speaks _)
        | receives => exact waits.speak inside (Session.receive_speaks _ _)
        | hangsUp => exact waits.speak inside (Session.hangUp_speaks _)
        | closes => exact waits.speak inside (Session.close_speaks _)
        | steps task _ _ due => exact waits.turn inside (task.step_change due _) hangs
        | ticks task _ period => exact waits.turn inside (task.tick_change period _) hangs
        | rests =>
            dsimp only
            rwa [put_session]
      · rw [happen_outside inside]
        exact waits
  | opens _ _ context? => exact waits.openSession context?
  | cancels => exact waits

/-- A hub that came from another one, as far as one watch is concerned. -/
structure Follows (id generation : Nat) (start final : Site × Hub) : Prop where
  sane : final.2.Sane
  booked : Booked final.1 final.2
  stores : start.1.fleet.SameStores final.1.fleet
  read : (start.2.session id).HasRead generation → (final.2.session id).HasRead generation

theorem Follows.refl (sane : start.2.Sane) (booked : Booked start.1 start.2) :
    Follows id generation start start :=
  ⟨sane, booked, .refl _, fun read => read⟩

theorem Follows.move {middle : Site × Hub} (follows : Follows id generation start middle)
    (move : Move permits middle final)
    (effect : Effect generation dismissed acts (middle.1, middle.2.session id)
      (final.1, final.2.session id)) : Follows id generation start final :=
  ⟨move.sane follows.sane, Booked.law.move move follows.booked,
    follows.stores.trans move.sameStores, fun read => effect.hasRead (follows.read read)⟩

/-- The course of a watch goes on through every series of moves. -/
theorem Moves.course {firsts agains : Source → Message → Prop} {gv : GroupVersion}
    (moves : Moves permits start final) (sane : start.2.Sane) (booked : Booked start.1 start.2)
    (course : Course generation descriptor context? firsts agains dismissed finds
      (start.1, start.2.session id))
    (parses : GroupVersion.parseAllowCore descriptor.apiVersion = .ok gv)
    (connects : finds → start.1.Connects context?)
    (dismisses : ∀ happening, permits id happening → happening.Dismisses descriptor.key →
      dismissed)
    (begins : ¬(start.2.session id).HasRead generation → ∀ source message,
      descriptor.Begins source start.1.fleet message → firsts source message)
    (shows : ∀ period, permits id (.tick generation period) → ∀ source message,
      descriptor.Shows source start.1.fleet message → agains source message) :
    Follows id generation start final ∧
      Course generation descriptor context? firsts agains dismissed finds
        (final.1, final.2.session id) := by
  -- Clusters store the same throughout the moves, so that a read in any of them shows what a read
  -- before the first one would have shown.
  induction moves with
  | refl => exact ⟨.refl sane booked, course⟩
  | @tail middle final earlier move ih =>
      obtain ⟨follows, course⟩ := ih
      have effect : Effect generation dismissed (permits id)
          (middle.1, middle.2.session id) (final.1, final.2.session id) :=
        move.effect follows.sane follows.booked descriptor.key course.keyed dismisses
      refine ⟨follows.move move effect,
        course.effect (follows.sane.session id) effect parses ?_ ?_ ?_⟩
      · exact fun known due permitted => connects known _ (Moves.attempts earlier permitted)
      · exact fun unread source message begun =>
          begins (unread ∘ follows.read) source message (begun.of_sameStores follows.stores)
      · exact fun period permitted source message shown =>
          shows period permitted source message (shown.of_sameStores follows.stores)

/-- In a series of moves tasks come to wait in vain only for clusters that do not answer, and those
did not answer before the first move either. -/
theorem Moves.waitsOn {hung : Source → Prop} (moves : Moves permits start final)
    (hangs : ∀ source : Source, source.Hangs start.1.fleet → hung source)
    (waits : start.2.WaitsOn hung) :
    start.1.fleet.SameStores final.1.fleet ∧ final.2.WaitsOn hung := by
  induction moves with
  | refl => exact ⟨.refl _, waits⟩
  | @tail middle final _ move ih =>
      obtain ⟨same, waits⟩ := ih
      exact ⟨same.trans move.sameStores,
        move.waitsOn (fun source stalled => hangs source (stalled.of_sameStores same)) waits⟩

/-- Watches say nothing before they have read their objects. -/
theorem Moves.silent (moves : Moves permits start final) (sane : start.2.Sane)
    (booked : Booked start.1 start.2)
    (silent : ¬(start.2.session id).HasRead generation →
      (start.2.session id).saidBy generation = []) :
    Follows id generation start final ∧
      (¬(final.2.session id).HasRead generation →
        (final.2.session id).saidBy generation = []) := by
  induction moves with
  | refl => exact ⟨.refl sane booked, silent⟩
  | @tail middle final _ move ih =>
      obtain ⟨follows, silent⟩ := ih
      have effect : Effect generation True (permits id)
          (middle.1, middle.2.session id) (final.1, final.2.session id) :=
        move.effect follows.sane follows.booked "" (fun _ _ => .inl trivial) fun _ _ _ => trivial
      exact ⟨follows.move move effect,
        effect.silent (follows.sane.session id).coherent silent⟩

end Hub
end Watch
end KubeLens
