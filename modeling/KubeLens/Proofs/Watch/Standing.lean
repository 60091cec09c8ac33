import KubeLens.Proofs.Watch.Bystanders
import KubeLens.Proofs.Watch.Phases
import KubeLens.Proofs.Watch.Served
import KubeLens.Proofs.Watch.Stream

/-!
# Where a watch stands

A watch whose feed is open has told what it has taken from the feed so far, but for a message that
it could not send yet.  When the feed has ended it has told everything, takes its key off the list,
and says farewell.  A watch that was dismissed says nothing more.
-/

namespace KubeLens
namespace Watch

/-! ## The states of a watch -/

/-- Whether a generation is no longer registered. -/
def Session.Forgets (session : Session) (generation : Nat) : Prop :=
  ∀ key, session.watches.get? key ≠ some generation

theorem Phase.isRunning_of_source? {phase : Phase} {source : Source}
    (started : phase.source? = some source) : phase.isRunning = true := by
  cases phase with
  | opened | telling | streaming | stalled => rfl
  | _ => cases started

theorem Phase.isEarly_of_ended {phase : Phase} (ended : phase.isRunning = false) :
    phase.isEarly = false := by
  cases phase with
  | ending | reporting => rfl
  | _ => cases ended

theorem Phase.ne_stalled_of_ended {phase : Phase} (ended : phase.isRunning = false)
    (source : Source) : phase ≠ .stalled source := by
  rintro rfl
  cases ended

/-- Whether a watch was started, and has read its object for the first time or never will. -/
structure Session.HasRead (session : Session) (generation : Nat) : Prop where
  used : generation < session.nextGeneration
  late : ∀ task, session.task? generation = some task → task.phase.isEarly = false

/-- Whether a task in a phase reads a source, or has ended. -/
def Phase.Serves (source : Source) (phase : Phase) : Prop :=
  phase.source? = some source ∨ phase.isRunning = false

theorem Phase.Serves.source_unique {phase : Phase} {source other : Source}
    (serves : phase.Serves source) (started : phase.source? = some other) : other = source := by
  rcases serves with same | ended
  · exact Option.some.inj (started.symm.trans same)
  · rw [Phase.isRunning_of_source? started] at ended
    cases ended

section

variable (generation : Nat) (descriptor : Descriptor) (source : Source)
  (first again : Message → Prop) (dismissed : Prop)

/-- What a task has told that reads a feed, by its phase. -/
inductive Reading (feed : Feed) (said : List Message) : Phase → Prop
  | opened (untaken : feed.taken = 0) (silent : said = []) : Reading feed said (.opened source)
  /-- The message that waits for room comes next in the stream. -/
  | telling {message : Message} {due? : Option Nat} (within : feed.taken ≤ feed.delivered.length)
      (tells : descriptor.Streams first again (feed.delivered.take feed.taken) (said ++ [message])) :
      Reading feed said (.telling source message due?)
  | streaming {due : Nat} (within : feed.taken ≤ feed.delivered.length)
      (told : descriptor.Streams first again (feed.delivered.take feed.taken) said) :
      Reading feed said (.streaming source due)
  | stalled (told : descriptor.Started first again feed.delivered said) :
      Reading feed said (.stalled source)

/-- A watch whose feed has ended: it has told everything, and is gone. -/
structure Finished (feed : Feed) (session : Session) : Prop where
  detached : feed.isAttached = false
  told : descriptor.Concludes first again feed.delivered (session.saidBy generation)
  gone : session.task? generation = none
  forgets : session.Forgets generation

/-- A watch that has told everything so far, and goes on. -/
structure Current (feed : Feed) (session : Session) : Prop where
  attached : feed.isAttached = true
  told : descriptor.Streams first again feed.delivered (session.saidBy generation)
  registered : session.watches.get? descriptor.key = some generation

/-- What a watch has told that has a feed, or had one. -/
inductive Standing (feed : Feed) (session : Session) : Prop
  | running {task : Task} (found : session.task? generation = some task)
      (uncancelled : task.isCancelled = false) (online : session.Online)
      (reading : Reading descriptor source first again feed (session.saidBy generation)
        task.phase) : Standing feed session
  /-- The feed has ended, and the farewell is yet to be said. -/
  | ending {task : Task} (found : session.task? generation = some task)
      (phase : task.phase = .ending .finished ∨
        task.phase = .reporting .finished ∧ session.Forgets generation)
      (online : session.Online) (detached : feed.isAttached = false)
      (told : descriptor.Streams first again feed.delivered (session.saidBy generation)) :
      Standing feed session
  | finished (finished : Finished generation descriptor first again feed session) :
      Standing feed session
  /-- Nothing more is said, since nobody listens or the task is about to stop. -/
  | dismissed (dismissed : dismissed)
      (told : descriptor.Started first again feed.delivered (session.saidBy generation))
      (quiet : ¬session.Online ∨ ∀ task, session.task? generation = some task →
        task.isCancelled = true ∧ task.phase.isRunning = true)
      (late : session.saidBy generation ≠ [] →
        ∀ task, session.task? generation = some task → task.phase.isEarly = false) :
      Standing feed session

/-- What a watch has told from the feed of its source. -/
def StandsAt (turn : Turn) : Prop :=
  ∃ feed, source.feed? turn.1 = some feed ∧
    Standing generation descriptor source first again dismissed feed turn.2

/-- A watch that has a feed, or had one. -/
structure Stands (turn : Turn) : Prop where
  used : generation < turn.2.nextGeneration
  /-- Its task serves the descriptor, and reads the feed of the source until it ends. -/
  own : ∀ task, turn.2.task? generation = some task →
    task.descriptor = descriptor ∧ task.phase.Serves source
  standing : StandsAt generation descriptor source first again dismissed turn

end

variable {generation : Nat} {descriptor : Descriptor} {source : Source}
  {first again : Message → Prop} {dismissed : Prop} {feed : Feed} {session : Session}
  {said : List Message} {phase : Phase} {before after : Turn}

namespace Reading

/-- A task that reads a feed has told what it took from it. -/
theorem started (reading : Reading descriptor source first again feed said phase) :
    descriptor.Started first again feed.delivered said := by
  cases reading with
  | opened _ silent => exact .inl silent
  | telling _ tells => exact tells.started_of_more.extend (List.take_prefix _ _)
  | streaming _ told => exact told.started (List.take_prefix _ _)
  | stalled told => exact told

/-- A task that has told something has read its object. -/
theorem isEarly_of_said (reading : Reading descriptor source first again feed said phase)
    (spoken : said ≠ []) : phase.isEarly = false := by
  cases reading with
  | opened _ silent => exact absurd silent spoken
  | _ => rfl

/-- A task goes on with its feed when it has told what it has taken so far, or is about to. -/
theorem goingOn {message? : Option Message} {due : Nat}
    (within : feed.taken ≤ feed.delivered.length)
    (told : descriptor.Streams first again (feed.delivered.take feed.taken)
      (said ++ message?.toList)) :
    Reading descriptor source first again feed said (.goingOn source message? due) := by
  cases message? with
  | none => exact .streaming within (by simpa using told)
  | some message => exact .telling within told

theorem source? (reading : Reading descriptor source first again feed said phase) :
    phase.source? = some source := by
  cases reading <;> rfl

theorem isRunning (reading : Reading descriptor source first again feed said phase) :
    phase.isRunning = true := by
  cases reading <;> rfl

/-- What the cluster delivers does not change what was told. -/
theorem extend (reading : Reading descriptor source first again feed said phase) {later : Feed}
    (longer : feed.Extends later) (taken : later.taken = feed.taken) :
    Reading descriptor source first again later said phase := by
  cases reading with
  | opened untaken silent => exact .opened (taken.trans untaken) silent
  | telling within tells =>
      obtain ⟨same, inside⟩ := longer.take_taken taken within
      exact .telling inside (same ▸ tells)
  | streaming within told =>
      obtain ⟨same, inside⟩ := longer.take_taken taken within
      exact .streaming inside (same ▸ told)
  | stalled told => exact .stalled (told.extend longer.delivered)

theorem mono {begins shows : Message → Prop}
    (reading : Reading descriptor source first again feed said phase)
    (firsts : phase.isEarly = false → ∀ message, first message → begins message)
    (agains : ∀ message, again message → shows message) :
    Reading descriptor source begins shows feed said phase := by
  cases reading with
  | opened untaken silent => exact .opened untaken silent
  | telling within tells => exact .telling within (tells.mono (firsts rfl) agains)
  | streaming within told => exact .streaming within (told.mono (firsts rfl) agains)
  | stalled told => exact .stalled (told.mono (fun _ => firsts rfl) agains)

end Reading

namespace Standing

theorem not_isRunning_of_ending {forgotten : Prop}
    (ends : phase = .ending .finished ∨ phase = .reporting .finished ∧ forgotten) :
    phase.isRunning = false := by
  rcases ends with rfl | ⟨rfl, _⟩ <;> rfl

/-- Whatever happened to a watch, it has told the stream of its feed from the first message on,
or all of it and the farewell. -/
theorem told (standing :
      Standing generation descriptor source first again dismissed feed session) :
    descriptor.Started first again feed.delivered (session.saidBy generation) ∨
      Finished generation descriptor first again feed session := by
  cases standing with
  | running _ _ _ reading => exact .inl reading.started
  | ending _ _ _ _ told => exact .inl (told.started List.prefix_rfl)
  | finished finished => exact .inr finished
  | dismissed _ told => exact .inl told

/-- What others do leaves a watch where it stands, unless they dismiss it. -/
theorem spare {later : Session} {feed next : Feed}
    (standing : Standing generation descriptor source first again dismissed feed session)
    (spares : Session.Spares generation dismissed session later) (longer : feed.Extends next)
    (taken : ∀ task, session.task? generation = some task → task.phase.source? = some source →
      next.taken = feed.taken) :
    Standing generation descriptor source first again dismissed next later := by
  obtain ⟨cancelled, tasks, cancels⟩ := spares.task
  have phases (each : ∀ task, session.task? generation = some task → task.phase.isEarly = false)
      (task : Task) (chosen : later.task? generation = some task) : task.phase.isEarly = false := by
    rw [tasks] at chosen
    obtain ⟨earlier, found, rfl⟩ := Option.map_eq_some_iff.mp chosen
    exact each earlier found
  cases standing with
  | @running task found uncancelled online reading =>
      have late : later.saidBy generation ≠ [] →
          ∀ task, later.task? generation = some task → task.phase.isEarly = false := by
        intro spoken
        refine phases fun other chosen => ?_
        obtain rfl := Option.some.inj (found.symm.trans chosen)
        exact reading.isEarly_of_said (spares.said ▸ spoken)
      rw [← spares.said] at reading
      rw [found, Option.map_some] at tasks
      have told := reading.started.extend longer.delivered
      -- The session can only go offline by something that dismisses the watch.
      by_cases still : later.Online
      · cases cancelled with
        | true =>
            refine .dismissed (cancels rfl) told (.inr fun other chosen => ?_) late
            obtain rfl := Option.some.inj (tasks.symm.trans chosen)
            exact ⟨Bool.or_true _, reading.isRunning⟩
        | false =>
            rw [Task.cancelIf_false] at tasks
            exact .running tasks uncancelled still
              (reading.extend longer (taken task found reading.source?))
      · exact .dismissed (spares.offline online still) told (.inl still) late
  | @ending task found phase online detached told =>
      obtain ⟨still, delivered⟩ := longer.detached detached
      have late : ∀ task, later.task? generation = some task → task.phase.isEarly = false := by
        refine phases fun other chosen => ?_
        obtain rfl := Option.some.inj (found.symm.trans chosen)
        exact Phase.isEarly_of_ended (not_isRunning_of_ending phase)
      rw [found, Option.map_some] at tasks
      rw [← spares.said, ← delivered] at told
      by_cases online' : later.Online
      · exact .ending tasks (phase.imp_right fun reporting =>
          ⟨reporting.1, fun key registered => reporting.2 key (spares.registered key registered)⟩)
          online' still told
      · exact .dismissed (spares.offline online online') (told.started List.prefix_rfl)
          (.inl online') fun _ => late
  | finished finished =>
      obtain ⟨still, delivered⟩ := longer.detached finished.detached
      have told := finished.told
      rw [finished.gone, Option.map_none] at tasks
      rw [← spares.said, ← delivered] at told
      exact .finished ⟨still, told, tasks, fun key registered =>
        finished.forgets key (spares.registered key registered)⟩
  | dismissed dismissed told quiet late =>
      rw [← spares.said] at told late
      refine .dismissed dismissed (told.extend longer.delivered) ?_ fun spoken =>
        phases (late spoken)
      rcases quiet with offline | stopping
      · exact .inl fun online => offline (spares.online online)
      · refine .inr fun task chosen => ?_
        rw [tasks] at chosen
        obtain ⟨earlier, found, rfl⟩ := Option.map_eq_some_iff.mp chosen
        obtain ⟨flagged, running⟩ := stopping earlier found
        exact ⟨by simp [Task.cancelIf, flagged], running⟩

/-- More may be known of the reads and of the dismissal of a watch. -/
theorem mono {begins shows : Message → Prop} {leaves : Prop}
    (standing : Standing generation descriptor source first again dismissed feed session)
    (used : generation < session.nextGeneration)
    (firsts : session.HasRead generation → ∀ message, first message → begins message)
    (agains : ∀ message, again message → shows message) (dismisses : dismissed → leaves) :
    Standing generation descriptor source begins shows leaves feed session := by
  have once {task : Task} (found : session.task? generation = some task)
      (late : task.phase.isEarly = false) : session.HasRead generation := by
    refine ⟨used, fun other chosen => ?_⟩
    obtain rfl := Option.some.inj (found.symm.trans chosen)
    exact late
  cases standing with
  | running found uncancelled online reading =>
      exact .running found uncancelled online
        (reading.mono (fun late => firsts (once found late)) agains)
  | @ending task found phase online detached told =>
      have late := Phase.isEarly_of_ended (not_isRunning_of_ending phase)
      exact .ending found phase online detached (told.mono (firsts (once found late)) agains)
  | finished finished =>
      obtain ⟨earlier, told, said⟩ := finished.told
      have gone : session.HasRead generation :=
        ⟨used, fun _ chosen => absurd (finished.gone.symm.trans chosen) nofun⟩
      exact .finished { finished with told := ⟨earlier, told.mono (firsts gone) agains, said⟩ }
  | dismissed dismissed told quiet late =>
      exact .dismissed (dismisses dismissed)
        (told.mono (fun spoken => firsts ⟨used, late spoken⟩) agains) quiet late

/-- When nothing is left to do and there is room, a watch that was not dismissed has told
everything, unless it waits for an answer that never comes. -/
theorem settled {site : Site}
    (standing : Standing generation descriptor source first again dismissed feed session)
    (coherent : session.Coherent) (feed? : source.feed? site = some feed)
    (own : ∀ task, session.task? generation = some task → task.descriptor = descriptor)
    (kept : ¬dismissed) (room : session.accepts = true)
    (waits : ∀ task, session.task? generation = some task → task.canStep site session = false) :
    Current generation descriptor first again feed session ∨
      Finished generation descriptor first again feed session ∨
      ∃ task, session.task? generation = some task ∧ task.phase = .stalled source := by
  -- A task that waits streams: in any other phase it has something left to do.
  cases standing with
  | @running task found uncancelled online reading =>
      by_cases stalled : task.phase = .stalled source
      · exact .inr (.inr ⟨task, found, stalled⟩)
      · have goesOn (other : Source) : task.phase ≠ .stalled other := by
          intro same
          rw [same] at reading stalled
          cases reading
          exact stalled rfl
        obtain ⟨_, _, other, due, streaming, idle⟩ :=
          Hub.streaming_of_waiting (waits task found) goesOn room
        obtain ⟨present, rfl⟩ := Session.task?_eq_some found
        rw [streaming] at reading
        cases reading with
        | streaming within told =>
            rw [Task.hasInput, feed?, Option.any_some, Bool.or_eq_false_iff] at idle
            obtain ⟨read, unfinished⟩ := idle
            have none_left : feed.next? = none := by simpa using read
            have all : feed.delivered.take feed.taken = feed.delivered :=
              List.take_of_length_le (List.getElem?_eq_none_iff.mp none_left)
            refine .inl ⟨?_, all ▸ told, ?_⟩
            · simpa [Feed.isFinished, none_left] using unfinished
            · refine (coherent.served online.1 descriptor.key task.generation).mpr ?_
              have serving : task.role = ⟨task.generation, descriptor.key, true⟩ := by
                simp [Task.role, Task.isServing, uncancelled, streaming, Phase.isReporting,
                  Task.key, own task found]
              exact serving ▸ List.mem_map_of_mem present
  | @ending task found phase online detached told =>
      obtain ⟨_, _, other, due, streaming, _⟩ := Hub.streaming_of_waiting (waits task found)
        (Phase.ne_stalled_of_ended (not_isRunning_of_ending phase)) room
      rcases phase with ending | ⟨reporting, _⟩
      · rw [ending] at streaming
        cases streaming
      · rw [reporting] at streaming
        cases streaming
  | finished finished => exact .inr (.inl finished)
  | dismissed dismissed => exact absurd dismissed kept

end Standing
end Watch
end KubeLens
