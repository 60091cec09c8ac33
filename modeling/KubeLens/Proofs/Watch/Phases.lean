import KubeLens.Proofs.Site.Within
import KubeLens.Proofs.Watch.Moves

/-!
# The phases of tasks

In one turn a task rests, enters another phase, or leaves.  Which phase it may enter depends on
the one that it is in, and for a task that starts on the connection that it finds.  What holds of
every task, and of every phase that one may enter, holds after every turn.
-/

namespace KubeLens
namespace Watch

namespace Phase

/-- Whether a task in this phase has yet to read its object. -/
def isEarly : Phase → Bool
  | starting | resolved _ | connected _ | opened _ => true
  | _ => false

@[simp] theorem isEarly_goingOn (source : Source) (message? : Option Message) (due : Nat) :
    (goingOn source message? due).isEarly = false := by
  cases message? <;> rfl

end Phase

namespace Task

/-- The phases that a task may enter in its next turn. -/
inductive Leads (task : Task) (site : Site) : Phase → Prop
  /-- A task that starts finds its connection. -/
  | resolved (starting : task.phase = .starting) (handle : Handle)
      (found : (site.resolve task.context?).1 = .ok handle) : Leads task site (.resolved handle)
  /-- The session knows of the connection of a task. -/
  | connected (handle : Handle) (resolved : task.phase = .resolved handle) :
      Leads task site (.connected handle)
  /-- A feed is opened over the connection of a task. -/
  | opened (handle : Handle) (connected : task.phase = .connected handle) (type : ResourceType)
      (place : Nat) : Leads task site (.opened ⟨handle.client, type, place⟩)
  /-- A task goes on with its feed, and has read its object by then. -/
  | keeps {phase : Phase} (source : Source) (held : task.phase.source? = some source)
      (still : phase.source? = some source) (late : phase.isEarly = false) : Leads task site phase
  | ending (reason : Ending) : Leads task site (.ending reason)
  | reporting (reason : Ending) : Leads task site (.reporting reason)

/-- What a turn of a task makes of the tasks of its session. -/
inductive Advances (task : Task) (site : Site) (before after : Session) : Prop
  | rests (tasks : after.tasks = before.tasks)
  | enters (phase : Phase) (leads : task.Leads site phase)
      (tasks : after.tasks = (before.setPhase task.generation phase).tasks)
  | leaves (tasks : after.tasks = (before.dropTask task.generation).tasks)

/-- What holds of every task, and of the task in every phase that it may enter, holds of every
task after a turn. -/
theorem Advances.each {task : Task} {site : Site} {before after : Session} {Q : Task → Prop}
    (advances : task.Advances site before after) (each : ∀ other ∈ before.tasks, Q other)
    (enters : ∀ phase, task.Leads site phase → ∀ other ∈ before.tasks,
      other.generation = task.generation → Q { other with phase }) :
    ∀ other ∈ after.tasks, Q other := by
  cases advances with
  | rests tasks =>
      rw [tasks]
      exact each
  | enters phase leads tasks =>
      rw [tasks]
      intro other present
      obtain ⟨stored, known, rfl⟩ := List.mem_map.mp present
      split
      · rename_i same
        exact enters phase leads stored known same
      · exact each stored known
  | leaves tasks =>
      rw [tasks]
      exact fun other present => each other (List.mem_filter.mp present).1

variable {task : Task}

theorem connect_advances (starting : task.phase = .starting) (site : Site) (session : Session) :
    task.Advances site session (task.connect (site, session)).2 := by
  have found : ∀ handle after, site.resolve task.context? = (.ok handle, after) →
      task.Leads site (.resolved handle) :=
    fun handle after answer => .resolved starting handle (by rw [answer])
  unfold connect
  dsimp only
  split
  · exact .enters _ (.ending _) rfl
  · rename_i handle after answer
    exact .enters _ (found handle after answer) rfl

theorem pin_advances {handle : Handle} (resolved : task.phase = .resolved handle) (site : Site)
    (session : Session) :
    task.Advances site session (task.pin handle (site, session)).2 := by
  refine .enters _ (.connected handle resolved) ?_
  unfold pin
  dsimp only
  split <;> rfl

theorem subscribe_advances {handle : Handle} (connected : task.phase = .connected handle)
    (site : Site) (session : Session) :
    task.Advances site session (task.subscribe handle (site, session)).2 := by
  unfold subscribe
  dsimp only
  split
  · exact .enters _ (.ending _) rfl
  · exact .enters _ (.opened handle connected _ _) rfl

theorem readFirst_advances {source : Source} (opened : task.phase = .opened source) (site : Site)
    (session : Session) :
    task.Advances site session (task.readFirst source (site, session)).2 := by
  have held : task.phase.source? = some source := by rw [opened]; rfl
  unfold readFirst
  dsimp only
  split <;> exact .enters _ (.keeps source held rfl rfl) rfl

theorem readAgain_advances {source : Source} {earlier : Nat}
    (streaming : task.phase = .streaming source earlier) (due : Nat) (site : Site)
    (session : Session) :
    task.Advances site session (task.readAgain source due (site, session)).2 := by
  have held : task.phase.source? = some source := by rw [streaming]; rfl
  unfold readAgain
  dsimp only
  split
  · exact .enters _ (.keeps source held rfl rfl) rfl
  · exact .enters _ (.keeps source held (by simp) (by simp)) rfl

theorem take_advances {source : Source} {due : Nat} (streaming : task.phase = .streaming source due)
    (site : Site) (session : Session) :
    task.Advances site session (task.take source due (site, session)).2 := by
  have held : task.phase.source? = some source := by rw [streaming]; rfl
  unfold take
  dsimp only
  split
  · exact .enters _ (.keeps source held (by simp) (by simp)) rfl
  · exact .enters _ (.ending .finished) rfl

theorem step_advances (task : Task) (due : Nat) (site : Site) (session : Session) :
    task.Advances site session (task.step due (site, session)).2 := by
  unfold step
  split
  · exact .leaves rfl
  · split
    · exact connect_advances ‹_› site session
    · exact pin_advances ‹_› site session
    · exact subscribe_advances ‹_› site session
    · exact readFirst_advances ‹_› site session
    · rename_i source message due? telling
      refine .enters (.streaming source (due?.getD due))
        (.keeps source (by rw [telling]; rfl) rfl rfl) ?_
      exact Session.setPhase_tasks _ _ (post_tasks session _ _)
    · exact take_advances ‹_› site session
    · exact .rests rfl
    · rename_i reason _
      refine .enters (.reporting reason) (.reporting reason) ?_
      exact Session.setPhase_tasks _ _ (session.deregister_tasks task)
    · exact .leaves (Session.dropTask_tasks _ (post_tasks session _ _))

theorem tick_advances (task : Task) (period : Nat) (site : Site) (session : Session) :
    task.Advances site session (task.tick period (site, session)).2 := by
  unfold tick
  split
  · exact .leaves rfl
  · split
    · exact readAgain_advances ‹_› _ site session
    · exact .rests rfl

end Task

/-! ## Tasks with a connection -/

/-- Whether no task of a session has yet to look for a connection. -/
def Session.IsConnected (session : Session) : Prop :=
  ∀ task ∈ session.tasks, task.phase ≠ .starting

theorem Task.Leads.ne_starting {task : Task} {site : Site} {phase : Phase}
    (leads : task.Leads site phase) : phase ≠ .starting := by
  cases leads with
  | keeps source held still =>
      rintro rfl
      cases still
  | _ => nofun

/-- A task that has yet to read its object had yet to read it before. -/
theorem Task.Leads.early {task : Task} {site : Site} {phase : Phase}
    (leads : task.Leads site phase) (early : phase.isEarly = true) :
    task.phase.isEarly = true := by
  cases leads with
  | resolved starting => rw [starting]; rfl
  | connected handle resolved => rw [resolved]; rfl
  | opened handle connected => rw [connected]; rfl
  | keeps source held still late => exact absurd (late.symm.trans early) Bool.false_ne_true
  | _ => cases early

theorem Task.Advances.isConnected {task : Task} {site : Site} {before after : Session}
    (advances : task.Advances site before after) (connected : before.IsConnected) :
    after.IsConnected :=
  advances.each connected fun _ leads _ _ _ => leads.ne_starting

/-! ## The cluster of a task -/

/-- The client that a task in this phase calls. -/
def Phase.client? : Phase → Option Client
  | resolved handle | connected handle => some handle.client
  | opened source | telling source _ _ | streaming source _ | stalled source => some source.client
  | _ => none

theorem Source.modify_within (source : Source) (site : Site) (change : Feed → Feed) :
    site.Within source.client.context (source.modify site change) :=
  ⟨rfl, rfl, rfl, .put site.fleet source.client.context _⟩

namespace Task

variable {task : Task} {context : String}

theorem client?_of_source? {phase : Phase} {source : Source} (held : phase.source? = some source) :
    phase.client? = some source.client := by
  cases phase <;> simp_all [Phase.source?, Phase.client?]

/-- A task that starts may find a connection.  Otherwise a task has the client that it had, or none
any more. -/
theorem Leads.client_cases {site : Site} {phase : Phase} (leads : task.Leads site phase) :
    (task.phase = .starting ∧
      ∃ handle, (site.resolve task.context?).1 = .ok handle ∧ phase = .resolved handle) ∨
    ∀ client ∈ phase.client?, client ∈ task.phase.client? := by
  cases leads with
  | resolved starting handle found => exact .inl ⟨starting, handle, found, rfl⟩
  | connected handle resolved => exact .inr (by rw [resolved]; exact fun _ => id)
  | opened handle connected => exact .inr (by rw [connected]; exact fun _ => id)
  | keeps source held still =>
      exact .inr (by rw [client?_of_source? held, client?_of_source? still]; exact fun _ => id)
  | ending => exact .inr nofun
  | reporting => exact .inr nofun

theorem Leads.client_of_started {site : Site} {phase : Phase} (leads : task.Leads site phase)
    (started : task.phase ≠ .starting) : ∀ client ∈ phase.client?, client ∈ task.phase.client? := by
  rcases leads.client_cases with ⟨starting, _⟩ | same
  · exact absurd starting started
  · exact same

theorem release_within (own : ∀ client ∈ task.phase.client?, client.context = context)
    (site : Site) : site.Within context (task.release site) := by
  unfold release
  split
  · rename_i source held
    rw [← own source.client (client?_of_source? held)]
    exact source.modify_within site Feed.close
  · exact .refl site

theorem subscribe_within (handle : Handle) (site : Site) (session : Session) :
    site.Within handle.client.context (task.subscribe handle (site, session)).1 := by
  unfold subscribe
  dsimp only
  split
  · exact .refl site
  · rename_i gv _
    have named := site.pluralOf_within handle.client gv task.descriptor.kind
      task.descriptor.plural?
    exact named.trans ⟨rfl, rfl, rfl, handle.client.watch_onlyAt _ _ _ _⟩

theorem read_within (source : Source) (site : Site) :
    site.Within source.client.context (task.read source site).2 :=
  site.getWith_within source.client source.type task.descriptor.space? task.descriptor.name

theorem readFirst_within (source : Source) (site : Site) (session : Session) :
    site.Within source.client.context (task.readFirst source (site, session)).1 := by
  have read := task.read_within source site
  unfold readFirst
  dsimp only
  split <;> rename_i answer <;> rwa [answer] at read

theorem readAgain_within (source : Source) (due : Nat) (site : Site) (session : Session) :
    site.Within source.client.context (task.readAgain source due (site, session)).1 := by
  have read := task.read_within source site
  unfold readAgain
  dsimp only
  split <;> rename_i answer <;> rwa [answer] at read

theorem take_within {source : Source} (held : task.phase.source? = some source)
    (own : ∀ client ∈ task.phase.client?, client.context = context) (due : Nat) (site : Site)
    (session : Session) : site.Within context (task.take source due (site, session)).1 := by
  unfold take
  dsimp only
  split
  · rw [← own source.client (client?_of_source? held)]
    exact source.modify_within site Feed.advance
  · exact release_within own site

/-- A task that does not start calls the cluster of its client, and looks for no connection. -/
theorem step_within (started : task.phase ≠ .starting)
    (own : ∀ client ∈ task.phase.client?, client.context = context) (due : Nat) (site : Site)
    (session : Session) : site.Within context (task.step due (site, session)).1 := by
  unfold step
  split
  · exact release_within own site
  · split
    · rename_i starting
      exact absurd starting started
    · exact .refl site
    · rename_i handle connected
      rw [← own handle.client (by rw [connected]; rfl)]
      exact subscribe_within handle site session
    · rename_i source opened
      rw [← own source.client (by rw [opened]; rfl)]
      exact readFirst_within source site session
    · exact .refl site
    · rename_i streaming
      exact take_within (by rw [streaming]; rfl) own _ site session
    · exact .refl site
    · exact .refl site
    · exact .refl site

theorem tick_within (own : ∀ client ∈ task.phase.client?, client.context = context)
    (period : Nat) (site : Site) (session : Session) :
    site.Within context (task.tick period (site, session)).1 := by
  unfold tick
  split
  · exact release_within own site
  · split
    · rename_i source due streaming
      rw [← own source.client (by rw [streaming]; rfl)]
      exact readAgain_within source (due + period) site session
    · exact .refl site

/-- The client of a task, if it has one, is of some context. -/
theorem exists_own (task : Task) :
    ∃ context, ∀ client ∈ task.phase.client?, client.context = context := by
  cases task.phase.client? with
  | none => exact ⟨"", nofun⟩
  | some client => exact ⟨client.context, fun _ present => by rw [Option.some.inj present]⟩

theorem step_board (started : task.phase ≠ .starting) (due : Nat) (site : Site)
    (session : Session) : (task.step due (site, session)).1.board = site.board := by
  obtain ⟨context, own⟩ := task.exists_own
  exact (step_within started own due site session).board

theorem tick_board (task : Task) (period : Nat) (site : Site) (session : Session) :
    (task.tick period (site, session)).1.board = site.board := by
  obtain ⟨context, own⟩ := task.exists_own
  exact (tick_within own period site session).board

end Task

/-! ## Schedules -/

namespace Hub

/-- What a turn of each task of a session keeps, a turn of the one that is chosen keeps. -/
theorem runTask_keeps {P : Site → Hub → Prop} {site : Site} {hub : Hub} {id generation : Nat}
    {act : Task → Turn → Turn} (holds : P site hub)
    (turns : ∀ task ∈ (hub.session id).tasks,
      P (act task (site, hub.session id)).1 (hub.put id (act task (site, hub.session id)).2)) :
    P (runTask site hub id generation act).1 (runTask site hub id generation act).2 := by
  unfold runTask
  split
  · exact holds
  · rename_i task found
    exact turns task (Session.task?_eq_some found).1

/-- Whether no task has yet to look for a connection. -/
def IsConnected (hub : Hub) : Prop :=
  ∀ session ∈ hub.sessions, session.IsConnected

theorem IsConnected.session {hub : Hub} (connected : hub.IsConnected) (id : Nat) :
    (hub.session id).IsConnected :=
  forall_session connected (List.forall_mem_nil _) id

theorem IsConnected.put {hub : Hub} {id : Nat} {session : Session} (connected : hub.IsConnected)
    (changed : session.IsConnected) : (hub.put id session).IsConnected :=
  forall_put connected changed

theorem replies_keep_board (board : Switchboard) :
    KeptByReplies fun site hub => hub.IsConnected ∧ site.board = board := by
  rintro site hub id _ ⟨connected, same⟩
  refine ⟨connected.put ?_, same⟩
  unfold Session.IsConnected
  rw [Session.reply_tasks]
  exact connected.session id

/-- Tasks that have a connection leave the switchboard alone. -/
theorem steps_keep_board (board : Switchboard) :
    KeptBySteps fun site hub => hub.IsConnected ∧ site.board = board := by
  rintro now site hub id generation _ ⟨connected, same⟩
  refine runTask_keeps (P := fun site hub => hub.IsConnected ∧ site.board = board)
    ⟨connected, same⟩ fun task present => ⟨connected.put ?_, ?_⟩
  · exact (task.step_advances _ site _).isConnected (connected.session id)
  · exact (Task.step_board (connected.session id task present) _ site _).trans same

theorem ticks_keep_board (board : Switchboard) :
    KeptByTicks fun site hub => hub.IsConnected ∧ site.board = board := by
  rintro period site hub id generation ⟨connected, same⟩
  refine runTask_keeps (P := fun site hub => hub.IsConnected ∧ site.board = board)
    ⟨connected, same⟩ fun task present => ⟨connected.put ?_, ?_⟩
  · exact (task.tick_advances _ site _).isConnected (connected.session id)
  · exact (task.tick_board _ site _).trans same

end Hub
end Watch
end KubeLens
