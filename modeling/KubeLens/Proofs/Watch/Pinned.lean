import KubeLens.Proofs.Lens.Opening
import KubeLens.Proofs.Watch.Lineage

/-!
# The context of a session

A session whose peer does not redirect it keeps its context once it has one.  Its watches follow:
a watch that was started with a context has that of the session and a client for it, and while the
session has no context none of its watches goes on with a connection.  A watch that was started
without a context finds its connection first and lets the session know of it later; in between the
session may get another context.
-/

namespace KubeLens
namespace Watch

/-- Whether a control message asks for another context. -/
def Control.redirects : Control → Bool
  | setContext _ => true
  | _ => false

/-- Whether a happening may give a session another context than it has. -/
def Happening.redirects : Happening → Bool
  | asks _ control => control.redirects
  | _ => false

/-! ## What each operation does to the context -/

namespace Session

theorem unwatch_context? (session : Session) (key : String) :
    (session.unwatch key).context? = session.context? := by
  unfold unwatch
  split <;> rfl

theorem deregister_context? (session : Session) (task : Task) :
    (session.deregister task).context? = session.context? := by
  unfold deregister
  split <;> rfl

theorem foldl_unwatch_context? (session : Session) (keys : List String) :
    (keys.foldl unwatch session).context? = session.context? :=
  List.foldlRecOn (motive := fun later : Session => later.context? = session.context?) keys _ rfl
    fun later same key _ => (later.unwatch_context? key).trans same

theorem foldl_start_context? (session : Session) (wanted : Assoc String Descriptor) :
    (wanted.foldl (fun session entry =>
      if session.watches.has entry.1 then session else session.start entry.2) session).context? =
      session.context? := by
  refine List.foldlRecOn (motive := fun later : Session => later.context? = session.context?)
    wanted _ rfl fun later same entry _ => ?_
  split <;> exact same

theorem pin_ne_none (session : Session) (context : String) :
    (session.pin (some context)).context? ≠ none := by
  unfold pin
  cases session.context? <;> nofun

theorem replace_context? (session : Session) (active? : Option String)
    (descriptors : List Descriptor) :
    (session.replace active? descriptors).context? = session.context? ∨
      (session.replace active? descriptors).context? = session.context?.or active? := by
  unfold replace
  split
  · exact .inl rfl
  · unfold owe
    dsimp only
    rw [foldl_start_context?, foldl_unwatch_context?]
    split
    · exact .inl rfl
    · exact .inr rfl

/-- A message that does not redirect a session leaves its context, or gives it the active one when
it has none. -/
theorem handle_context? {control : Control} (quiet : control.redirects = false)
    (session : Session) (active? : Option String) :
    (session.handle active? control).context? = session.context? ∨
      (session.handle active? control).context? = session.context?.or active? := by
  unfold Session.handle
  split
  · exact session.replace_context? active? _
  · rename_i resource
    unfold orReply Session.subscribe
    split
    · rename_i subscribed
      split at subscribed
      · cases subscribed
      · split at subscribed <;> cases subscribed
        · exact .inl rfl
        · exact .inr rfl
    · exact .inl rfl
  · exact .inl rfl
  · exact .inl (session.unwatch_context? _)
  · exact .inl rfl
  · cases quiet

theorem reply_context? (session : Session) : session.reply.context? = session.context? := by
  unfold reply
  split
  · rfl
  · split
    · exact post_context? _ none _
    · rfl

/-- Whether a session has the context that it had before, if it had one. -/
def Stays (before after : Session) : Prop :=
  ∀ context, before.context? = some context → after.context? = some context

namespace Stays

variable {before after : Session}

theorem of_same (same : after.context? = before.context?) : before.Stays after :=
  fun _ own => same.trans own

theorem of_or {found? : Option String} (pinned : after.context? = before.context?.or found?) :
    before.Stays after := by
  intro context own
  rw [pinned, own]
  rfl

end Stays

theorem handle_stays {control : Control} (quiet : control.redirects = false) (session : Session)
    (active? : Option String) : session.Stays (session.handle active? control) := by
  rcases session.handle_context? quiet active? with same | pinned
  · exact .of_same same
  · exact .of_or pinned

end Session

namespace Task

variable {task : Task} {site : Site} {session : Session}

theorem phase_of_enter (task : Task) {session : Session} {phase : Phase} {later : Task}
    (present : later ∈ (task.enter session phase).tasks)
    (same : later.generation = task.generation) : later.phase = phase := by
  obtain ⟨earlier, _, rfl⟩ := List.mem_map.mp present
  split
  · rfl
  · rename_i different
    rw [if_neg different] at same
    exact absurd same different

/-- A task that looks for its connection gives up, or finds one. -/
theorem connect_cases (task : Task) (site : Site) (session : Session) :
    (∃ error, (task.connect (site, session)).2 =
      task.enter session (.ending (.failed error))) ∨
    ∃ handle, (site.resolve task.context?).1 = .ok handle ∧
      (task.connect (site, session)).2 = task.enter session (.resolved handle) := by
  unfold connect
  dsimp only
  split
  · exact .inl ⟨_, rfl⟩
  · rename_i handle after answer
    exact .inr ⟨handle, by rw [answer], rfl⟩

theorem pin_stays (task : Task) (handle : Handle) (site : Site) (session : Session) :
    session.Stays (task.pin handle (site, session)).2 := by
  unfold pin
  dsimp only
  split
  · exact .of_or rfl
  · exact .of_same rfl

/-- Only a task that has found its connection has a say in the context of its session. -/
theorem step_context? (unresolved : ∀ handle, task.phase ≠ .resolved handle) (due : Nat) :
    (task.step due (site, session)).2.context? = session.context? := by
  unfold step
  split
  · rfl
  · split
    · rcases task.connect_cases site session with ⟨error, entered⟩ | ⟨handle, _, entered⟩ <;>
      · rw [entered]
        rfl
    · exact absurd ‹_› (unresolved _)
    · unfold subscribe
      dsimp only
      split <;> rfl
    · unfold readFirst
      dsimp only
      split <;> rfl
    · exact Session.post_context? session _ _
    · unfold take
      dsimp only
      split <;> rfl
    · rfl
    · exact session.deregister_context? task
    · exact Session.post_context? session _ _

theorem step_stays (task : Task) (due : Nat) (site : Site) (session : Session) :
    session.Stays (task.step due (site, session)).2 := by
  by_cases resolved : ∃ handle, task.phase = .resolved handle
  · obtain ⟨handle, found⟩ := resolved
    unfold step
    simp only [found]
    split
    · exact .of_same rfl
    · exact task.pin_stays handle site session
  · exact .of_same (step_context? (not_exists.mp resolved) due)

theorem tick_context? (task : Task) (period : Nat) (site : Site) (session : Session) :
    (task.tick period (site, session)).2.context? = session.context? := by
  unfold tick
  split
  · rfl
  · split
    · unfold readAgain
      dsimp only
      split <;> rfl
    · rfl

end Task

/-- Only a message that redirects a session gives it another context. -/
theorem Happening.turn_stays {happening : Happening} (quiet : happening.redirects = false)
    (turn : Turn) : turn.2.Stays (happening.turn turn).2 := by
  cases happening with
  | asks active? control => exact turn.2.handle_stays quiet active?
  | garbles => exact .of_same rfl
  | replies => exact .of_same turn.2.reply_context?
  | receives => exact .of_same rfl
  | hangsUp => exact .of_same rfl
  | closes => exact .of_same rfl
  | step generation due =>
      unfold Happening.turn
      dsimp only
      split
      · split
        · exact Task.step_stays _ due turn.1 turn.2
        · exact .of_same rfl
      · exact .of_same rfl
  | tick generation period =>
      unfold Happening.turn
      dsimp only
      split
      · exact .of_same (Task.tick_context? _ period turn.1 turn.2)
      · exact .of_same rfl

/-! ## Sessions and their watches -/

namespace Phase

/-- The client that a task in this phase goes on with, and that its session knows of. -/
def known? : Phase → Option Client
  | resolved _ => none
  | phase => phase.client?

/-- Whether a phase has the client of an earlier one or none. -/
structure Inherits (before after : Phase) : Prop where
  client : ∀ client ∈ after.client?, client ∈ before.client?
  known : ∀ client ∈ after.known?, client ∈ before.known?
  resolved : ∀ handle, after = .resolved handle → before = .resolved handle

theorem Inherits.refl (phase : Phase) : phase.Inherits phase :=
  ⟨fun _ => id, fun _ => id, fun _ => id⟩

theorem known?_of_ne {phase : Phase} (unresolved : ∀ handle, phase ≠ .resolved handle) :
    phase.known? = phase.client? := by
  cases phase with
  | resolved handle => exact absurd rfl (unresolved handle)
  | _ => rfl

end Phase

/-- A task that neither starts nor has just found its connection goes on with what it has. -/
theorem Task.Leads.inherits {task : Task} {site : Site} {phase : Phase}
    (leads : task.Leads site phase) (started : task.phase ≠ .starting)
    (unresolved : ∀ handle, task.phase ≠ .resolved handle) : task.phase.Inherits phase := by
  have client := leads.client_of_started started
  have still : ∀ handle, phase ≠ .resolved handle := by
    rintro handle rfl
    cases leads with
    | resolved starting => exact started starting
    | keeps source held still => cases still
  refine ⟨client, ?_, fun handle same => absurd same (still handle)⟩
  rwa [Phase.known?_of_ne still, Phase.known?_of_ne unresolved]

/-- Whether a task goes with the context of its session: its own context is the one of the session,
its client is for what that context means, and while the session has none it goes on with no
client. -/
structure Task.Follows (host : Host) (context? : Option String) (task : Task) : Prop where
  own : ∀ context, task.context? = some context → context? = some context ∧
    ∀ client ∈ task.phase.client?, client.context = Switchboard.target host context
  free : context? = none → task.phase.known? = none
  resolved : ∀ handle, task.phase = .resolved handle →
    handle.context ≠ "" ∧ handle.client.context = handle.context
  mounted : host.inCluster = true → ∀ client ∈ task.phase.client?, client.context = inClusterContext

namespace Task.Follows

variable {host : Host} {context? later? : Option String} {task : Task}

/-- A task without a client. -/
theorem of_free (own : ∀ context, task.context? = some context → context? = some context)
    (free : task.phase.client? = none) : task.Follows host context? := by
  have unresolved : ∀ handle, task.phase ≠ .resolved handle := by
    intro handle found
    rw [found] at free
    cases free
  refine ⟨fun context named => ⟨own context named, ?_⟩, fun _ => ?_,
    fun handle found => absurd found (unresolved handle), fun _ => ?_⟩
  · rw [free]
    nofun
  · rw [Phase.known?_of_ne unresolved, free]
  · rw [free]
    nofun

/-- A session that gets or keeps a context is followed as before. -/
theorem stays (follows : task.Follows host context?)
    (stays : ∀ context, context? = some context → later? = some context) :
    task.Follows host later? := by
  refine ⟨fun context named => ?_, fun none => follows.free ?_, follows.resolved, follows.mounted⟩
  · obtain ⟨same, clients⟩ := follows.own context named
    exact ⟨stays context same, clients⟩
  · cases context? with
    | none => rfl
    | some context =>
        rw [none] at stays
        cases stays context rfl

/-- A task that gets no other client. -/
theorem becomes (follows : task.Follows host context?) {after : Task}
    (same : after.context? = task.context?) (inherits : task.phase.Inherits after.phase) :
    after.Follows host context? := by
  refine ⟨fun context named => ?_, fun none => ?_,
    fun handle found => follows.resolved handle (inherits.resolved handle found),
    fun inside other present => follows.mounted inside other (inherits.client other present)⟩
  · obtain ⟨shared, clients⟩ := follows.own context (same ▸ named)
    exact ⟨shared, fun other present => clients other (inherits.client other present)⟩
  · have known := inherits.known
    rw [follows.free none] at known
    exact Option.eq_none_iff_forall_not_mem.mpr fun other present => nomatch known other present

/-- A task that finds its connection. -/
theorem found (follows : task.Follows host context?) (named : context? ≠ some "") {site : Site}
    {handle : Handle} (orderly : site.Orderly) (sameMode : site.host.inCluster = host.inCluster)
    (found : (site.resolve task.context?).1 = .ok handle) :
    Task.Follows host context? { task with phase := .resolved handle } := by
  have targets := Switchboard.target_congr sameMode
  obtain ⟨aimed, client⟩ := Site.resolve_own orderly.coherent found
  refine ⟨fun context own => ?_, fun _ => rfl, ?_, fun inside other same => ?_⟩
  · obtain ⟨shared, _⟩ := follows.own context own
    refine ⟨shared, fun other same => ?_⟩
    obtain rfl := Option.some.inj same
    rw [client, show task.context? = some context from own,
      Site.aim_of_named fun blank => named (blank ▸ shared), targets]
  · rintro _ ⟨⟩
    exact ⟨(orderly.found found).1, client.trans aimed.symm⟩
  · obtain rfl := Option.some.inj same
    rw [client, ← aimed, ← (orderly.found found).2, targets]
    exact Switchboard.target_inside inside _

/-- A task that goes on with its connection, after which its session has a context. -/
theorem connected {handle : Handle} (follows : task.Follows host context?)
    (resolved : task.phase = .resolved handle)
    (stays : ∀ context, context? = some context → later? = some context) (gained : later? ≠ none) :
    Task.Follows host later? { task with phase := .connected handle } := by
  refine ⟨fun context own => ?_, fun none => absurd none gained, nofun, fun inside => ?_⟩
  · obtain ⟨shared, clients⟩ := follows.own context own
    rw [resolved] at clients
    exact ⟨stays context shared, clients⟩
  · have mounted := follows.mounted inside
    rwa [resolved] at mounted

end Task.Follows

/-- Whether a session has no blank context, and its watches go with the one it has. -/
structure Session.Pinned (host : Host) (session : Session) : Prop where
  named : session.context? ≠ some ""
  tasks : ∀ task ∈ session.tasks, task.Follows host session.context?

namespace Session
namespace Pinned

variable {host : Host} {session after : Session}

/-- A new session has no blank context. -/
theorem fresh (host : Host) (context? : Option String) (isCancelled : Bool) :
    Pinned host { context? := context?.filter (!·.isEmpty), isCancelled } := by
  refine ⟨?_, List.forall_mem_nil _⟩
  simp [Option.filter_eq_some_iff]

theorem or_ne_blank (pinned : session.Pinned host) {found? : Option String}
    (named : found? ≠ some "") : session.context?.or found? ≠ some "" := by
  have own := pinned.named
  cases context : session.context? with
  | none => rwa [Option.none_or]
  | some context => rwa [context] at own

/-- No task gets another client. -/
theorem carry (pinned : session.Pinned host) (stays : session.Stays after)
    (named : after.context? ≠ some "")
    (tasks : ∀ task ∈ after.tasks, ∃ earlier ∈ session.tasks, task.context? = earlier.context? ∧
      earlier.phase.Inherits task.phase) : after.Pinned host := by
  refine ⟨named, fun task present => ?_⟩
  obtain ⟨earlier, stored, same, inherits⟩ := tasks task present
  exact ((pinned.tasks earlier stored).becomes same inherits).stays stays

theorem same_tasks (pinned : session.Pinned host) (context : after.context? = session.context?)
    (tasks : ∀ task ∈ after.tasks, task ∈ session.tasks) : after.Pinned host :=
  pinned.carry (.of_same context) (context ▸ pinned.named)
    fun task present => ⟨task, tasks task present, rfl, .refl _⟩

/-- The watches that a message starts have the context that the session has by then. -/
theorem handle (pinned : session.Pinned host) (coherent : session.Coherent) {control : Control}
    (quiet : control.redirects = false) {active? : Option String} (active : active? ≠ some "") :
    (session.handle active? control).Pinned host := by
  have named : (session.handle active? control).context? ≠ some "" := by
    rcases session.handle_context? quiet active? with same | found
    · exact same ▸ pinned.named
    · exact found ▸ pinned.or_ne_blank active
  have stays := session.handle_stays quiet active?
  have binds := Session.handle_binds coherent active? control
  obtain ⟨dropped, started, heeds⟩ := session.handle_heeds active? control
  refine ⟨named, fun task present => ?_⟩
  have stored := present
  rw [heeds.arranges.tasks] at stored
  rcases List.mem_append.mp stored with kept | new
  · obtain ⟨earlier, known, rfl⟩ := List.mem_map.mp kept
    refine ((pinned.tasks earlier known).becomes ?_ ?_).stays stays
    · rfl
    · exact .refl _
  · have bound := binds task present (heeds.arranges.generation_bounds new).1
    refine .of_free (fun context own => bound ▸ own) ?_
    rw [(heeds.arranges.fresh task new).2]
    rfl

/-- A turn of a task that neither looks for a connection nor has just found one. -/
theorem advance (pinned : session.Pinned host) {task : Task} {site : Site}
    (coherent : session.Coherent) (present : task ∈ session.tasks)
    (started : task.phase ≠ .starting) (unresolved : ∀ handle, task.phase ≠ .resolved handle)
    (context : after.context? = session.context?)
    (advances : task.Advances site session after) : after.Pinned host := by
  refine pinned.carry (.of_same context) (context ▸ pinned.named) ?_
  refine advances.each (fun other stored => ⟨other, stored, rfl, .refl _⟩)
    fun phase leads other stored same => ?_
  obtain rfl := coherent.task_unique stored present same
  exact ⟨other, stored, rfl, leads.inherits started unresolved⟩

theorem drop (pinned : session.Pinned host) (generation : Nat) :
    (session.dropTask generation).Pinned host :=
  pinned.same_tasks rfl fun _ present => (List.mem_filter.mp present).1

theorem enter (pinned : session.Pinned host) {task : Task} {phase : Phase}
    (unique : ∀ other ∈ session.tasks, other.generation = task.generation → other = task)
    (follows : Task.Follows host session.context? { task with phase }) :
    (task.enter session phase).Pinned host := by
  refine ⟨pinned.named, fun other stored => ?_⟩
  obtain ⟨earlier, known, rfl⟩ := List.mem_map.mp stored
  split
  · rename_i same
    obtain rfl := unique earlier known same
    exact follows
  · exact pinned.tasks earlier known

variable {site : Site} {task : Task}

/-- What a task finds is for its own context. -/
theorem connect (pinned : session.Pinned host) (coherent : session.Coherent)
    (orderly : site.Orderly) (sameMode : site.host.inCluster = host.inCluster)
    (present : task ∈ session.tasks) : (task.connect (site, session)).2.Pinned host := by
  have follows := pinned.tasks task present
  have unique : ∀ other ∈ session.tasks, other.generation = task.generation → other = task :=
    fun other stored same => coherent.task_unique stored present same
  rcases task.connect_cases site session with ⟨error, entered⟩ | ⟨handle, found, entered⟩
  · rw [entered]
    exact pinned.enter unique (follows.becomes rfl ⟨nofun, nofun, nofun⟩)
  · rw [entered]
    exact pinned.enter unique (follows.found pinned.named orderly sameMode found)

/-- A session has a context when one of its tasks goes on with its connection: the one of the
connection, the task's own, or one that it got before. -/
theorem pin (pinned : session.Pinned host) (coherent : session.Coherent)
    (present : task ∈ session.tasks) {handle : Handle} (resolved : task.phase = .resolved handle) :
    (task.pin handle (site, session)).2.Pinned host := by
  have follows := pinned.tasks task present
  have unique : ∀ other ∈ session.tasks, other.generation = task.generation → other = task :=
    fun other stored same => coherent.task_unique stored present same
  unfold Task.pin
  dsimp only
  split
  · have stays : session.Stays (session.pin (some handle.context)) := .of_or rfl
    have gained : (session.pin (some handle.context)).Pinned host :=
      pinned.carry stays
        (pinned.or_ne_blank fun blank =>
          (follows.resolved handle resolved).1 (Option.some.inj blank))
        fun other stored => ⟨other, stored, rfl, .refl _⟩
    exact gained.enter unique
      (follows.connected resolved stays (session.pin_ne_none handle.context))
  · rename_i owned
    obtain ⟨context, own⟩ := Option.ne_none_iff_exists'.mp (by simpa using owned)
    refine pinned.enter unique (follows.connected resolved (fun _ => id) ?_)
    rw [(follows.own context own).1]
    nofun

theorem step (pinned : session.Pinned host) (coherent : session.Coherent)
    (orderly : site.Orderly) (sameMode : site.host.inCluster = host.inCluster)
    (present : task ∈ session.tasks) (due : Nat) :
    (task.step due (site, session)).2.Pinned host := by
  cases phase : task.phase with
  | starting =>
      unfold Task.step
      simp only [phase]
      split
      · exact pinned.drop task.generation
      · exact pinned.connect coherent orderly sameMode present
  | resolved handle =>
      unfold Task.step
      simp only [phase]
      split
      · exact pinned.drop task.generation
      · exact pinned.pin coherent present phase
  | _ =>
      have unresolved : ∀ handle, task.phase ≠ .resolved handle := by
        rw [phase]
        nofun
      exact pinned.advance coherent present (by rw [phase]; nofun) unresolved
        (Task.step_context? unresolved due) (task.step_advances due site session)

/-- A task that waits for changes may read its object again. -/
theorem tick (pinned : session.Pinned host) (coherent : session.Coherent)
    (present : task ∈ session.tasks) (period : Nat) :
    (task.tick period (site, session)).2.Pinned host := by
  cases phase : task.phase with
  | streaming source due =>
      exact pinned.advance coherent present (by rw [phase]; nofun) (by rw [phase]; nofun)
        (task.tick_context? period site session) (task.tick_advances period site session)
  | _ =>
      unfold Task.tick
      simp only [phase]
      split
      · exact pinned.drop task.generation
      · exact pinned

/-- A happening that does not redirect a session leaves its watches with it. -/
theorem turn (pinned : session.Pinned host) (coherent : session.Coherent)
    (orderly : site.Orderly) (sameMode : site.host.inCluster = host.inCluster)
    {happening : Happening} (quiet : happening.redirects = false)
    (meets : happening.Meets site) : (happening.turn (site, session)).2.Pinned host := by
  cases happening with
  | asks active? control =>
      obtain rfl : active? = site.board.current := meets
      exact pinned.handle coherent quiet orderly.current_ne_blank
  | garbles => exact pinned.same_tasks rfl fun _ => id
  | replies =>
      exact pinned.same_tasks session.reply_context? fun _ present => session.reply_tasks ▸ present
  | receives => exact pinned.same_tasks rfl fun _ => id
  | hangsUp => exact pinned.same_tasks rfl fun _ => id
  | closes => exact pinned.same_tasks rfl fun _ => id
  | step generation due =>
      unfold Happening.turn
      dsimp only
      split
      · rename_i task found
        split
        · exact pinned.step coherent orderly sameMode (task?_eq_some found).1 due
        · exact pinned
      · exact pinned
  | tick generation period =>
      unfold Happening.turn
      dsimp only
      split
      · rename_i task found
        exact pinned.tick coherent (task?_eq_some found).1 period
      · exact pinned

end Pinned

/-! ## Sessions without a context -/

/-- Whether what is left of a task has looked for its connection, and the session has the context of
the client that it found. -/
def Settles (session : Session) (generation : Nat) : Prop :=
  ∀ task ∈ session.tasks, task.generation = generation → task.phase ≠ .starting ∧
    ∀ client ∈ task.phase.client?, session.context? = some client.context

variable {host : Host} {session : Session} {site : Site} {task : Task}

theorem pin_settles {handle : Handle} (free : session.context? = none)
    (unowned : task.context? = none) (own : handle.client.context = handle.context) :
    (task.pin handle (site, session)).2.Settles task.generation := by
  have entered : (task.pin handle (site, session)).2 =
      task.enter (session.pin (some handle.context)) (.connected handle) := by
    unfold Task.pin
    rw [unowned]
    rfl
  intro later stored same
  rw [entered] at stored ⊢
  rw [task.phase_of_enter stored same]
  refine ⟨nofun, fun client answer => ?_⟩
  obtain rfl := Option.some.inj answer
  unfold Task.enter Session.setPhase Session.pin
  rw [free, own]
  rfl

/-- When a watch that has looked for its connection makes a step while its session has no context,
the session gets the one of the connection. -/
theorem Pinned.step_settles (pinned : session.Pinned host) (coherent : session.Coherent)
    (present : task ∈ session.tasks) (started : task.phase ≠ .starting)
    (free : session.context? = none) (due : Nat) :
    (task.step due (site, session)).2.Settles task.generation := by
  have follows := pinned.tasks task present
  by_cases resolved : ∃ handle, task.phase = .resolved handle
  · obtain ⟨handle, found⟩ := resolved
    -- A watch with a context of its own belongs to a session with a context.
    have unowned : task.context? = none := by
      refine Option.eq_none_iff_forall_ne_some.mpr fun context own => ?_
      rw [(follows.own context own).1] at free
      cases free
    unfold Task.step
    simp only [found]
    split
    · intro later stored same
      exact absurd same (by simpa using (List.mem_filter.mp stored).2)
    · exact pin_settles free unowned (follows.resolved handle found).2
  · have unconnected : ∀ client, client ∉ task.phase.client? := by
      rw [← Phase.known?_of_ne (not_exists.mp resolved), follows.free free]
      nofun
    refine (task.step_advances due site session).each ?_ ?_
    · intro other stored same
      obtain rfl := coherent.task_unique stored present same
      exact ⟨started, fun client answer => absurd answer (unconnected client)⟩
    · intro phase leads other stored same _
      exact ⟨leads.ne_starting, fun client answer =>
        absurd (leads.client_of_started started client answer) (unconnected client)⟩

end Session

/-! ## Moves -/

namespace Hub

variable {permits : Nat → Happening → Prop} {before after : Site × Hub}

/-- A session whose watches go with it, and surroundings in which they keep to it. -/
structure Pins (host : Host) (id : Nat) (site : Site) (hub : Hub) : Prop where
  orderly : site.Orderly
  sameMode : site.host.inCluster = host.inCluster
  sane : hub.Sane
  pinned : (hub.session id).Pinned host

variable {host : Host} {id : Nat}

theorem Move.pins (move : Move permits before after)
    (quiet : ∀ happening, permits id happening → happening.redirects = false)
    (pins : Pins host id before.1 before.2) : Pins host id after.1 after.2 := by
  refine ⟨move.keepsOrder.orderly pins.orderly,
    move.keepsOrder.inCluster.trans pins.sameMode, move.sane pins.sane, ?_⟩
  cases move.fate id with
  | rests same =>
      rw [same]
      exact pins.pinned
  | happens happening permitted meets turn =>
      have pinned := pins.pinned.turn (pins.sane.session id).coherent pins.orderly pins.sameMode
        (quiet happening permitted) meets
      rwa [turn] at pinned
  | opens context? isCancelled _ opened =>
      rw [opened]
      exact .fresh host context? isCancelled

theorem Moves.pins (moves : Moves permits before after)
    (quiet : ∀ happening, permits id happening → happening.redirects = false)
    (pins : Pins host id before.1 before.2) : Pins host id after.1 after.2 := by
  induction moves with
  | refl => exact pins
  | tail _ last ih => exact last.pins quiet ih

/-- A session that is not redirected keeps its context. -/
theorem Moves.stays (moves : Moves permits before after)
    (quiet : ∀ happening, permits id happening → happening.redirects = false) :
    (before.2.session id).Stays (after.2.session id) :=
  moves.each (R := Session.Stays) (fun _ _ own => own)
    (fun _ _ _ earlier later context own => later context (earlier context own))
    (fun happening permitted turn => happening.turn_stays (quiet happening permitted) turn)
    (fun _ _ _ => nofun)

end Hub
end Watch
end KubeLens
