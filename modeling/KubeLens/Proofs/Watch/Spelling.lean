import KubeLens.Watch.Hub

/-!
# Ways to write that there is no namespace

A namespace can be left out, or be one of three texts that stand for none.  A task keeps its
descriptor as it was written, and what the task does depends on the namespace that is meant: with
all namespaces written as they are meant, a session does the same and says the same.
-/

namespace KubeLens

namespace Namespace

/-- The ways to write that there is no namespace. -/
def unset : List (Option String) :=
  [none, some "", some "undefined", some "null"]

/-- Whether two ways to write a namespace are the same, or both mean that there is none. -/
def Alike (rawSpace? other? : Option String) : Prop :=
  rawSpace? = other? ∨ rawSpace? ∈ unset ∧ other? ∈ unset

theorem normalize_eq_none_iff {rawSpace? : Option String} :
    normalize rawSpace? = none ↔ rawSpace? ∈ unset := by
  cases rawSpace? with
  | none => simp [normalize, unset]
  | some text =>
      by_cases empty : text = "" <;> by_cases undefined : text = "undefined" <;>
        simp [normalize, unset, isSentinel, empty, undefined]

theorem eq_of_normalize_eq_some {rawSpace? : Option String} {space : String}
    (meant : normalize rawSpace? = some space) : rawSpace? = some space :=
  (Option.filter_eq_some_iff.mp meant).1

theorem normalize_ne_empty {rawSpace? : Option String} {space : String}
    (meant : normalize rawSpace? = some space) : space ≠ "" := by
  rintro rfl
  have kept := (Option.filter_eq_some_iff.mp meant).2
  cases kept

/-- What is alike means the same namespace. -/
theorem alike_iff {rawSpace? other? : Option String} :
    Alike rawSpace? other? ↔ normalize rawSpace? = normalize other? := by
  constructor
  · rintro (rfl | ⟨one, other⟩)
    · rfl
    · rw [normalize_eq_none_iff.mpr one, normalize_eq_none_iff.mpr other]
  · intro same
    cases meant : normalize other? with
    | none =>
        exact .inr ⟨normalize_eq_none_iff.mp (same.trans meant), normalize_eq_none_iff.mp meant⟩
    | some space =>
        exact .inl ((eq_of_normalize_eq_some (same.trans meant)).trans
          (eq_of_normalize_eq_some meant).symm)

theorem normalize_normalize (rawSpace? : Option String) :
    normalize (normalize rawSpace?) = normalize rawSpace? := by
  unfold normalize
  rw [Option.filter_filter]
  simp

end Namespace

namespace Assoc

variable {κ ν μ : Type} [DecidableEq κ]

theorem get?_map (map : Assoc κ ν) (change : ν → μ) (key : κ) :
    get? (map.map fun entry => (entry.1, change entry.2)) key = (map.get? key).map change := by
  induction map with
  | nil => rfl
  | cons entry rest ih => by_cases same : entry.1 = key <;> simp [get?_cons, same, ih]

theorem put_map (map : Assoc κ ν) (change : ν → μ) (key : κ) (value : ν) :
    put (map.map fun entry => (entry.1, change entry.2)) key (change value) =
      (map.put key value).map fun entry => (entry.1, change entry.2) := by
  induction map with
  | nil => rfl
  | cons entry rest ih => by_cases same : entry.1 = key <;> simp [put, same, ih]

end Assoc

namespace Watch

/-! ## Descriptors -/

namespace Descriptor

/-- A descriptor with the namespace that it means. -/
def canonical (descriptor : Descriptor) : Descriptor :=
  { descriptor with rawSpace? := descriptor.space? }

@[simp] theorem space?_canonical (descriptor : Descriptor) :
    descriptor.canonical.space? = descriptor.space? :=
  Namespace.normalize_normalize descriptor.rawSpace?

@[simp] theorem key_canonical (descriptor : Descriptor) :
    descriptor.canonical.key = descriptor.key := by
  unfold key
  rw [space?_canonical]
  rfl

@[simp] theorem stub_canonical (descriptor : Descriptor) :
    descriptor.canonical.stub = descriptor.stub := by
  unfold stub
  rw [space?_canonical]
  rfl

@[simp] theorem change?_canonical (descriptor : Descriptor) :
    descriptor.canonical.change? = descriptor.change? := by
  funext event
  unfold change? isAbout
  rw [space?_canonical, stub_canonical]
  rfl

@[simp] theorem fault?_canonical (descriptor : Descriptor) :
    Session.fault? descriptor.canonical = Session.fault? descriptor :=
  rfl

@[simp] theorem canonical_canonical (descriptor : Descriptor) :
    descriptor.canonical.canonical = descriptor.canonical := by
  unfold canonical
  exact congrArg (fun space? => { descriptor with rawSpace? := space? })
    descriptor.space?_canonical

end Descriptor

/-! ## Tasks -/

namespace Task

/-- A task for the namespace that its descriptor means. -/
def canonical (task : Task) : Task :=
  { task with descriptor := task.descriptor.canonical }

variable (task : Task)

@[simp] theorem canonical_canonical : task.canonical.canonical = task.canonical := by
  unfold canonical
  rw [Descriptor.canonical_canonical]

@[simp] theorem canonical_generation : task.canonical.generation = task.generation := rfl

@[simp] theorem canonical_phase : task.canonical.phase = task.phase := rfl

@[simp] theorem canonical_context? : task.canonical.context? = task.context? := rfl

@[simp] theorem key_canonical : task.canonical.key = task.key :=
  task.descriptor.key_canonical

@[simp] theorem farewell_canonical : task.canonical.farewell = task.farewell := by
  funext ending
  cases ending <;> rfl

@[simp] theorem firstMessage_canonical : task.canonical.firstMessage = task.firstMessage := by
  funext answer
  unfold firstMessage canonical
  simp only [Descriptor.stub_canonical]
  rfl

@[simp] theorem laterMessage?_canonical :
    task.canonical.laterMessage? = task.laterMessage? := by
  funext answer
  unfold laterMessage? canonical
  simp only [Descriptor.stub_canonical]

@[simp] theorem itemMessage?_canonical : task.canonical.itemMessage? = task.itemMessage? := by
  funext item
  unfold itemMessage? canonical
  simp only [Descriptor.change?_canonical]
  rfl

end Task

/-! ## Sessions -/

namespace Session

/-- A session whose tasks are for the namespaces that their descriptors mean. -/
def canonical (session : Session) : Session :=
  { session with tasks := session.tasks.map Task.canonical }

variable (session : Session)

@[simp] theorem canonical_context? : session.canonical.context? = session.context? := rfl

@[simp] theorem canonical_watches : session.canonical.watches = session.watches := rfl

@[simp] theorem canonical_isClosed : session.canonical.isClosed = session.isClosed := rfl

@[simp] theorem canonical_tasks : session.canonical.tasks = session.tasks.map Task.canonical := rfl

@[simp] theorem canonical_canonical : session.canonical.canonical = session.canonical := by
  unfold canonical
  simp [Function.comp_def]

/-- A change of all tasks that can be seen on canonical tasks. -/
theorem canonical_modify (change : Task → Task)
    (respects : ∀ task, change task.canonical = (change task).canonical) :
    ({ session.canonical with tasks := session.canonical.tasks.map change } : Session) =
      ({ session with tasks := session.tasks.map change } : Session).canonical := by
  unfold canonical
  simp [Function.comp_def, respects]

@[simp] theorem post_canonical (origin : Option Nat) (message : Message) :
    session.canonical.post origin message = (session.post origin message).canonical := by
  cases cancelled : session.isCancelled <;> cases attached : session.isAttached <;>
    simp [post, canonical, cancelled, attached]

@[simp] theorem owe_canonical (messages : List Message) :
    session.canonical.owe messages = (session.owe messages).canonical := rfl

@[simp] theorem accepts_canonical : session.canonical.accepts = session.accepts := rfl

@[simp] theorem reply_canonical : session.canonical.reply = session.reply.canonical := by
  unfold reply
  rw [accepts_canonical, show session.canonical.replies = session.replies from rfl]
  cases session.replies with
  | nil => rfl
  | cons message rest =>
      cases session.accepts with
      | true => exact ({ session with replies := rest } : Session).post_canonical none message
      | false => rfl

theorem registered_canonical :
    session.canonical.registered = session.registered.map Task.canonical := by
  unfold registered
  rw [canonical_tasks, List.filter_map]
  rfl

@[simp] theorem pin_canonical (active? : Option String) :
    session.canonical.pin active? = (session.pin active?).canonical := rfl

@[simp] theorem start_canonical (descriptor : Descriptor) :
    session.canonical.start descriptor.canonical = (session.start descriptor).canonical := by
  simp [start, canonical, Task.canonical]

@[simp] theorem setPhase_canonical (generation : Nat) (phase : Phase) :
    session.canonical.setPhase generation phase = (session.setPhase generation phase).canonical :=
  session.canonical_modify _ fun task => by
    by_cases own : task.generation = generation <;> simp [own, Task.canonical]

@[simp] theorem dropTask_canonical (generation : Nat) :
    session.canonical.dropTask generation = (session.dropTask generation).canonical := by
  unfold dropTask canonical
  simp [List.filter_map, Function.comp_def]

@[simp] theorem deregister_canonical (task : Task) :
    session.canonical.deregister task.canonical = (session.deregister task).canonical := by
  by_cases own : session.watches.get? task.key = some task.generation <;>
    simp [deregister, canonical, own]

@[simp] theorem task?_canonical (generation : Nat) :
    session.canonical.task? generation = (session.task? generation).map Task.canonical := by
  unfold task?
  simp [List.find?_map, Function.comp_def]

@[simp] theorem unwatch_canonical (key : String) :
    session.canonical.unwatch key = (session.unwatch key).canonical := by
  unfold unwatch
  rw [canonical_watches]
  cases session.watches.get? key with
  | none => rfl
  | some generation =>
      exact ({ session with watches := session.watches.erase key } : Session).canonical_modify _
        fun task => by by_cases own : task.generation = generation <;> simp [own, Task.canonical]

/-! ## Control messages -/

end Session

/-- A message with the namespaces that it means. -/
def Control.canonical : Control → Control
  | .subscribe resource? resources? =>
    .subscribe (resource?.map Descriptor.canonical) (resources?.map (·.map Descriptor.canonical))
  | .unsubscribe resource? => .unsubscribe (resource?.map Descriptor.canonical)
  | .setContext context => .setContext context

namespace Session

theorem faults_canonical (descriptors : List Descriptor) :
    faults (descriptors.map Descriptor.canonical) = faults descriptors := by
  unfold faults
  rw [List.filterMap_map]
  rfl

theorem wanted_canonical (descriptors : List Descriptor) :
    wanted (descriptors.map Descriptor.canonical) =
      (wanted descriptors).map fun entry => (entry.1, entry.2.canonical) := by
  have folded (valid : List Descriptor) (earlier : Assoc String Descriptor) :
      (valid.map Descriptor.canonical).foldl
          (fun wanted descriptor => Assoc.put wanted descriptor.key descriptor)
          (earlier.map fun entry => (entry.1, entry.2.canonical)) =
        (valid.foldl (fun wanted descriptor => Assoc.put wanted descriptor.key descriptor)
          earlier).map fun entry => (entry.1, entry.2.canonical) := by
    induction valid generalizing earlier with
    | nil => rfl
    | cons descriptor rest ih =>
        rw [List.map_cons, List.foldl_cons, Descriptor.key_canonical, Assoc.put_map, ih,
          List.foldl_cons]
  unfold wanted
  rw [List.filter_map]
  exact folded _ []

theorem foldl_unwatch_canonical (session : Session) (keys : List String) :
    keys.foldl unwatch session.canonical = (keys.foldl unwatch session).canonical := by
  induction keys generalizing session with
  | nil => rfl
  | cons key rest ih => rw [List.foldl_cons, unwatch_canonical, ih, List.foldl_cons]

theorem foldl_start_canonical (session : Session) (wanted : Assoc String Descriptor) :
    (wanted.map fun entry => (entry.1, entry.2.canonical)).foldl (fun session entry =>
        if session.watches.has entry.1 then session else session.start entry.2)
        session.canonical =
      (wanted.foldl (fun session entry =>
        if session.watches.has entry.1 then session else session.start entry.2)
        session).canonical := by
  induction wanted generalizing session with
  | nil => rfl
  | cons entry rest ih =>
      rw [List.map_cons, List.foldl_cons, List.foldl_cons, ← ih]
      dsimp only
      by_cases present : session.watches.has entry.1 = true <;> simp [present]

theorem replace_canonical (session : Session) (active? : Option String)
    (descriptors : List Descriptor) :
    session.canonical.replace active? (descriptors.map Descriptor.canonical) =
      (session.replace active? descriptors).canonical := by
  unfold replace
  rw [canonical_isClosed, wanted_canonical, faults_canonical]
  cases session.isClosed with
  | true => rfl
  | false =>
      have pinned : (if (wanted descriptors).isEmpty then session.canonical
          else session.canonical.pin active?) =
        (if (wanted descriptors).isEmpty then session else session.pin active?).canonical := by
        split <;> rfl
      have named (key : String) :
          Assoc.has ((wanted descriptors).map fun entry => (entry.1, entry.2.canonical)) key =
            Assoc.has (wanted descriptors) key := by
        rw [Assoc.has, Assoc.get?_map, Option.isSome_map, Assoc.has]
      simp only [Bool.false_eq_true, if_false, List.isEmpty_map, pinned, named,
        canonical_watches, foldl_unwatch_canonical, foldl_start_canonical, owe_canonical]

theorem subscribe_canonical (session : Session) (active? : Option String)
    (descriptor : Descriptor) :
    session.canonical.subscribe active? descriptor.canonical =
      (session.subscribe active? descriptor).map canonical := by
  unfold subscribe
  rw [Descriptor.fault?_canonical, canonical_isClosed, canonical_watches, Descriptor.key_canonical,
    pin_canonical, start_canonical]
  cases fault? descriptor with
  | some error => rfl
  | none =>
      by_cases watched : (session.isClosed || session.watches.has descriptor.key) = true
      · simp only [if_pos watched]
        rfl
      · simp only [if_neg watched]
        rfl

theorem orReply_canonical (session : Session) (answer : Except ServiceError Session) :
    session.canonical.orReply (answer.map canonical) = (session.orReply answer).canonical := by
  cases answer <;> rfl

/-- A message does the same, whichever way the namespaces are written in it. -/
theorem handle_canonical (session : Session) (active? : Option String) (control : Control) :
    session.canonical.handle active? control.canonical =
      (session.handle active? control).canonical := by
  cases control with
  | subscribe resource? resources? =>
      cases resources? with
      | some resources => exact session.replace_canonical active? resources
      | none =>
          cases resource? with
          | some resource =>
              exact (congrArg session.canonical.orReply
                (session.subscribe_canonical active? resource)).trans (session.orReply_canonical _)
          | none => rfl
  | unsubscribe resource? =>
      cases resource? with
      | some resource =>
          exact (congrArg session.canonical.unwatch resource.key_canonical).trans
            (session.unwatch_canonical _)
      | none => rfl
  | setContext context => rfl

end Session

/-! ## Steps -/

/-- A site and a session whose tasks are for the namespaces that are meant. -/
def Turn.canonical (turn : Turn) : Turn :=
  (turn.1, turn.2.canonical)

namespace Task

theorem stop_canonical (task : Task) (turn : Turn) :
    task.canonical.stop turn.canonical = (task.stop turn).canonical :=
  congrArg (Prod.mk _) (turn.2.dropTask_canonical task.generation)

theorem tell_canonical (task : Task) (session : Session) (message : Message) :
    task.canonical.tell session.canonical message = (task.tell session message).canonical :=
  session.post_canonical _ message

theorem enter_canonical (task : Task) (session : Session) (phase : Phase) :
    task.canonical.enter session.canonical phase = (task.enter session phase).canonical :=
  session.setPhase_canonical task.generation phase

theorem connect_canonical (task : Task) (turn : Turn) :
    task.canonical.connect turn.canonical = (task.connect turn).canonical := by
  obtain ⟨site, session⟩ := turn
  simp only [connect, Turn.canonical]
  rw [canonical_context?]
  rcases site.resolve task.context? with ⟨answer, after⟩
  cases answer with
  | error error => exact congrArg (Prod.mk after) (task.enter_canonical session _)
  | ok handle => exact congrArg (Prod.mk after) (task.enter_canonical session _)

theorem pin_canonical (task : Task) (handle : Handle) (turn : Turn) :
    task.canonical.pin handle turn.canonical = (task.pin handle turn).canonical := by
  obtain ⟨site, session⟩ := turn
  simp only [pin, Turn.canonical]
  rw [canonical_context?]
  by_cases unset : task.context?.isNone = true
  · simp only [if_pos unset, Session.pin_canonical, enter_canonical]
  · simp only [if_neg unset, enter_canonical]

theorem subscribe_canonical (task : Task) (handle : Handle) (turn : Turn) :
    task.canonical.subscribe handle turn.canonical = (task.subscribe handle turn).canonical := by
  obtain ⟨site, session⟩ := turn
  simp only [subscribe, Turn.canonical, canonical, Descriptor.space?_canonical]
  simp only [Descriptor.canonical]
  cases GroupVersion.parseAllowCore task.descriptor.apiVersion with
  | error fault => exact congrArg (Prod.mk _) (task.enter_canonical session _)
  | ok gv => exact congrArg (Prod.mk _) (task.enter_canonical session _)

theorem read_canonical (task : Task) (source : Source) (site : Site) :
    task.canonical.read source site = task.read source site := by
  simp only [read, canonical, Descriptor.space?_canonical]
  rfl

theorem readFirst_canonical (task : Task) (source : Source) (turn : Turn) :
    task.canonical.readFirst source turn.canonical = (task.readFirst source turn).canonical := by
  obtain ⟨site, session⟩ := turn
  simp only [readFirst, Turn.canonical, read_canonical, firstMessage_canonical]
  rcases task.read source site with ⟨answer?, after⟩
  cases answer? with
  | none => exact congrArg (Prod.mk after) (task.enter_canonical session _)
  | some answer => exact congrArg (Prod.mk after) (task.enter_canonical session _)

theorem readAgain_canonical (task : Task) (source : Source) (due : Nat) (turn : Turn) :
    task.canonical.readAgain source due turn.canonical =
      (task.readAgain source due turn).canonical := by
  obtain ⟨site, session⟩ := turn
  simp only [readAgain, Turn.canonical, read_canonical, laterMessage?_canonical]
  rcases task.read source site with ⟨answer?, after⟩
  cases answer? with
  | none => exact congrArg (Prod.mk after) (task.enter_canonical session _)
  | some answer => exact congrArg (Prod.mk after) (task.enter_canonical session _)

theorem take_canonical (task : Task) (source : Source) (due : Nat) (turn : Turn) :
    task.canonical.take source due turn.canonical = (task.take source due turn).canonical := by
  obtain ⟨site, session⟩ := turn
  simp only [take, Turn.canonical, itemMessage?_canonical]
  cases (source.feed? site).bind Feed.next? with
  | none => exact congrArg (Prod.mk _) (task.enter_canonical session _)
  | some item => exact congrArg (Prod.mk _) (task.enter_canonical session _)

/-- A task makes the same step, whichever way its namespace is written. -/
theorem step_canonical (task : Task) (due : Nat) (turn : Turn) :
    task.canonical.step due turn.canonical = (task.step due turn).canonical := by
  have same : task.canonical.isStopping turn.canonical.2 = task.isStopping turn.2 := rfl
  unfold step
  rw [same]
  cases task.isStopping turn.2 with
  | true => exact task.stop_canonical turn
  | false =>
      simp only [Bool.false_eq_true, if_false, canonical_phase]
      cases task.phase with
      | starting => exact task.connect_canonical turn
      | resolved handle => exact task.pin_canonical handle turn
      | connected handle => exact task.subscribe_canonical handle turn
      | opened source => exact task.readFirst_canonical source turn
      | telling source message due? =>
          simp only [Turn.canonical, tell_canonical, enter_canonical]
      | streaming source next => exact task.take_canonical source next turn
      | stalled source => rfl
      | ending reason =>
          simp only [Turn.canonical, Session.deregister_canonical, enter_canonical]
      | reporting reason =>
          simp only [Turn.canonical, farewell_canonical, tell_canonical, canonical_generation,
            Session.dropTask_canonical]

/-- A task reads again the same, whichever way its namespace is written. -/
theorem tick_canonical (task : Task) (period : Nat) (turn : Turn) :
    task.canonical.tick period turn.canonical = (task.tick period turn).canonical := by
  have same : task.canonical.isStopping turn.canonical.2 = task.isStopping turn.2 := rfl
  unfold tick
  rw [same]
  cases task.isStopping turn.2 with
  | true => exact task.stop_canonical turn
  | false =>
      simp only [Bool.false_eq_true, if_false, canonical_phase]
      cases task.phase with
      | streaming source due => exact task.readAgain_canonical source (due + period) turn
      | starting => rfl
      | resolved handle => rfl
      | connected handle => rfl
      | opened source => rfl
      | telling source message due? => rfl
      | stalled source => rfl
      | ending reason => rfl
      | reporting reason => rfl

end Task

/-! ## The hub -/

namespace Hub

/-- A hub whose tasks are for the namespaces that are meant. -/
def canonical (hub : Hub) : Hub :=
  { hub with sessions := hub.sessions.map Session.canonical }

variable (hub : Hub)

@[simp] theorem canonical_canonical : hub.canonical.canonical = hub.canonical := by
  unfold canonical
  simp [Function.comp_def]

@[simp] theorem session_canonical (id : Nat) :
    hub.canonical.session id = (hub.session id).canonical := by
  unfold session canonical
  rw [List.getElem?_map]
  cases hub.sessions[id]? <;> rfl

@[simp] theorem put_canonical (id : Nat) (session : Session) :
    hub.canonical.put id session.canonical = (hub.put id session).canonical := by
  unfold put canonical
  rw [List.map_set]

theorem openSession_canonical (context? : Option String) :
    hub.canonical.openSession context? =
      ((hub.openSession context?).1, (hub.openSession context?).2.canonical) := by
  unfold openSession canonical
  simp [Session.canonical]

theorem foldl_stop_canonical (tasks : List Task) (turn : Turn) :
    (tasks.map Task.canonical).foldl (fun turn task => task.stop turn) turn.canonical =
      (tasks.foldl (fun turn task => task.stop turn) turn).canonical := by
  induction tasks generalizing turn with
  | nil => rfl
  | cons task rest ih =>
      rw [List.map_cons, List.foldl_cons, List.foldl_cons, ← ih, Task.stop_canonical]

theorem closeSession_canonical (site : Site) (id : Nat) :
    hub.canonical.closeSession site id =
      ((hub.closeSession site id).1, (hub.closeSession site id).2.canonical) := by
  unfold closeSession
  have listed : hub.canonical.sessions[id]? = (hub.sessions[id]?).map Session.canonical :=
    List.getElem?_map
  rw [listed]
  cases hub.sessions[id]? with
  | none => rfl
  | some session =>
      have stopped := foldl_stop_canonical session.registered (site, session.close)
      have closed : (Turn.canonical (site, session.close)) = (site, session.canonical.close) := rfl
      simp only [Option.map_some]
      rw [session.registered_canonical, ← closed, stopped]
      exact congrArg (Prod.mk _) (hub.put_canonical id _)

theorem shutdown_canonical (site : Site) :
    hub.canonical.shutdown site =
      ((hub.shutdown site).1, (hub.shutdown site).2.canonical) := by
  have folded (ids : List Nat) (site : Site) (hub : Hub) :
      ids.foldl (fun state id => closeSession state.2 state.1 id) (site, hub.canonical) =
        ((ids.foldl (fun state id => closeSession state.2 state.1 id) (site, hub)).1,
          (ids.foldl (fun state id => closeSession state.2 state.1 id)
            (site, hub)).2.canonical) := by
    induction ids generalizing site hub with
    | nil => rfl
    | cons id rest ih => rw [List.foldl_cons, closeSession_canonical, ih, List.foldl_cons]
  unfold shutdown
  rw [show hub.canonical.sessions.length = hub.sessions.length from List.length_map _]
  exact folded _ site { hub with isCancelled := true }

/-- What a task does for a session is the same, whichever way namespaces are written. -/
theorem runTask_canonical (site : Site) (id generation : Nat) (act : Task → Turn → Turn)
    (respects : ∀ task turn,
      act task.canonical (Turn.canonical turn) = (act task turn).canonical) :
    runTask site hub.canonical id generation act =
      ((runTask site hub id generation act).1,
        (runTask site hub id generation act).2.canonical) := by
  unfold runTask
  rw [session_canonical, Session.task?_canonical]
  cases (hub.session id).task? generation with
  | none => rfl
  | some task =>
      have acted := respects task (site, hub.session id)
      have shown : Turn.canonical (site, hub.session id) = (site, (hub.session id).canonical) := rfl
      simp only [Option.map_some]
      rw [← shown, acted]
      exact congrArg (Prod.mk _) (hub.put_canonical id _)

theorem tasksWhere_canonical (p : Session → Task → Bool)
    (respects : ∀ session task, p session.canonical task.canonical = p session task) :
    hub.canonical.tasksWhere p = hub.tasksWhere p := by
  unfold tasksWhere canonical
  simp [List.zipIdx_map, List.flatMap_map, List.filter_map, Function.comp_def, respects]

theorem tasks_canonical :
    hub.canonical.sessions.flatMap (·.tasks) =
      (hub.sessions.flatMap (·.tasks)).map Task.canonical := by
  unfold canonical
  simp [List.flatMap_map, List.map_flatMap]

theorem answering?_canonical : hub.canonical.answering? = hub.answering? := by
  unfold answering? canonical
  rw [List.findIdx?_map]
  rfl

theorem nextDue?_canonical : hub.canonical.nextDue? = hub.nextDue? := by
  unfold nextDue?
  rw [tasks_canonical, List.filterMap_map]
  rfl

theorem run_canonical (now fuel : Nat) (site : Site) :
    run now fuel site hub.canonical =
      ((run now fuel site hub).1, (run now fuel site hub).2.canonical) := by
  induction fuel generalizing site hub with
  | zero => rfl
  | succ fuel ih =>
      have same : ready? site hub.canonical = ready? site hub :=
        congrArg List.head? (hub.tasksWhere_canonical _ fun _ _ => rfl)
      simp only [run, same, answering?_canonical]
      cases hub.answering? with
      | some id =>
          dsimp only
          rw [session_canonical, Session.reply_canonical, put_canonical, ih]
      | none =>
          cases ready? site hub with
          | none => rfl
          | some place =>
              have stepped := hub.runTask_canonical site place.1 place.2
                (fun task turn => task.step (now + hub.period) turn)
                fun task turn => task.step_canonical _ turn
              exact (congrArg (fun state => run now fuel state.1 state.2) stepped).trans (ih _ _)

theorem settle_canonical (now : Nat) (site : Site) :
    hub.canonical.settle now site =
      ((hub.settle now site).1, (hub.settle now site).2.canonical) := by
  have same : stepBound site hub.canonical = stepBound site hub := by
    simp only [stepBound, canonical, Session.stepsLeft, Session.canonical, List.foldr_map]
    rfl
  unfold settle
  rw [same]
  exact hub.run_canonical now _ site

theorem tickAll_canonical (now : Nat) (site : Site) :
    tickAll now site hub.canonical =
      ((tickAll now site hub).1, (tickAll now site hub).2.canonical) := by
  have folded (places : List (Nat × Nat)) (site : Site) (hub' : Hub) :
      places.foldl (fun state place => runTask state.1 state.2 place.1 place.2 fun task turn =>
          task.tick hub.period turn) (site, hub'.canonical) =
        ((places.foldl (fun state place => runTask state.1 state.2 place.1 place.2
            fun task turn => task.tick hub.period turn) (site, hub')).1,
          (places.foldl (fun state place => runTask state.1 state.2 place.1 place.2
            fun task turn => task.tick hub.period turn) (site, hub')).2.canonical) := by
    induction places generalizing site hub' with
    | nil => rfl
    | cons place rest ih =>
        rw [List.foldl_cons,
          runTask_canonical _ _ _ _ _ fun task turn => task.tick_canonical _ turn, ih,
          List.foldl_cons]
  unfold tickAll
  rw [tasksWhere_canonical _ _ fun _ _ => rfl]
  exact folded _ site hub

theorem passTo_canonical (goal fuel : Nat) (site : Site) :
    passTo goal fuel site hub.canonical =
      ((passTo goal fuel site hub).1, (passTo goal fuel site hub).2.canonical) := by
  induction fuel generalizing site hub with
  | zero => rfl
  | succ fuel ih =>
      simp only [passTo, nextDue?_canonical]
      cases hub.nextDue? with
      | none => rfl
      | some due =>
          by_cases reached : due ≤ goal
          · simp only [if_pos reached, tickAll_canonical, settle_canonical, ih]
          · simp only [if_neg reached]

theorem advance_canonical (now span : Nat) (site : Site) :
    hub.canonical.advance now span site =
      ((hub.advance now span site).1, (hub.advance now span site).2.canonical) := by
  unfold advance
  rw [tasks_canonical, List.length_map]
  exact hub.passTo_canonical _ _ site

end Hub
end Watch
end KubeLens
