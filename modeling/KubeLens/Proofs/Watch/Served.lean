import KubeLens.Proofs.Watch.Law

/-!
# Watched keys and open feeds

While clusters answer gets, the books of a hub are balanced and no task waits in vain.  When every
task waits, it waits for its feed; so then the watched keys of sessions that are not cancelled,
their tasks and the live feeds correspond to each other one by one.
-/

namespace KubeLens
namespace Watch
/-! ## Held feeds -/

namespace Session

/-- What a session holds depends on the phases of its tasks only. -/
theorem held_eq_phases (session : Session) :
    session.held = (session.tasks.map (·.phase)).filterMap Phase.spot? := by
  unfold Session.held
  rw [List.filterMap_map]
  rfl

theorem Speaks.held {before after : Session} (speaks : before.Speaks after) :
    after.held = before.held := by
  obtain ⟨started, phases⟩ := speaks.phases
  rw [held_eq_phases, phases, List.filterMap_append, ← held_eq_phases]
  have free : (List.replicate started Phase.starting).filterMap Phase.spot? = [] := by
    rw [List.filterMap_eq_nil_iff]
    intro phase present
    rw [List.eq_of_mem_replicate present]
    rfl
  rw [free, List.append_nil]

theorem mem_watchedKeys {session : Session} {key : String} :
    key ∈ session.watchedKeys ↔ key ∈ Assoc.keys session.watches := by
  unfold Session.watchedKeys
  exact List.mem_mergeSort

/-- Where keys are distinct, one task has the key of a task. -/
theorem filter_key {tasks : List Task} (nodup : (tasks.map Task.key).Nodup) {task : Task}
    (present : task ∈ tasks) : tasks.filter (·.key == task.key) = [task] := by
  induction tasks with
  | nil => cases present
  | cons first rest ih =>
      obtain ⟨fresh, nodupRest⟩ := List.nodup_cons.mp nodup
      rcases List.mem_cons.mp present with rfl | later
      · have others : rest.filter (·.key == task.key) = [] := by
          refine List.filter_eq_nil_iff.mpr fun other stored same => fresh ?_
          exact List.mem_map.mpr ⟨other, stored, by simpa using same⟩
        rw [List.filter_cons_of_pos (by simp), others]
      · have different : first.key ≠ task.key := fun equal =>
          fresh (List.mem_map.mpr ⟨task, later, equal.symm⟩)
        rw [List.filter_cons_of_neg (by simpa using different), ih nodupRest later]

end Session

namespace Hub

/-- The spots that the tasks of all sessions hold. -/
def held (hub : Hub) : List Spot :=
  hub.sessions.flatMap Session.held

/-- How often the tasks of the other sessions hold a spot. -/
def heldBut (hub : Hub) (id : Nat) (spot : Spot) : Nat :=
  ((hub.sessions.take id).flatMap Session.held).count spot +
    ((hub.sessions.drop (id + 1)).flatMap Session.held).count spot

theorem count_held_put {hub : Hub} {id : Nat} (inside : id < hub.sessions.length)
    (session : Session) (spot : Spot) :
    (hub.put id session).held.count spot = hub.heldBut id spot + session.held.count spot := by
  unfold Hub.held Hub.put heldBut
  rw [List.set_eq_take_append_cons_drop, if_pos inside, List.flatMap_append, List.flatMap_cons,
    List.count_append, List.count_append]
  omega

theorem count_held {hub : Hub} {id : Nat} (inside : id < hub.sessions.length) (spot : Spot) :
    hub.held.count spot = hub.heldBut id spot + (hub.session id).held.count spot := by
  rw [← count_held_put inside, put_session]

/-! ## Books -/

/-- Tasks and watched keys agree, each open feed is held once, and nothing else is held. -/
structure Booked (site : Site) (hub : Hub) : Prop where
  coherent : ∀ session ∈ hub.sessions, session.Coherent
  books : ∀ spot, hub.held.count spot = (site.fleet.isOpenAt spot).toNat
  keys_nodup : (Assoc.keys site.fleet.clusters).Nodup

namespace Booked

variable {site : Site} {hub : Hub}

theorem serve {after : Site}
    (isOpenAt : ∀ spot, after.fleet.isOpenAt spot = site.fleet.isOpenAt spot)
    (keys_nodup : (Assoc.keys site.fleet.clusters).Nodup →
      (Assoc.keys after.fleet.clusters).Nodup) (booked : Booked site hub) : Booked after hub :=
  ⟨booked.coherent,
    fun spot => (booked.books spot).trans (congrArg Bool.toNat (isOpenAt spot).symm),
    keys_nodup booked.keys_nodup⟩

theorem speak {id : Nat} {after : Session} (inside : id < hub.sessions.length)
    (speaks : (hub.session id).Speaks after) (booked : Booked site hub) :
    Booked site (hub.put id after) := by
  refine ⟨fun session present => ?_, fun spot => ?_, booked.keys_nodup⟩
  · rcases mem_put present with old | rfl
    · exact booked.coherent session old
    · exact speaks.coherent (booked.coherent _ (session_mem inside))
  · rw [count_held_put inside, speaks.held, ← count_held inside]
    exact booked.books spot

theorem turn {id : Nat} {task : Task} {after : Turn} (inside : id < hub.sessions.length)
    (present : task ∈ (hub.session id).tasks)
    (change : task.Change (site, hub.session id) after) (booked : Booked site hub) :
    Booked after.1 (hub.put id after.2) := by
  have coherent := booked.coherent _ (session_mem inside)
  have balanced : Balanced (hub.heldBut id) (site, hub.session id) :=
    ⟨fun spot => by rw [← count_held inside]; exact booked.books spot, booked.keys_nodup⟩
  have books := change.balanced coherent present balanced
  refine ⟨fun session stored => ?_, fun spot => ?_, books.keys_nodup⟩
  · rcases mem_put stored with old | rfl
    · exact booked.coherent session old
    · exact change.coherent coherent present
  · rw [count_held_put inside]
    exact books.books spot

theorem openSession (context? : Option String) (booked : Booked site hub) :
    Booked site (hub.openSession context?).2 := by
  refine ⟨fun session present => ?_, fun spot => ?_, booked.keys_nodup⟩
  · rcases List.mem_append.mp present with old | fresh
    · exact booked.coherent session old
    · rw [List.mem_singleton.mp fresh]
      exact Session.Coherent.fresh _ _
  · rw [← booked.books spot]
    unfold Hub.held Hub.openSession
    rw [List.flatMap_append]
    simp [Session.held]

/-- That the books are balanced is a law of hubs. -/
theorem law : Law Booked where
  serve same := serve (Fleet.SameOpen.isOpenAt same) same.keys_nodup
  speak := speak
  turn := turn
  openSession := openSession
  cancel booked := ⟨booked.coherent, booked.books, booked.keys_nodup⟩

/-- A feed is held by one task. -/
theorem holder_unique (booked : Booked site hub) {id place : Nat} {task other : Task} {spot : Spot}
    (inside : id < hub.sessions.length) (elsewhere : place < hub.sessions.length)
    (present : task ∈ (hub.session id).tasks) (holds : task.spot? = some spot)
    (stored : other ∈ (hub.session place).tasks) (also : other.spot? = some spot) :
    place = id ∧ other = task := by
  have once : hub.held.count spot ≤ 1 := by
    rw [booked.books spot]
    exact Bool.toNat_le _
  have coherent := booked.coherent _ (session_mem inside)
  rw [count_held inside, Session.count_held coherent present, holds] at once
  have own : holding (some spot) spot = 1 := if_pos rfl
  have others : hub.heldBut id spot = 0 ∧
      ((hub.session id).dropTask task.generation).held.count spot = 0 := by omega
  by_cases same : place = id
  · subst same
    refine ⟨rfl, ?_⟩
    by_contra different
    have left : other ∈ ((hub.session place).dropTask task.generation).tasks :=
      List.mem_filter.mpr ⟨stored, by
        simpa using fun equal => different (coherent.task_unique stored present equal)⟩
    exact List.count_eq_zero.mp others.2 (List.mem_filterMap.mpr ⟨other, left, also⟩)
  · exfalso
    have held : spot ∈ (hub.session place).held := List.mem_filterMap.mpr ⟨other, stored, also⟩
    have here : hub.sessions[place]? = some (hub.session place) := by
      unfold Hub.session
      rw [List.getElem?_eq_getElem elsewhere]
      rfl
    obtain ⟨before, after⟩ := Nat.add_eq_zero_iff.mp others.1
    rcases Nat.lt_or_gt_of_ne same with earlier | later
    · refine List.count_eq_zero.mp before (List.mem_flatMap.mpr ⟨_, ?_, held⟩)
      exact List.mem_of_getElem? ((List.getElem?_take_of_lt earlier).trans here)
    · refine List.count_eq_zero.mp after (List.mem_flatMap.mpr ⟨_, ?_, held⟩)
      refine List.mem_of_getElem? (i := place - (id + 1)) ?_
      rw [List.getElem?_drop, Nat.add_sub_cancel' later]
      exact here

end Booked

/-! ## Answers -/

/-- Whether the tasks of all sessions wait in vain only for sources that `hung` holds of. -/
def WaitsOn (hung : Source → Prop) (hub : Hub) : Prop :=
  ∀ session ∈ hub.sessions, session.WaitsOn hung

namespace WaitsOn

variable {hung : Source → Prop} {site : Site} {hub : Hub} {id : Nat}

theorem put {after : Session} (waits : hub.WaitsOn hung) (still : after.WaitsOn hung) :
    (hub.put id after).WaitsOn hung := by
  intro session present
  rcases mem_put present with old | rfl
  · exact waits session old
  · exact still

theorem speak {after : Session} (inside : id < hub.sessions.length)
    (speaks : (hub.session id).Speaks after) (waits : hub.WaitsOn hung) :
    (hub.put id after).WaitsOn hung := by
  refine waits.put fun task stored => ?_
  obtain ⟨started, phases⟩ := speaks.phases
  have phase : task.phase ∈ after.tasks.map (·.phase) := List.mem_map_of_mem stored
  rw [phases] at phase
  rcases List.mem_append.mp phase with earlier | fresh
  · obtain ⟨before, known, same⟩ := List.mem_map.mp earlier
    rw [← same]
    exact waits _ (session_mem inside) before known
  · rw [List.eq_of_mem_replicate fresh]
    exact nofun

theorem turn {task : Task} {after : Turn} (inside : id < hub.sessions.length)
    (change : task.Change (site, hub.session id) after)
    (hangs : ∀ source : Source, source.Hangs site.fleet → hung source)
    (waits : hub.WaitsOn hung) : (hub.put id after.2).WaitsOn hung :=
  waits.put (change.waitsOn hangs (waits _ (session_mem inside)))

theorem openSession (context? : Option String) (waits : hub.WaitsOn hung) :
    (hub.openSession context?).2.WaitsOn hung := by
  intro session present
  rcases List.mem_append.mp present with old | fresh
  · exact waits session old
  · rw [List.mem_singleton.mp fresh]
    exact fun _ stored => absurd stored List.not_mem_nil

end WaitsOn

/-! ## Soundness -/

/-- The books are balanced, gets are answered, and no task waits in vain. -/
structure Sound (site : Site) (hub : Hub) : Prop extends Booked site hub where
  answers : site.fleet.Answers
  waits : hub.WaitsOn fun _ => False

namespace Sound

variable {site : Site} {hub : Hub}

theorem turn {id : Nat} {task : Task} {after : Turn} (inside : id < hub.sessions.length)
    (present : task ∈ (hub.session id).tasks)
    (change : task.Change (site, hub.session id) after) (sound : Sound site hub) :
    Sound after.1 (hub.put id after.2) := by
  refine ⟨sound.toBooked.turn inside present change, change.answers sound.answers,
    sound.waits.turn inside change fun source hangs => ?_⟩
  exact Bool.false_ne_true ((sound.answers source.client.context).symm.trans hangs)

/-- Soundness is a law of hubs. -/
theorem law : Law Sound where
  serve same sound := ⟨Booked.law.serve same sound.toBooked, same.answers sound.answers,
    sound.waits⟩
  speak inside speaks sound := ⟨sound.toBooked.speak inside speaks, sound.answers,
    sound.waits.speak inside speaks⟩
  turn := turn
  openSession context? sound := ⟨sound.toBooked.openSession context?, sound.answers,
    sound.waits.openSession context?⟩
  cancel sound := ⟨Booked.law.cancel sound.toBooked, sound.answers, sound.waits⟩

end Sound

/-! ## When every task waits -/

theorem canStep_of_isIdle {site : Site} {hub : Hub} (idle : hub.isIdle site = true)
    {session : Session} (opened : session ∈ hub.sessions) {task : Task}
    (present : task ∈ session.tasks) : task.canStep site session = false := by
  have nobody : hub.tasksWhere (fun session task => task.canStep site session) = [] := by
    simpa [isIdle, ready?] using idle
  unfold tasksWhere at nobody
  obtain ⟨place, inside, here⟩ := List.getElem_of_mem opened
  have entry : (session, place) ∈ hub.sessions.zipIdx := by
    rw [List.mk_mem_zipIdx_iff_getElem?, List.getElem?_eq_getElem inside, here]
  have none_here := List.flatMap_eq_nil_iff.mp nobody _ entry
  have noTask := List.filter_eq_nil_iff.mp (List.map_eq_nil_iff.mp none_here) task present
  simpa using noTask

/-- A task that waits, and neither in vain nor for room, waits for its feed; nobody cancelled
it. -/
theorem streaming_of_waiting {site : Site} {session : Session} {task : Task}
    (waiting : task.canStep site session = false) (goesOn : ∀ source, task.phase ≠ .stalled source)
    (room : session.accepts = true) :
    session.isCancelled = false ∧ task.isCancelled = false ∧
      ∃ source due, task.phase = .streaming source due ∧ Task.hasInput source site = false := by
  unfold Task.canStep at waiting
  obtain ⟨unstopped, waits⟩ := Bool.or_eq_false_iff.mp waiting
  cases phase : task.phase with
  | streaming source due =>
      rw [phase] at waits
      have uncancelled : task.isCancelled = false ∧ session.isCancelled = false := by
        simpa [Task.isStopping, phase, Phase.isRunning] using unstopped
      exact ⟨uncancelled.2, uncancelled.1, source, due, rfl, waits⟩
  | stalled source => exact absurd phase (goesOn source)
  | telling source message due? =>
      rw [phase] at waits
      exact absurd (room.symm.trans waits) Bool.true_eq_false.mp
  | reporting reason =>
      rw [phase] at waits
      exact absurd (room.symm.trans waits) Bool.true_eq_false.mp
  | _ =>
      rw [phase] at waits
      cases waits

/-- An open feed that is waited for is live: had the cluster ended it, there would be something
to do. -/
theorem isLiveAt_of_waiting {site : Site} {source : Source}
    (opened : site.fleet.isOpenAt source.spot = true)
    (waiting : Task.hasInput source site = false) : site.fleet.isLiveAt source.spot = true := by
  unfold Fleet.isOpenAt at opened
  unfold Fleet.isLiveAt
  obtain ⟨feed, found, isOpen⟩ := (Option.any_eq_true _ _).mp opened
  have same : source.feed? site = some feed := found
  rw [found]
  unfold Task.hasInput at waiting
  rw [same] at waiting
  rw [Option.any_some]
  cases attached : feed.isAttached with
  | true => simp [Feed.isLive, attached, isOpen]
  | false =>
      cases unread : feed.next? with
      | none => simp [Feed.isFinished, attached, unread] at waiting
      | some item => simp [unread] at waiting

/-- A watched key that one running task serves, which alone holds a live feed. -/
def Serves (hub : Hub) (site : Site) (session : Session) (key : String) : Prop :=
  ∃ task source due, session.tasks.filter (·.key == key) = [task] ∧
    task.isCancelled = false ∧ task.phase = .streaming source due ∧
    site.fleet.isLiveAt source.spot = true ∧ hub.held.count source.spot = 1

/-- How many keys are watched for the sessions that are not cancelled. -/
def watchedCount (hub : Hub) : Nat :=
  ((hub.sessions.filter (!·.isCancelled)).map (·.watchedKeys.length)).sum

theorem sum_of_each (sessions : List Session)
    (each : ∀ session ∈ sessions, session.held.length =
      if session.isCancelled then 0 else session.watchedKeys.length) :
    (sessions.map fun session => session.held.length).sum =
      ((sessions.filter (!·.isCancelled)).map (·.watchedKeys.length)).sum := by
  induction sessions with
  | nil => rfl
  | cons session rest ih =>
      have first := each session List.mem_cons_self
      have others := ih fun other present => each other (List.mem_cons_of_mem _ present)
      rw [List.map_cons, List.sum_cons, others, first]
      cases alive : session.isCancelled with
      | true => simp [alive]
      | false => simp [alive]

section Idle

variable {site : Site} {hub : Hub} (sound : Sound site hub) (idle : hub.isIdle site = true)
  (drained : ∀ session ∈ hub.sessions, session.accepts = true)

include sound idle drained

theorem idle_task {session : Session} (opened : session ∈ hub.sessions) {task : Task}
    (present : task ∈ session.tasks) :
    session.isCancelled = false ∧ task.isCancelled = false ∧
      ∃ source due, task.phase = .streaming source due ∧
        site.fleet.isLiveAt source.spot = true ∧ hub.held.count source.spot = 1 := by
  obtain ⟨alive, uncancelled, source, due, phase, waiting⟩ :=
    streaming_of_waiting (canStep_of_isIdle idle opened present)
      (sound.waits session opened task present) (drained session opened)
  have own : task.spot? = some source.spot := by
    simp [Task.spot?, phase, Phase.spot?, Phase.source?]
  have held : source.spot ∈ hub.held :=
    List.mem_flatMap.mpr ⟨session, opened, List.mem_filterMap.mpr ⟨task, present, own⟩⟩
  have once := sound.books source.spot
  have some_held := List.count_pos_iff.mpr held
  have isOpen : site.fleet.isOpenAt source.spot = true := by
    cases opened : site.fleet.isOpenAt source.spot with
    | true => rfl
    | false =>
        rw [opened] at once
        exact absurd once (Nat.ne_of_gt some_held)
  rw [isOpen] at once
  exact ⟨alive, uncancelled, source, due, phase, isLiveAt_of_waiting isOpen waiting, once⟩

/-- Held spots and live feeds are the same. -/
theorem idle_held_perm : hub.held.Perm site.fleet.liveSpots := by
  have nodup : hub.held.Nodup := by
    apply List.nodup_iff_count_le_one.mpr
    intro spot
    rw [sound.books spot]
    exact Bool.toNat_le _
  refine (List.perm_ext_iff_of_nodup nodup (Fleet.liveSpots_nodup sound.keys_nodup)).mpr ?_
  intro spot
  rw [Fleet.mem_liveSpots sound.keys_nodup]
  constructor
  · intro held
    obtain ⟨session, opened, own⟩ := List.mem_flatMap.mp held
    obtain ⟨task, present, holds⟩ := List.mem_filterMap.mp own
    obtain ⟨_, _, source, due, phase, live, _⟩ := idle_task sound idle drained opened present
    simp only [Task.spot?, phase, Phase.spot?, Phase.source?, Option.map_some,
      Option.some.injEq] at holds
    rwa [← holds]
  · intro live
    have opened : site.fleet.isOpenAt spot = true := by
      unfold Fleet.isLiveAt at live
      unfold Fleet.isOpenAt
      obtain ⟨feed, found, isLive⟩ := (Option.any_eq_true _ _).mp live
      rw [found]
      simp_all [Feed.isLive]
    have once := sound.books spot
    rw [opened] at once
    exact List.count_pos_iff.mp (by rw [once]; exact Nat.one_pos)

/-- Every task of a session holds a feed. -/
theorem idle_held_length {session : Session} (opened : session ∈ hub.sessions) :
    session.held.length = session.tasks.length := by
  unfold Session.held
  rw [List.length_filterMap_eq_countP, List.countP_eq_length]
  intro task present
  obtain ⟨_, _, source, due, phase, _, _⟩ := idle_task sound idle drained opened present
  simp [Task.spot?, phase, Phase.spot?, Phase.source?]

/-- A key is on the list of a session with the generation of the task that serves it. -/
theorem idle_listed {session : Session} (opened : session ∈ hub.sessions)
    (alive : session.isCancelled = false) {task : Task} (present : task ∈ session.tasks) :
    session.watches.get? task.key = some task.generation := by
  obtain ⟨_, uncancelled, source, due, phase, _, _⟩ := idle_task sound idle drained opened present
  have serving : task.role = ⟨task.generation, task.key, true⟩ := by
    simp [Task.role, Task.isServing, uncancelled, phase, Phase.isReporting]
  refine ((sound.coherent session opened).served alive task.key task.generation).mpr ?_
  rw [← serving]
  exact List.mem_map_of_mem present

theorem idle_keys_nodup {session : Session} (opened : session ∈ hub.sessions) :
    (session.tasks.map Task.key).Nodup := by
  have coherent := sound.coherent session opened
  have nodup := coherent.generations_nodup
  rw [Session.roles, List.map_map] at nodup
  apply (List.Nodup.of_map _ nodup).map_on
  intro first firstPresent second secondPresent same
  obtain ⟨alive, _⟩ := idle_task sound idle drained opened firstPresent
  have firstListed := idle_listed sound idle drained opened alive firstPresent
  have secondListed := idle_listed sound idle drained opened alive secondPresent
  rw [same, secondListed] at firstListed
  exact coherent.task_unique firstPresent secondPresent (Option.some.inj firstListed).symm

/-- The watched keys of a session are those that its tasks serve. -/
theorem idle_mem_watchedKeys {session : Session} (opened : session ∈ hub.sessions)
    (alive : session.isCancelled = false) {key : String} :
    key ∈ session.watchedKeys ↔ ∃ task ∈ session.tasks, task.key = key := by
  rw [Session.mem_watchedKeys, ← Assoc.get?_isSome_iff]
  constructor
  · rintro ⟨generation, listed⟩
    have served := ((sound.coherent session opened).served alive key generation).mp listed
    obtain ⟨task, present, role⟩ := List.mem_map.mp served
    exact ⟨task, present, congrArg Role.key role⟩
  · rintro ⟨task, present, rfl⟩
    exact ⟨_, idle_listed sound idle drained opened alive present⟩

/-- As many feeds are held for a session as keys are watched for it, or none if it is
cancelled. -/
theorem idle_held_eq_watched {session : Session} (opened : session ∈ hub.sessions) :
    session.held.length = if session.isCancelled then 0 else session.watchedKeys.length := by
  rw [idle_held_length sound idle drained opened]
  cases alive : session.isCancelled with
  | true =>
      rw [if_pos rfl, List.length_eq_zero_iff, List.eq_nil_iff_forall_not_mem]
      intro task present
      rw [(idle_task sound idle drained opened present).1] at alive
      cases alive
  | false =>
      have keys : (session.tasks.map Task.key).Perm (Assoc.keys session.watches) := by
        refine (List.perm_ext_iff_of_nodup (idle_keys_nodup sound idle drained opened)
          (sound.coherent session opened).keys_nodup).mpr fun key => ?_
        rw [← Session.mem_watchedKeys, idle_mem_watchedKeys sound idle drained opened alive, List.mem_map]
      have lengths := keys.length_eq
      rw [List.length_map] at lengths
      rw [lengths, if_neg (by simp)]
      exact (List.length_mergeSort _).symm

/-- As many feeds are open as keys are watched for sessions that are not cancelled. -/
theorem idle_openFeeds : site.fleet.openFeeds = hub.watchedCount := by
  rw [← Fleet.length_liveSpots, ← (idle_held_perm sound idle drained).length_eq, Hub.held, watchedCount,
    List.length_flatMap]
  exact sum_of_each hub.sessions fun session opened => idle_held_eq_watched sound idle drained opened

/-- Every watched key of a session that is not cancelled is served. -/
theorem idle_serves {session : Session} (opened : session ∈ hub.sessions)
    (alive : session.isCancelled = false) {key : String} (watched : key ∈ session.watchedKeys) :
    hub.Serves site session key := by
  obtain ⟨task, present, rfl⟩ := (idle_mem_watchedKeys sound idle drained opened alive).mp watched
  obtain ⟨_, uncancelled, source, due, phase, live, once⟩ := idle_task sound idle drained opened present
  exact ⟨task, source, due, Session.filter_key (idle_keys_nodup sound idle drained opened) present,
    uncancelled, phase, live, once⟩

end Idle

end Hub
end Watch
end KubeLens
