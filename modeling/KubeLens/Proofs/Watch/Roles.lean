import Mathlib.Data.List.Nodup
import KubeLens.Watch.Session

/-!
# Tasks and watched keys

A session counts an object as watched under its key, and gives it to a task.  The two agree as
long as the session is not cancelled: a key is watched exactly when a task that was neither
cancelled nor taken off the list serves it.  What a task does in between does not matter here, so
a task is looked at through its role.
-/

namespace KubeLens
namespace Watch

/-! ## Roles -/

/-- What the list of watched keys has to do with a task. -/
structure Role where
  generation : Nat
  key : String
  isServing : Bool
  deriving DecidableEq, Repr

/-- Whether the object of a task was taken off the list. -/
def Phase.isReporting : Phase → Bool
  | reporting _ => true
  | _ => false

/-- Whether the object of a task counts as watched, as far as the task is concerned. -/
def Task.isServing (task : Task) : Bool :=
  !task.isCancelled && !task.phase.isReporting

/-- The role of a task. -/
def Task.role (task : Task) : Role :=
  { generation := task.generation, key := task.key, isServing := task.isServing }

/-- The role with a generation serves no more. -/
def Role.retire (generation : Nat) (role : Role) : Role :=
  if role.generation = generation then { role with isServing := false } else role

@[simp] theorem Role.retire_generation (generation : Nat) (role : Role) :
    (role.retire generation).generation = role.generation := by
  unfold Role.retire
  split <;> rfl

theorem Role.retire_self (role : Role) :
    role.retire role.generation = { role with isServing := false } :=
  if_pos rfl

theorem Role.retire_of_ne {role : Role} {generation : Nat}
    (different : role.generation ≠ generation) : role.retire generation = role :=
  if_neg different

namespace Session

/-- The roles of all tasks. -/
def roles (session : Session) : List Role :=
  session.tasks.map Task.role

@[simp] theorem start_watches (session : Session) (descriptor : Descriptor) :
    (session.start descriptor).watches =
      session.watches.put descriptor.key session.nextGeneration := rfl

@[simp] theorem cancelTask_watches (session : Session) (generation : Nat) :
    (session.cancelTask generation).watches = session.watches := rfl

@[simp] theorem dropTask_watches (session : Session) (generation : Nat) :
    (session.dropTask generation).watches = session.watches := rfl

theorem roles_setPhase (session : Session) (generation : Nat) (phase : Phase)
    (kept : ∀ task ∈ session.tasks, task.generation = generation →
      task.phase.isReporting = phase.isReporting) :
    (session.setPhase generation phase).roles = session.roles := by
  unfold roles setPhase
  rw [List.map_map]
  apply List.map_congr_left
  intro task present
  by_cases same : task.generation = generation
  · simp [same, Task.role, Task.key, Task.isServing, kept task present same]
  · simp [same]

theorem roles_report (session : Session) (generation : Nat) (reason : Ending) :
    (session.setPhase generation (.reporting reason)).roles =
      session.roles.map (Role.retire generation) := by
  unfold roles setPhase
  rw [List.map_map, List.map_map]
  apply List.map_congr_left
  intro task _
  by_cases same : task.generation = generation
  · simp [same, Task.role, Task.key, Task.isServing, Phase.isReporting, Role.retire]
  · simp [same, Task.role, Role.retire]

theorem roles_cancelTask (session : Session) (generation : Nat) :
    (session.cancelTask generation).roles = session.roles.map (Role.retire generation) := by
  unfold roles cancelTask
  rw [List.map_map, List.map_map]
  apply List.map_congr_left
  intro task _
  by_cases same : task.generation = generation
  · simp [same, Task.role, Task.key, Task.isServing, Role.retire]
  · simp [same, Task.role, Role.retire]

theorem roles_dropTask (session : Session) (generation : Nat) :
    (session.dropTask generation).roles =
      session.roles.filter (·.generation != generation) := by
  unfold roles dropTask
  rw [List.filter_map]
  rfl

/-! ## Coherence -/

/-- Tasks and watched keys agree. -/
structure Coherent (session : Session) : Prop where
  generations_nodup : (session.roles.map (·.generation)).Nodup
  role_below : ∀ role ∈ session.roles, role.generation < session.nextGeneration
  keys_nodup : (Assoc.keys session.watches).Nodup
  watch_below : ∀ key generation, session.watches.get? key = some generation →
    generation < session.nextGeneration
  served : session.isCancelled = false → ∀ key generation,
    session.watches.get? key = some generation ↔ ⟨generation, key, true⟩ ∈ session.roles

namespace Coherent

variable {session after : Session}

/-- Nothing is watched, and there are no tasks. -/
theorem fresh (context? : Option String) (isCancelled : Bool) :
    Coherent { context?, isCancelled } :=
  ⟨List.nodup_nil, nofun, List.nodup_nil, nofun, fun _ _ _ => ⟨nofun, nofun⟩⟩

/-- A generation belongs to one role. -/
theorem role_unique (coherent : session.Coherent) {first second : Role}
    (firstPresent : first ∈ session.roles) (secondPresent : second ∈ session.roles)
    (same : first.generation = second.generation) : first = second :=
  List.inj_on_of_nodup_map coherent.generations_nodup firstPresent secondPresent same

/-- What changes neither roles nor watched keys keeps them in agreement. -/
theorem frame (coherent : session.Coherent) (roles : after.roles = session.roles)
    (watches : after.watches = session.watches)
    (next : after.nextGeneration = session.nextGeneration)
    (cancelled : after.isCancelled = false → session.isCancelled = false) :
    after.Coherent := by
  refine ⟨?_, ?_, ?_, ?_, ?_⟩
  · rw [roles]
    exact coherent.generations_nodup
  · rw [roles, next]
    exact coherent.role_below
  · rw [watches]
    exact coherent.keys_nodup
  · rw [watches, next]
    exact coherent.watch_below
  · rw [roles, watches]
    exact fun alive => coherent.served (cancelled alive)

/-- A generation is taken off the list, and its role retires. -/
theorem withdraw (coherent : session.Coherent) (generation : Nat)
    (roles : after.roles = session.roles.map (Role.retire generation))
    (keys_nodup : (Assoc.keys after.watches).Nodup)
    (watches : ∀ key other, after.watches.get? key = some other →
      session.watches.get? key = some other)
    (listed : session.isCancelled = false → ∀ key other,
      after.watches.get? key = some other ↔
        session.watches.get? key = some other ∧ other ≠ generation)
    (next : after.nextGeneration = session.nextGeneration)
    (cancelled : after.isCancelled = session.isCancelled) : after.Coherent := by
  refine ⟨?_, ?_, keys_nodup, ?_, ?_⟩
  · rw [roles, List.map_map]
    simpa [Function.comp_def] using coherent.generations_nodup
  · rw [roles, next]
    intro role present
    obtain ⟨before, stored, rfl⟩ := List.mem_map.mp present
    rw [Role.retire_generation]
    exact coherent.role_below before stored
  · rw [next]
    exact fun key other found => coherent.watch_below key other (watches key other found)
  · rw [cancelled, roles]
    intro alive key other
    rw [listed alive, coherent.served alive]
    constructor
    · rintro ⟨present, different⟩
      exact List.mem_map.mpr ⟨_, present, Role.retire_of_ne different⟩
    · intro present
      obtain ⟨before, stored, retired⟩ := List.mem_map.mp present
      by_cases same : before.generation = generation
      · rw [← same, before.retire_self] at retired
        cases congrArg Role.isServing retired
      · rw [Role.retire_of_ne same] at retired
        subst retired
        exact ⟨stored, same⟩

/-- A task that does not serve, or one of a cancelled session, can go. -/
theorem dropTask (coherent : session.Coherent) {generation : Nat}
    (idle : session.isCancelled = false → ∀ role ∈ session.roles,
      role.generation = generation → role.isServing = false) :
    (session.dropTask generation).Coherent := by
  have kept : ∀ role ∈ (session.dropTask generation).roles, role ∈ session.roles := by
    intro role present
    rw [roles_dropTask] at present
    exact (List.mem_filter.mp present).1
  refine ⟨?_, fun role present => coherent.role_below role (kept role present),
    coherent.keys_nodup, coherent.watch_below, ?_⟩
  · rw [roles_dropTask]
    exact coherent.generations_nodup.sublist (List.filter_sublist.map _)
  · intro alive key other
    rw [dropTask_watches, coherent.served alive, roles_dropTask, List.mem_filter]
    constructor
    · intro present
      refine ⟨present, ?_⟩
      simp only [bne_iff_ne, ne_eq]
      intro same
      cases idle alive _ present same
    · exact And.left

/-- A task is started for an object that is not watched. -/
theorem start (coherent : session.Coherent) {descriptor : Descriptor}
    (absent : session.watches.get? descriptor.key = none) :
    (session.start descriptor).Coherent := by
  have roles : (session.start descriptor).roles =
      session.roles ++ [⟨session.nextGeneration, descriptor.key, true⟩] := by
    simp [Session.roles, Session.start, Task.role, Task.key, Task.isServing, Phase.isReporting]
  refine ⟨?_, ?_, Assoc.keys_put_nodup _ _ _ coherent.keys_nodup, ?_, ?_⟩
  · rw [roles, List.map_append]
    refine List.nodup_append.mpr ⟨coherent.generations_nodup, List.nodup_singleton _, ?_⟩
    intro generation earlier last latest equal
    obtain ⟨role, present, rfl⟩ := List.mem_map.mp earlier
    rw [List.mem_map] at latest
    obtain ⟨fresh, isFresh, rfl⟩ := latest
    rw [List.mem_singleton.mp isFresh] at equal
    exact Nat.ne_of_lt (coherent.role_below role present) equal
  · rw [roles]
    intro role present
    rcases List.mem_append.mp present with earlier | latest
    · exact Nat.lt_succ_of_lt (coherent.role_below role earlier)
    · rw [List.mem_singleton.mp latest]
      exact Nat.lt_succ_self _
  · intro key generation found
    rw [start_watches, Assoc.get?_put] at found
    split at found
    · cases found
      exact Nat.lt_succ_self _
    · exact Nat.lt_succ_of_lt (coherent.watch_below key generation found)
  · intro alive key generation
    rw [start_watches, Assoc.get?_put, roles, List.mem_append, List.mem_singleton,
      ← coherent.served alive]
    by_cases same : descriptor.key = key
    · subst same
      simp [absent, eq_comm]
    · simp [same, Ne.symm same]

end Coherent

/-! ## Operations of a session -/

/-- What the peer of a session can do to it: tasks and watched keys stay in agreement, and tasks
are at most started. -/
structure Speaks (before after : Session) : Prop where
  coherent : before.Coherent → after.Coherent
  phases : ∃ started, after.tasks.map (·.phase) =
    before.tasks.map (·.phase) ++ List.replicate started .starting

namespace Speaks

theorem refl (session : Session) : session.Speaks session :=
  ⟨id, 0, by simp⟩

theorem trans {first second third : Session} (earlier : first.Speaks second)
    (later : second.Speaks third) : first.Speaks third := by
  obtain ⟨few, middle⟩ := earlier.phases
  obtain ⟨more, last⟩ := later.phases
  refine ⟨later.coherent ∘ earlier.coherent, few + more, ?_⟩
  rw [last, middle, List.append_assoc, List.replicate_append_replicate]

/-- An operation that leaves every task in its phase. -/
theorem of_phases {before after : Session} (coherent : before.Coherent → after.Coherent)
    (phases : after.tasks.map (·.phase) = before.tasks.map (·.phase)) : before.Speaks after :=
  ⟨coherent, 0, by simpa using phases⟩

/-- Operations one after the other. -/
theorem foldl {α : Type} (change : Session → α → Session) (items : List α) (session : Session)
    (each : ∀ (earlier : Session), ∀ item ∈ items, earlier.Speaks (change earlier item)) :
    session.Speaks (items.foldl change session) :=
  List.foldlRecOn (motive := session.Speaks) items change (.refl session)
    fun earlier spoken item present => spoken.trans (each earlier item present)

end Speaks

theorem unwatch_coherent {session : Session} (coherent : session.Coherent) (key : String) :
    (session.unwatch key).Coherent := by
  unfold Session.unwatch
  split
  · rename_i generation found
    refine coherent.withdraw generation (roles_cancelTask _ generation)
      (Assoc.keys_erase_nodup key coherent.keys_nodup) ?_ ?_ rfl rfl
    · intro other owner listed
      rw [cancelTask_watches, Assoc.get?_erase] at listed
      split at listed
      · cases listed
      · exact listed
    · intro alive other owner
      rw [cancelTask_watches, Assoc.get?_erase]
      by_cases same : key = other
      · subst same
        simp [found, eq_comm]
      · simp only [same, if_false, iff_self_and]
        rintro listed rfl
        have first := (coherent.served alive key owner).mp found
        have second := (coherent.served alive other owner).mp listed
        exact same (congrArg Role.key (coherent.role_unique first second rfl))
  · exact coherent

theorem unwatch_speaks (session : Session) (key : String) :
    session.Speaks (session.unwatch key) := by
  refine .of_phases (fun coherent => unwatch_coherent coherent key) ?_
  unfold Session.unwatch
  split
  · unfold Session.cancelTask
    rw [List.map_map]
    apply List.map_congr_left
    intro task _
    simp only [Function.comp_apply]
    split <;> rfl
  · rfl

theorem post_speaks (session : Session) (origin : Option Nat) (message : Message) :
    session.Speaks (session.post origin message) := by
  unfold Session.post
  split
  · exact .refl session
  · split
    · exact .of_phases (fun coherent => coherent.frame rfl rfl rfl id) rfl
    · exact .of_phases (fun coherent => coherent.frame rfl rfl rfl nofun) rfl

theorem owe_speaks (session : Session) (messages : List Message) :
    session.Speaks (session.owe messages) :=
  .of_phases (fun coherent => coherent.frame rfl rfl rfl id) rfl

theorem reply_speaks (session : Session) : session.Speaks session.reply := by
  unfold Session.reply
  split
  · exact .refl session
  · rename_i rest _
    split
    · have popped : session.Speaks { session with replies := rest } :=
        .of_phases (fun coherent => coherent.frame rfl rfl rfl id) rfl
      exact popped.trans (post_speaks _ none _)
    · exact .refl session

theorem receive_speaks (session : Session) (count : Nat) :
    session.Speaks (session.receive count) :=
  .of_phases (fun coherent => coherent.frame rfl rfl rfl id) rfl

theorem pin_speaks (session : Session) (active? : Option String) :
    session.Speaks (session.pin active?) :=
  .of_phases (fun coherent => coherent.frame rfl rfl rfl id) rfl

theorem start_speaks {session : Session} {descriptor : Descriptor}
    (absent : session.watches.has descriptor.key = false) :
    session.Speaks (session.start descriptor) :=
  ⟨fun coherent => coherent.start (Assoc.get?_eq_none_of_not_has absent), 1, by
    simp [Session.start]⟩

theorem hangUp_speaks (session : Session) : session.Speaks session.hangUp :=
  .of_phases (fun coherent => coherent.frame rfl rfl rfl id) rfl

/-- Closing takes every key off the list; the session is cancelled, so its tasks need not agree. -/
theorem close_speaks (session : Session) : session.Speaks session.close :=
  .of_phases (fun coherent => ⟨coherent.generations_nodup, coherent.role_below, List.nodup_nil,
    nofun, nofun⟩) rfl

theorem subscribe_speaks {session after : Session} {active? : Option String}
    {descriptor : Descriptor} (subscribed : session.subscribe active? descriptor = .ok after) :
    session.Speaks after := by
  unfold Session.subscribe at subscribed
  split at subscribed
  · cases subscribed
  · split at subscribed
    · cases subscribed
      exact .refl session
    · rename_i unwatched
      cases subscribed
      have absent : session.watches.has descriptor.key = false := by
        simp only [Bool.or_eq_true, not_or, Bool.not_eq_true] at unwatched
        exact unwatched.2
      exact (pin_speaks session active?).trans (start_speaks absent)

/-- What is wanted stands under its own key. -/
theorem key_of_mem_wanted {descriptors : List Descriptor} {entry : String × Descriptor}
    (present : entry ∈ wanted descriptors) : entry.1 = entry.2.key := by
  unfold wanted at present
  revert entry
  refine List.foldlRecOn
    (motive := fun map : Assoc String Descriptor => ∀ {entry}, entry ∈ map → entry.1 = entry.2.key)
    _ _ (fun present => absurd present List.not_mem_nil) ?_
  intro map earlier descriptor _ entry present
  rcases Assoc.mem_put present with rfl | old
  · rfl
  · exact earlier old

theorem replace_speaks (session : Session) (active? : Option String)
    (descriptors : List Descriptor) : session.Speaks (session.replace active? descriptors) := by
  unfold Session.replace
  split
  · exact .refl session
  · refine .trans (.trans (.trans ?_ (.foldl _ _ _ fun earlier key _ => unwatch_speaks earlier key))
      (.foldl _ _ _ ?_)) (owe_speaks _ _)
    · split
      · exact .refl session
      · exact pin_speaks session active?
    · intro earlier entry present
      split
      · exact .refl earlier
      · rename_i unwatched
        rw [key_of_mem_wanted present] at unwatched
        exact start_speaks (by simpa using unwatched)

theorem orReply_speaks {session : Session} {answer : Except ServiceError Session}
    (answered : ∀ after, answer = .ok after → session.Speaks after) :
    session.Speaks (session.orReply answer) := by
  cases answer with
  | ok after => exact answered after rfl
  | error error => exact owe_speaks session _

theorem handle_speaks (session : Session) (active? : Option String) (control : Control) :
    session.Speaks (session.handle active? control) := by
  cases control with
  | subscribe resource? resources? =>
      cases resources? with
      | some resources => exact replace_speaks session active? resources
      | none =>
          cases resource? with
          | some resource => exact orReply_speaks fun _ => subscribe_speaks
          | none => exact owe_speaks session _
  | unsubscribe resource? =>
      cases resource? with
      | some resource => exact unwatch_speaks session resource.key
      | none => exact owe_speaks session _
  | setContext context => exact .of_phases (fun coherent => coherent.frame rfl rfl rfl id) rfl

end Session
end Watch
end KubeLens
