import KubeLens.Proofs.Watch.Happenings

/-!
# Watched keys through a history

The watched keys of a session follow from the messages that it heard and from the watches that
ended, whatever else happened.  A key leaves only through a message, through closing, or through
the end of the watch that is registered for it: an earlier watch of the same key that ends late
does not touch its successor.
-/

namespace KubeLens
namespace Watch

/-! ## The end of a watch -/

/-- Whether a task in this phase ends next. -/
def Phase.isEnding : Phase → Bool
  | ending _ => true
  | _ => false

namespace Task

variable {task : Task}

/-- A task that ends takes its key off the list first. -/
theorem step_watches_of_ending (ending : task.phase.isEnding = true) (due : Nat) (turn : Turn) :
    (task.step due turn).2.watches = (turn.2.deregister task).watches := by
  cases phase : task.phase with
  | ending reason => simp [step, isStopping, phase, Phase.isRunning, enter]
  | _ => simp [phase, Phase.isEnding] at ending

/-- No other turn touches the list. -/
theorem Change.watches {before after : Turn} (change : task.Change before after)
    (running : task.phase.isEnding = false) : after.2.watches = before.2.watches := by
  cases change with
  | rests _ retains => exact retains.watches
  | proceeds _ _ _ _ _ _ _ retains => exact retains.watches
  | opens _ _ _ _ _ _ _ retains => exact retains.watches
  | withdraws _ _ reason ending =>
      rw [ending] at running
      cases running
  | leaves _ _ retains => exact retains.watches

theorem tick_watches (task : Task) (period : Nat) (turn : Turn) :
    (task.tick period turn).2.watches = turn.2.watches := by
  cases running : task.phase.isEnding with
  | false => exact (task.tick_change period turn).watches running
  | true =>
      cases phase : task.phase with
      | ending reason => simp [tick, isStopping, phase, Phase.isRunning]
      | _ => simp [phase, Phase.isEnding] at running

end Task

/-! ## News -/

/-- What concerns the set of watched keys. -/
inductive News
  /-- The peer sent a control message. -/
  | heard (control : Control)
  /-- The watch of a key could not start, or its feed ended. -/
  | ended (key : String)

/-- The set of watched keys after some news. -/
def News.apply (keys : Finset String) : News → Finset String
  | heard control => control.heed keys
  | ended key => keys.erase key

/-- The news in a happening.  A watch that was cancelled has no key of its own any more when it
ends. -/
def Happening.news (session : Session) : Happening → List News
  | asks _ control => [.heard control]
  | step generation _ =>
    match session.task? generation with
    | some task =>
      if task.phase.isEnding && !task.isCancelled then [.ended task.key] else []
    | none => []
  | _ => []

namespace Session

/-- The news in a history. -/
def news (session : Session) : List (Site × Happening) → List News
  | [] => []
  | (site, happening) :: rest =>
    happening.news session ++ (happening.turn (site, session)).2.news rest

theorem watched_of_watches {before after : Session} (same : after.watches = before.watches) :
    after.watched = before.watched := by
  unfold watched
  rw [same]

theorem deregister_watches (session : Session) (task : Task) :
    (session.deregister task).watches =
      if session.watches.get? task.key = some task.generation then
        session.watches.erase task.key
      else session.watches := by
  unfold Session.deregister
  split <;> rfl

theorem watched_erase {before after : Session} {key : String}
    (erased : after.watches = before.watches.erase key) :
    after.watched = before.watched.erase key := by
  ext other
  rw [mem_watched, erased, Finset.mem_erase, mem_watched, Assoc.get?_erase]
  by_cases same : key = other
  · simp [same]
  · simp [same, Ne.symm same]

/-- While the session is not cancelled, a listed task is registered unless it is cancelled. -/
theorem Sane.registered_iff {session : Session} (sane : session.Sane)
    (alive : session.isCancelled = false) {task : Task} (present : task ∈ session.tasks)
    (listed : task.phase.isReporting = false) :
    session.watches.get? task.key = some task.generation ↔ task.isCancelled = false := by
  constructor
  · intro registered
    obtain ⟨owner, stored, generation, _, uncancelled⟩ := sane.coherent.owner alive registered
    rwa [sane.coherent.task_unique stored present generation] at uncancelled
  · intro uncancelled
    refine (sane.coherent.served alive _ _).mpr (List.mem_map.mpr ⟨task, present, ?_⟩)
    simp [Task.role, Task.isServing, uncancelled, listed]

/-- A task that ends erases its own key, unless it was cancelled. -/
theorem step_watched {session : Session} (sane : session.Sane)
    (alive : session.isCancelled = false) {task : Task} (present : task ∈ session.tasks)
    (due : Nat) (site : Site) :
    (task.step due (site, session)).2.watched =
      if task.phase.isEnding && !task.isCancelled then session.watched.erase task.key
      else session.watched := by
  cases ending : task.phase.isEnding with
  | false => exact watched_of_watches ((task.step_change due (site, session)).watches ending)
  | true =>
      have listed : task.phase.isReporting = false := by
        cases phase : task.phase <;> simp_all [Phase.isEnding, Phase.isReporting]
      have own := sane.registered_iff alive present listed
      have ends := task.step_watches_of_ending ending due (site, session)
      rw [deregister_watches] at ends
      cases cancelled : task.isCancelled with
      | true =>
          rw [if_neg (by simp [own, cancelled])] at ends
          exact watched_of_watches ends
      | false =>
          rw [if_pos (own.mpr cancelled)] at ends
          exact watched_erase ends

/-- The news in a happening tell how the watched set changes. -/
theorem happening_watched {session : Session} (sane : session.Sane) (site : Site)
    (happening : Happening) (alive : (happening.turn (site, session)).2.isCancelled = false)
    (before : session.isCancelled = false) :
    (happening.turn (site, session)).2.watched =
      (happening.news session).foldl News.apply session.watched := by
  cases happening with
  | asks active? control =>
      obtain ⟨_, _, heeds⟩ := session.handle_heeds active? control
      exact heeds.watched (sane.opened before)
  | garbles => rfl
  | replies => exact watched_of_watches session.reply_retains.watches
  | receives => rfl
  | hangsUp => rfl
  | closes => cases alive
  | step generation due =>
      cases found : session.task? generation with
      | none => simp [Happening.turn, Happening.news, found]
      | some task =>
          have stepped := step_watched sane before (task?_eq_some found).1 due site
          have able : task.phase.isEnding = true → task.canStep site session = true := by
            cases phase : task.phase <;> simp [Phase.isEnding, Task.canStep, phase]
          simp only [Happening.turn, Happening.news, found]
          by_cases ends : (task.phase.isEnding && !task.isCancelled) = true
          · rw [if_pos ends] at stepped ⊢
            rw [if_pos (able (by simp_all)), stepped]
            rfl
          · rw [if_neg ends] at stepped ⊢
            split
            · exact stepped
            · rfl
  | tick generation period =>
      cases found : session.task? generation with
      | none => simp [Happening.turn, Happening.news, found]
      | some task =>
          simp only [Happening.turn, Happening.news, found]
          exact watched_of_watches (task.tick_watches period (site, session))

/-- A cancelled session stays so. -/
theorem happening_uncancelled {session : Session} (site : Site) (happening : Happening)
    (alive : (happening.turn (site, session)).2.isCancelled = false) :
    session.isCancelled = false := by
  have deed := happening.deed (site, session)
  generalize happening.turn (site, session) = after at deed alive
  cases deed with
  | asks active? control => exact (handle_utters _ _ _).uncancelled alive
  | owes messages => exact alive
  | replies => exact (reply_utters _).uncancelled alive
  | receives count => exact alive
  | hangsUp => exact alive
  | closes => cases alive
  | steps task present able due => exact (task.step_utters due (site, session)).uncancelled alive
  | ticks task present period =>
      exact (task.tick_utters period (site, session)).uncancelled alive
  | rests => exact alive

theorem live_uncancelled {session : Session} {history : List (Site × Happening)}
    (alive : (session.live history).isCancelled = false) : session.isCancelled = false := by
  induction history generalizing session with
  | nil => exact alive
  | cons entry rest ih => exact happening_uncancelled entry.1 entry.2 (ih alive)

/-- The news in a history tell how the watched set changes. -/
theorem live_watched {session : Session} (sane : session.Sane)
    {history : List (Site × Happening)}
    (alive : (session.live history).isCancelled = false) :
    (session.live history).watched = (session.news history).foldl News.apply session.watched := by
  induction history generalizing session with
  | nil => rfl
  | cons entry rest ih =>
      obtain ⟨site, happening⟩ := entry
      have now : (happening.turn (site, session)).2.isCancelled = false := live_uncancelled alive
      rw [news, List.foldl_append,
        ← happening_watched sane site happening now (happening_uncancelled site happening now)]
      exact ih (deed_sane (happening.deed (site, session)) sane) alive

/-- The watched keys of a session that is not cancelled follow from the messages that it heard
and from the watches that ended.  The next message keeps the watches of keys that stay as they
are, cancels those of keys that leave, and starts one new watch for each key that enters. -/
theorem live_watchedKeys (context? : Option String) (history : List (Site × Happening))
    (alive : (Session.live { context? } history).isCancelled = false) :
    let session := Session.live { context? } history
    session.watchedKeys =
      ((Session.news { context? } history).foldl News.apply ∅).sort (· ≤ ·) ∧
    ∀ active? control, session.Minds control (session.handle active? control) := by
  intro session
  have initial : Session.Sane { context? } := .fresh context? false
  have sane : session.Sane := live_sane initial history
  refine ⟨?_, fun active? control => ?_⟩
  · rw [watchedKeys_eq_sort sane.coherent, live_watched initial alive]
    rfl
  · obtain ⟨_, _, heeds⟩ := session.handle_heeds active? control
    exact heeds.minds sane.coherent alive
      ((session.handle_speaks active? control).coherent sane.coherent)
      (session.handle_utters active? control)

/-- Two objects are to be watched, and the watch of the first one finds no context. -/
def oneFails : List (Site × Happening) :=
  let site : Site := { settings := .defaults none }
  let pod (name : String) : Descriptor := { apiVersion := "v1", kind := "Pod", name }
  [(site, .asks none (.subscribe none (some [pod "a", pod "b", pod "b"]))),
    (site, .step 0 0), (site, .step 0 0)]

/-- The other one stays, and leaves with the next message. -/
theorem live_watchedKeys_oneFails :
    (Session.live {} oneFails).watchedKeys = ["v1:Pod::b"] ∧
      (Session.live {} oneFails).Minds (.subscribe none (some []))
        ((Session.live {} oneFails).handle none (.subscribe none (some []))) := by
  have watches := live_watchedKeys none oneFails (by decide +kernel)
  refine ⟨watches.1.trans ?_, watches.2 none _⟩
  decide +kernel

end Session
end Watch
end KubeLens
