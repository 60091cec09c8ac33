import KubeLens.Proofs.Watch.Histories

/-!
# Successors of a watch

A key may be dropped and watched again while the earlier watch has yet to end.  Generations tell
the two apart: a watch that ends takes a key off the list only if the key is still its own, so
that its successor stays.
-/

namespace KubeLens
namespace Watch

/-! ## What drops a key -/

/-- Whether a message takes a key off the list. -/
def Control.Drops (key : String) : Control → Prop
  | .subscribe _ (some resources) =>
    key ∉ (resources.filter (·.IsValid)).map Descriptor.key
  | .unsubscribe (some resource) => resource.key = key
  | _ => False

theorem Control.mem_heed {control : Control} {key : String} {keys : Finset String}
    (watched : key ∈ keys) (stays : ¬control.Drops key) : key ∈ control.heed keys := by
  cases control with
  | subscribe resource? resources? =>
      cases resources? with
      | some resources => exact List.mem_toFinset.mpr (not_not.mp stays)
      | none =>
          cases resource? with
          | none => exact watched
          | some resource =>
              unfold Control.heed
              dsimp only
              split
              · exact Finset.mem_insert_of_mem watched
              · exact watched
  | unsubscribe resource? =>
      cases resource? with
      | none => exact watched
      | some resource => exact Finset.mem_erase.mpr ⟨Ne.symm stays, watched⟩
  | setContext context => exact watched

/-- A message that asks for a key has it watched. -/
theorem Control.mem_heed_of_wanted {control : Control} {key : String} (keys : Finset String)
    (wanted : key ∈ control.wanted.map Descriptor.key) : key ∈ control.heed keys := by
  cases control with
  | subscribe resource? resources? =>
      cases resources? with
      | some resources => exact List.mem_toFinset.mpr wanted
      | none =>
          cases resource? with
          | none => cases wanted
          | some resource =>
              obtain ⟨descriptor, present, rfl⟩ := List.mem_map.mp wanted
              obtain ⟨same, valid⟩ := List.mem_filter.mp present
              obtain rfl := List.mem_singleton.mp same
              have heed : (Control.subscribe (some descriptor) none).heed keys =
                  insert descriptor.key keys := if_pos (by simpa using valid)
              rw [heed]
              exact Finset.mem_insert_self _ _
  | unsubscribe => cases wanted
  | setContext => cases wanted

/-- Whether a happening takes a key off the list: a message does not keep it, the session is
closed, or the task that is registered for it ends. -/
def Happening.Drops (session : Session) (key : String) : Happening → Prop
  | asks _ control => control.Drops key
  | closes => True
  | step generation _ =>
    session.watches.get? key = some generation ∧
      ∃ task, session.task? generation = some task ∧ task.phase.isEnding = true
  | _ => False

namespace Session

/-- Whether nothing in a history takes a key off the list. -/
def Keeps (key : String) (session : Session) : List (Site × Happening) → Prop
  | [] => True
  | (site, happening) :: rest =>
    ¬happening.Drops session key ∧ (happening.turn (site, session)).2.Keeps key rest

/-! ## What a watch that ends erases -/

/-- A task erases at most its own entry. -/
theorem deregister_get? (session : Session) (task : Task) {key : String} {generation : Nat}
    (registered : session.watches.get? key = some generation)
    (foreign : ¬(key = task.key ∧ generation = task.generation)) :
    (session.deregister task).watches.get? key = some generation := by
  rw [deregister_watches]
  split
  · rename_i own
    rw [Assoc.get?_erase, if_neg]
    · exact registered
    · rintro rfl
      exact foreign ⟨rfl, Option.some.inj (registered.symm.trans own)⟩
  · exact registered

theorem happening_keeps {session : Session} (sane : session.Sane) {key : String}
    {generation : Nat} (registered : session.watches.get? key = some generation) (site : Site)
    {happening : Happening} (stays : ¬happening.Drops session key) :
    (happening.turn (site, session)).2.watches.get? key = some generation := by
  have retained : ∀ {after : Session}, after.watches = session.watches →
      after.watches.get? key = some generation := by
    rintro after same
    rwa [same]
  cases happening with
  | asks active? control =>
      obtain ⟨_, _, heeds⟩ := session.handle_heeds active? control
      have watched : key ∈ session.watched := mem_watched.mpr ⟨_, registered⟩
      have opened : session.isClosed = false := by
        by_contra closed
        rw [(sane.closed (by simpa using closed)).2 key] at registered
        cases registered
      have still : key ∈ (session.handle active? control).watched := by
        rw [heeds.watched opened]
        exact Control.mem_heed watched stays
      exact (heeds.arranges.get?_of_stays watched still).trans registered
  | garbles => exact registered
  | replies => exact retained session.reply_retains.watches
  | receives => exact registered
  | hangsUp => exact registered
  | closes => exact absurd trivial stays
  | step other due =>
      cases found : session.task? other with
      | none => simpa [Happening.turn, found] using registered
      | some task =>
          have own := (task?_eq_some found).2
          simp only [Happening.turn, found]
          split
          · cases ending : task.phase.isEnding with
            | false =>
                exact retained ((task.step_change due (site, session)).watches ending)
            | true =>
                rw [task.step_watches_of_ending ending]
                refine session.deregister_get? task registered ?_
                rintro ⟨_, rfl⟩
                exact stays ⟨own ▸ registered, task, found, ending⟩
          · exact registered
  | tick other period =>
      cases found : session.task? other with
      | none => simpa [Happening.turn, found] using registered
      | some task =>
          simp only [Happening.turn, found]
          exact retained (task.tick_watches period (site, session))

/-- A key that nothing drops stays with its watch. -/
theorem live_keeps {session : Session} (sane : session.Sane) {key : String} {generation : Nat}
    (registered : session.watches.get? key = some generation)
    {history : List (Site × Happening)} (keeps : session.Keeps key history) :
    (session.live history).watches.get? key = some generation := by
  induction history generalizing session with
  | nil => exact registered
  | cons entry rest ih =>
      obtain ⟨site, happening⟩ := entry
      exact ih (deed_sane (happening.deed (site, session)) sane)
        (happening_keeps sane registered site keeps.1) keeps.2

theorem Sane.generations_nodup {session : Session} (sane : session.Sane) :
    (session.watches.map (·.2)).Nodup := by
  have keys := sane.coherent.keys_nodup
  refine (List.nodup_map_iff_inj_on (List.Nodup.of_map _ keys)).mpr ?_
  rintro ⟨first, generation⟩ one ⟨second, _⟩ other rfl
  have same := sane.distinct first second generation (Assoc.get?_of_mem keys one)
    (Assoc.get?_of_mem keys other)
  rw [same]

/-- Registered generations differ and are below the next one.  A task that takes its key off the
list takes nothing else, and only if the key is registered for this very task.  So a key that a
message asked for stays watched until a message drops it, the session is closed, or the watch
that is registered for it ends. -/
theorem live_succession (context? : Option String) (isCancelled : Bool)
    (history : List (Site × Happening)) :
    let session := Session.live { context?, isCancelled } history
    (session.watches.map (·.2)).Nodup ∧
    (∀ entry ∈ session.watches, entry.2 < session.nextGeneration) ∧
    (∀ task ∈ session.tasks, ∀ key generation, session.watches.get? key = some generation →
      (session.deregister task).watches.get? key ≠ some generation →
        key = task.key ∧ generation = task.generation ∧
          ∀ other ∈ session.tasks, other.generation = generation → other = task) ∧
    ∀ active? control key, session.isClosed = false →
      key ∈ control.wanted.map Descriptor.key →
        ∃ generation, ∀ later, (session.handle active? control).Keeps key later →
          ((session.handle active? control).live later).watches.get? key = some generation := by
  intro session
  have sane : session.Sane := live_sane (.fresh context? isCancelled) history
  refine ⟨sane.generations_nodup, fun entry present => ?_, ?_, ?_⟩
  · exact sane.coherent.watch_below entry.1 entry.2
      (Assoc.get?_of_mem sane.coherent.keys_nodup present)
  · intro task present key generation registered erased
    obtain ⟨rfl, rfl⟩ : key = task.key ∧ generation = task.generation := by
      by_contra foreign
      exact erased (session.deregister_get? task registered foreign)
    exact ⟨rfl, rfl, fun other stored same => sane.coherent.task_unique stored present same⟩
  · intro active? control key opened wanted
    obtain ⟨_, _, heeds⟩ := session.handle_heeds active? control
    have watched : key ∈ (session.handle active? control).watched := by
      rw [heeds.watched opened]
      exact Control.mem_heed_of_wanted _ wanted
    obtain ⟨generation, registered⟩ := mem_watched.mp watched
    exact ⟨generation, fun later keeps =>
      live_keeps (handle_sane sane active? control) registered keeps⟩

/-- A pod to watch. -/
def pod : Descriptor :=
  { apiVersion := "v1", kind := "Pod", name := "a" }

/-- Surroundings without contexts. -/
def nowhere : Site :=
  { settings := .defaults none }

/-- A watch of the pod fails, and the pod is dropped before the watch has ended. -/
def failing : List (Site × Happening) :=
  [(nowhere, .asks none (.subscribe (some pod) none)), (nowhere, .step 0 0),
    (nowhere, .asks none (.unsubscribe (some pod)))]

/-- When the pod is asked for again, the end of the first watch does not drop it. -/
theorem live_succession_failing :
    ∃ generation, (((Session.live {} failing).handle none (.subscribe (some pod) none)).live
      [(nowhere, .step 0 0)]).watches.get? pod.key = some generation := by
  obtain ⟨generation, stays⟩ := (live_succession none false failing).2.2.2 none
    (.subscribe (some pod) none) pod.key (by decide +kernel) (by decide +kernel)
  refine ⟨generation, stays [(nowhere, .step 0 0)] ⟨?_, trivial⟩⟩
  rintro ⟨registered, _⟩
  have second : ((Session.live {} failing).handle none
      (.subscribe (some pod) none)).watches.get? pod.key = some 1 := by decide +kernel
  cases registered.symm.trans second

end Session
end Watch
end KubeLens
