import KubeLens.Proofs.Watch.Deliveries
import KubeLens.Proofs.Watch.Telling

/-!
# Moves and one watch

For one watch, a move of the hub is a turn of its own task, or it spares the watch, or the watch
does not exist yet.  Nobody else takes items from its feed, and no move changes what clusters
store.
-/

namespace KubeLens
namespace Watch

/-! ## Effects -/

/-- Whether something that the peer or the service does dismisses the watches of a key. -/
def Happening.Dismisses (key : String) : Happening → Prop
  | asks _ control => control.Drops key
  | hangsUp | closes => True
  | _ => False

/-- What a move comes to for the watch with a generation.  `acts` says what its session may do. -/
inductive Effect (generation : Nat) (dismissed : Prop) (acts : Happening → Prop) (before : Turn) :
    Turn → Prop
  | spares {after : Turn} {own? : Option Spot}
      (spares : Session.Spares generation dismissed before.2 after.2)
      (touches : before.1.fleet.Touches own? after.1.fleet)
      (foreign : ∀ task spot, before.2.task? generation = some task → task.spot? = some spot →
        own? ≠ some spot) :
      Effect generation dismissed acts before after
  /-- The generation is not used yet, or is used for a new task. -/
  | unused {after : Turn} (unused : before.2.nextGeneration ≤ generation)
      (silent : before.2.saidBy generation = [] → after.2.saidBy generation = [])
      (starting : ∀ task, after.2.task? generation = some task → task.phase = .starting) :
      Effect generation dismissed acts before after
  | steps {task : Task} (found : before.2.task? generation = some task)
      (able : task.canStep before.1 before.2 = true) (due : Nat)
      (permitted : acts (.step generation due)) :
      Effect generation dismissed acts before (task.step due before)
  | ticks {task : Task} (found : before.2.task? generation = some task) (period : Nat)
      (permitted : acts (.tick generation period)) :
      Effect generation dismissed acts before (task.tick period before)

variable {generation : Nat} {dismissed : Prop} {acts : Happening → Prop}

namespace Effect

/-- The session of a watch stays as it is. -/
theorem idle {before after : Site} {session : Session} {own? : Option Spot}
    (touches : before.fleet.Touches own? after.fleet)
    (foreign : ∀ task spot, session.task? generation = some task → task.spot? = some spot →
      own? ≠ some spot) :
    Effect generation dismissed acts (before, session) (after, session) :=
  .spares (.refl session) touches foreign

theorem refl (turn : Turn) : Effect generation dismissed acts turn turn :=
  idle (Fleet.Steady.refl turn.1.fleet).touches fun _ spot _ _ => (Option.some_ne_none spot).symm

/-- The site stays as it is. -/
theorem of_spares {site : Site} {before after : Session}
    (spares : Session.Spares generation dismissed before after) :
    Effect generation dismissed acts (site, before) (site, after) :=
  .spares spares (Fleet.Steady.refl site.fleet).touches fun _ spot _ _ =>
    (Option.some_ne_none spot).symm

/-- A message spares a watch, unless it starts it. -/
theorem handle {site : Site} {session : Session} (sane : session.Sane) (active? : Option String)
    (control : Control)
    (drops : ∀ task, session.task? generation = some task → control.Drops task.key → dismissed) :
    Effect generation dismissed acts (site, session) (site, session.handle active? control) := by
  by_cases used : generation < session.nextGeneration
  · exact .of_spares (Session.handle_spares sane used active? control drops)
  -- Only a task that the message starts can have a generation that is not used yet.
  · obtain ⟨_, started, heeds⟩ := session.handle_heeds active? control
    have utters := session.handle_utters active? control
    refine .unused (Nat.le_of_not_lt used)
      (fun silent => (utters.saidBy_of_ne nofun).trans silent) fun task found => ?_
    obtain ⟨present, rfl⟩ := Session.task?_eq_some found
    rw [heeds.arranges.tasks] at present
    rcases List.mem_append.mp present with old | new
    · obtain ⟨earlier, stored, rfl⟩ := List.mem_map.mp old
      exact absurd (sane.coherent.role_below _ (List.mem_map_of_mem stored)) used
    · exact (heeds.arranges.fresh task new).2

/-- A watch that has read its object has read it. -/
theorem hasRead {before after : Turn} (effect : Effect generation dismissed acts before after)
    (read : before.2.HasRead generation) : after.2.HasRead generation := by
  cases effect with
  | spares spares =>
      obtain ⟨cancelled, tasks, _⟩ := spares.task
      refine ⟨Nat.lt_of_lt_of_le read.used spares.next, fun task chosen => ?_⟩
      rw [tasks] at chosen
      obtain ⟨earlier, found, rfl⟩ := Option.map_eq_some_iff.mp chosen
      exact read.late earlier found
  | unused unused => exact absurd read.used (Nat.not_lt.mpr unused)
  | @steps task found _ due =>
      obtain ⟨_, rfl⟩ := Session.task?_eq_some found
      exact ⟨(task.step_change due before).next ▸ read.used, fun _ chosen =>
        (task.step_advances due before.1 before.2).late found (read.late task found) chosen⟩
  | @ticks task found period =>
      obtain ⟨_, rfl⟩ := Session.task?_eq_some found
      exact ⟨(task.tick_change period before).next ▸ read.used, fun _ chosen =>
        (task.tick_advances period before.1 before.2).late found (read.late task found) chosen⟩

/-- A watch says nothing before it has read its object. -/
theorem silent {before after : Turn} (effect : Effect generation dismissed acts before after)
    (coherent : before.2.Coherent)
    (silent : ¬before.2.HasRead generation → before.2.saidBy generation = [])
    (unread : ¬after.2.HasRead generation) : after.2.saidBy generation = [] := by
  have earlier := silent (unread ∘ effect.hasRead)
  have early {task : Task} (found : before.2.task? generation = some task) :
      task.phase.isEarly = true := by
    by_contra late
    obtain ⟨present, rfl⟩ := Session.task?_eq_some found
    refine unread (effect.hasRead ⟨coherent.role_below _ (List.mem_map_of_mem present), ?_⟩)
    intro other chosen
    obtain rfl := Option.some.inj (found.symm.trans chosen)
    simpa using late
  cases effect with
  | spares spares => exact spares.said.trans earlier
  | unused _ quiet => exact quiet earlier
  | steps found _ due =>
      unfold Session.saidBy at earlier ⊢
      rwa [Task.step_outbox_of_early (early found)]
  | ticks found period =>
      unfold Session.saidBy at earlier ⊢
      rwa [Task.tick_outbox]

end Effect

theorem Happening.turn_sameStores (happening : Happening) (turn : Turn) :
    turn.1.fleet.SameStores (happening.turn turn).1.fleet := by
  have deed := happening.deed turn
  generalize happening.turn turn = after at deed ⊢
  cases deed with
  | steps task _ _ due => exact (task.step_turns due turn).stores
  | ticks task _ period => exact (task.tick_turns period turn).stores
  | _ => exact .refl _

namespace Hub

variable {permits : Nat → Happening → Prop} {site : Site} {hub : Hub} {id place : Nat}

/-- A task holds the feed of no other. -/
theorem Booked.foreign (booked : Booked site hub) {other : Task}
    (present : other ∈ (hub.session place).tasks)
    (different : place ≠ id ∨ other.generation ≠ generation) (task : Task) (spot : Spot)
    (found : (hub.session id).task? generation = some task) (holds : task.spot? = some spot) :
    other.spot? ≠ some spot := by
  obtain ⟨stored, same⟩ := Session.task?_eq_some found
  intro also
  obtain ⟨rfl, rfl⟩ := booked.holder_unique (inside_of_mem stored) (inside_of_mem present) stored
    holds present also
  exact different.elim (fun place => place rfl) fun other => other same

/-- A turn of a task is a turn of the watch, or spares it. -/
theorem turn_effect (booked : Booked site hub) {task : Task} {after : Turn}
    (present : task ∈ (hub.session place).tasks)
    (change : task.Change (site, hub.session place) after)
    (utters : Session.Utters (some task.generation) (hub.session place) after.2)
    (turns : site.fleet.Turns task.spot? after.1.fleet)
    (own : place = id → task.generation = generation →
      Effect generation dismissed acts (site, hub.session place) after) :
    Effect generation dismissed acts (site, hub.session id)
      (after.1, (hub.put place after.2).session id) := by
  have inside := inside_of_mem present
  by_cases here : place = id
  · subst here
    rw [session_put_self inside]
    by_cases same : task.generation = generation
    · exact own rfl same
    · exact .spares (change.spares utters same) turns.touches (booked.foreign present (.inr same))
  · rw [session_put_of_ne hub here]
    exact .idle turns.touches (booked.foreign present (.inl here))

/-- What leaves the site as it is concerns a watch in its own session only. -/
theorem put_effect (inside : place < hub.sessions.length) {after : Session}
    (own : place = id →
      Effect generation dismissed acts (site, hub.session place) (site, after)) :
    Effect generation dismissed acts (site, hub.session id)
      (site, (hub.put place after).session id) := by
  by_cases here : place = id
  · subst here
    rw [session_put_self inside]
    exact own rfl
  · rw [session_put_of_ne hub here]
    exact .refl _

section

variable (sane : hub.Sane) (booked : Booked site hub) (key : String)
  (keyed : ∀ task, (hub.session id).task? generation = some task → dismissed ∨ task.key = key)

include sane booked keyed

theorem happen_effect (happening : Happening)
    (dismisses : place = id → happening.Dismisses key → dismissed)
    (permitted : place = id → acts happening) :
    Effect generation dismissed acts (site, hub.session id)
      ((hub.happen site place happening).1, (hub.happen site place happening).2.session id) := by
  by_cases inside : place < hub.sessions.length
  · let turn : Turn := (site, hub.session place)
    cases happening with
    | asks active? control =>
        refine put_effect inside ?_
        rintro rfl
        exact .handle (sane.session place) active? control fun task found drops =>
          (keyed task found).elim id fun same => dismisses rfl (same ▸ drops)
    | garbles => exact put_effect inside fun _ => .of_spares (Session.owe_spares _ _)
    | replies => exact put_effect inside fun _ => .of_spares (Session.reply_spares _)
    | receives count => exact put_effect inside fun _ => .of_spares (Session.receive_spares _ _)
    | hangsUp =>
        exact put_effect inside fun here =>
          .of_spares (Session.hangUp_spares _ (dismisses here trivial))
    | closes =>
        exact put_effect inside fun here =>
          .of_spares (Session.close_spares _ (dismisses here trivial))
    | step other due =>
        unfold Hub.happen Happening.turn
        dsimp only
        cases found : (hub.session place).task? other with
        | none => exact put_effect inside fun _ => .refl _
        | some task =>
            obtain ⟨present, rfl⟩ := Session.task?_eq_some found
            dsimp only
            split
            · refine turn_effect booked present (task.step_change due turn)
                (task.step_utters due turn) (task.step_turns due turn) ?_
              rintro rfl rfl
              exact .steps found ‹_› due (permitted rfl)
            · exact put_effect inside fun _ => .refl _
    | tick other period =>
        unfold Hub.happen Happening.turn
        dsimp only
        cases found : (hub.session place).task? other with
        | none => exact put_effect inside fun _ => .refl _
        | some task =>
            obtain ⟨present, rfl⟩ := Session.task?_eq_some found
            refine turn_effect booked present (task.tick_change period turn)
              (task.tick_utters period turn) (task.tick_turns period turn) ?_
            rintro rfl rfl
            exact .ticks found period (permitted rfl)
  · rw [happen_outside inside]
    exact .refl _

/-- What a move comes to for a watch. -/
theorem Move.effect {after : Site × Hub} (move : Move permits (site, hub) after)
    (dismisses : ∀ happening, permits id happening → happening.Dismisses key → dismissed) :
    Effect generation dismissed (permits id) (site, hub.session id)
      (after.1, after.2.session id) := by
  cases move with
  | serves _ steady =>
      exact .idle steady.touches fun _ spot _ _ => (Option.some_ne_none spot).symm
  | happens _ _ place happening permitted =>
      refine happen_effect sane booked key keyed happening ?_ ?_
      · rintro rfl dismissing
        exact dismisses happening permitted dismissing
      · rintro rfl
        exact permitted
  | opens _ _ context? =>
      by_cases inside : id < hub.sessions.length
      · have same : (hub.openSession context?).2.session id = hub.session id := by
          unfold Hub.session Hub.openSession
          dsimp only
          rw [List.getElem?_append_left inside]
        dsimp only
        rw [same]
        exact .refl _
      · have fresh : ((hub.openSession context?).2.session id).outbox = [] ∧
            ((hub.openSession context?).2.session id).tasks = [] := by
          unfold Hub.session Hub.openSession
          dsimp only
          rw [List.getElem?_append_right (Nat.le_of_not_lt inside), List.getElem?_singleton]
          split <;> exact ⟨rfl, rfl⟩
        refine .unused ?_ (fun _ => ?_) fun task found => ?_
        · rw [session_outside inside]
          exact Nat.zero_le _
        · unfold Session.saidBy
          rw [fresh.1]
          rfl
        · have present := (Session.task?_eq_some found).1
          rw [fresh.2] at present
          cases present
  | cancels => exact .refl _

end

theorem Move.sameStores {before after : Site × Hub} (move : Move permits before after) :
    before.1.fleet.SameStores after.1.fleet := by
  cases move with
  | serves _ steady => exact steady.sameStores
  | happens site hub place happening => exact happening.turn_sameStores (site, hub.session place)
  | opens => exact .refl _
  | cancels => exact .refl _

end Hub
end Watch
end KubeLens
