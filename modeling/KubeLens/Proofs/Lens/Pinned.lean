import KubeLens.Proofs.Lens.Activating
import KubeLens.Proofs.Lens.Anchoring
import KubeLens.Proofs.Watch.Pinned

/-!
# Sessions that stay where they are

A session whose peer never asks for another context keeps the one that it gets first, and its
watches keep to it, whatever other callers make active meanwhile.
-/

namespace KubeLens

open Watch

/-- Whether an event asks for another context for a session. -/
def Event.redirects (id : Nat) : Event → Bool
  | handleText place text => place == id && (Control.read? text).any Control.redirects
  | _ => false

theorem Event.undirected {event : Event} {id : Nat} (quiet : event.redirects id = false)
    {happening : Happening} (permitted : event.Permits id happening) :
    happening.redirects = false := by
  cases happening with
  | asks active? control =>
      rcases permitted with ⟨text, rfl, read⟩ | ⟨descriptor, _, _, rfl⟩ | ⟨descriptor, _, rfl⟩
      · unfold Happening.redirects
        simpa [redirects, read] using quiet
      · rfl
      · rfl
  | _ => rfl

namespace Lens

variable {lens : Lens} {host : Host} {id : Nat} {event : Event}

/-! ## One event -/

theorem act_pins (pins : Hub.Pins host id lens.site lens.hub)
    (quiet : event.redirects id = false) :
    Hub.Pins host id (lens.act event).site (lens.act event).hub := by
  cases outside : event.changesCluster with
  | true =>
      have order := lens.act_keepsOrder event
      rw [act_hub outside]
      exact ⟨order.orderly pins.orderly, order.inCluster.trans pins.sameMode, pins.sane,
        pins.pinned⟩
  | false =>
      exact (act_moves outside pins.sane).moves.pins (fun _ => Event.undirected quiet) pins

theorem act_stays (sane : lens.hub.Sane) (quiet : event.redirects id = false) :
    (lens.session id).Stays ((lens.act event).session id) := by
  cases outside : event.changesCluster with
  | true =>
      unfold Lens.session
      rw [act_hub outside]
      exact .of_same rfl
  | false => exact (act_moves outside sane).moves.stays fun _ => Event.undirected quiet

theorem session_stepTask {task : Task} (present : task ∈ (lens.session id).tasks)
    (sane : lens.hub.Sane) (able : task.canStep lens.site (lens.session id) = true) :
    (lens.stepTask id task.generation).session id =
      (task.step (lens.now + lens.hub.period) (lens.site, lens.session id)).2 := by
  have found : (lens.session id).task? task.generation = some task :=
    Hub.task?_of_mem (sane.session id).coherent present
  unfold Lens.stepTask taskWhere?
  rw [found, Option.filter_some, if_pos able]
  dsimp only
  unfold Hub.stepTask Hub.runTask
  rw [show (lens.hub.session id).task? task.generation = some task from found]
  exact Hub.session_put_self (Hub.inside_of_mem present) _

/-- When a watch that has looked for its connection can make a step while its session has no
context, the session gets the one of the connection. -/
theorem stepTask_settles (pins : Hub.Pins host id lens.site lens.hub)
    (free : (lens.session id).context? = none) {task : Task}
    (present : task ∈ (lens.session id).tasks) (started : task.phase ≠ .starting) :
    ((lens.stepTask id task.generation).session id).Settles task.generation := by
  have coherent := (pins.sane.session id).coherent
  by_cases able : task.canStep lens.site (lens.session id) = true
  · rw [session_stepTask present pins.sane able]
    exact pins.pinned.step_settles coherent present started free _
  · have rests : lens.stepTask id task.generation = lens := by
      have found : (lens.session id).task? task.generation = some task :=
        Hub.task?_of_mem coherent present
      unfold Lens.stepTask taskWhere?
      rw [found, Option.filter_some, if_neg able]
    rw [rests]
    intro other stored same
    obtain rfl := coherent.task_unique stored present same
    -- A watch that has found its connection need not wait to go on with it.
    have unresolved : ∀ handle, other.phase ≠ .resolved handle := fun handle resolved =>
      able (by unfold Task.canStep; rw [resolved]; exact Bool.or_true _)
    refine ⟨started, fun client answer => ?_⟩
    rw [← Phase.known?_of_ne unresolved, (pins.pinned.tasks other present).free free] at answer
    cases answer

/-! ## Runs -/

variable {events : List Event}

theorem run_pins (settings : Settings) (host : Host)
    (undirected : ∀ event ∈ events, event.redirects id = false) :
    Hub.Pins host id ((onHost settings host).run events).site
      ((onHost settings host).run events).hub :=
  run_induction (P := fun lens => Hub.Pins host id lens.site lens.hub) (onHost settings host)
    events
    ⟨run_orderly settings host [], rfl, List.forall_mem_nil _, .fresh host none false⟩
    fun _ event present pins => act_pins pins (undirected event present)

/-- What becomes of a session that is not redirected: it keeps its context, the watches that it has
get no other client, and those that it starts have its context. -/
structure Continues (id : Nat) (before after : Lens) : Prop where
  sane : after.hub.Sane
  stays : (before.session id).Stays (after.session id)
  descends : (before.session id).Descends (after.session id)
  starts : ∀ context, (before.session id).context? = some context →
    ∀ task ∈ (after.session id).tasks, (before.session id).nextGeneration ≤ task.generation →
      task.context? = some context

namespace Continues

variable {before : Lens}

theorem refl (sane : lens.hub.Sane) : lens.Continues id lens where
  sane
  stays := .of_same rfl
  descends := .refl _
  starts _ _ _ present late :=
    absurd ((sane.session id).coherent.role_below _ (List.mem_map_of_mem present))
      (Nat.not_lt.mpr late)

theorem act (continues : before.Continues id lens) (quiet : event.redirects id = false) :
    before.Continues id (lens.act event) := by
  have stays := act_stays continues.sane quiet
  have descends := act_descends continues.sane event id
  refine ⟨act_sane event continues.sane, fun context own =>
    stays context (continues.stays context own), continues.descends.trans descends, ?_⟩
  intro context own task present late
  -- A watch was there before the event, with the same context, or the event started it.
  by_cases old : task.generation < (lens.session id).nextGeneration
  · obtain ⟨earlier, stored, becomes⟩ := descends.tasks task present old
    rw [← becomes.context?]
    exact continues.starts context own earlier stored (becomes.generation ▸ late)
  · rw [act_binds continues.sane event id task present (Nat.not_lt.mp old)]
    exact stays context (continues.stays context own)

theorem run (sane : lens.hub.Sane)
    (undirected : ∀ event ∈ events, event.redirects id = false) :
    lens.Continues id (lens.run events) :=
  run_induction (P := lens.Continues id) lens events (refl sane)
    fun _ event present continues => continues.act (undirected event present)

end Continues

/-- A watch that goes on with its connection while its session has no context keeps its client, and
the session keeps the context of this client. -/
theorem run_settled (pins : Hub.Pins host id lens.site lens.hub)
    (free : (lens.session id).context? = none) {task : Task}
    (known : task ∈ (lens.session id).tasks) (begun : task.phase ≠ .starting)
    (undirected : ∀ event ∈ events, event.redirects id = false) :
    let final := (lens.run (.step id task.generation :: events)).session id
    ∀ later ∈ final.tasks, later.generation = task.generation → ∀ client ∈ later.phase.client?,
      final.context? = some client.context := by
  intro final later present same client answer
  have below : task.generation < (lens.session id).nextGeneration :=
    (pins.sane.session id).coherent.role_below _ (List.mem_map_of_mem known)
  have stepped := act_descends pins.sane (.step id task.generation) id
  have continues : (lens.stepTask id task.generation).Continues id
      ((lens.stepTask id task.generation).run events) :=
    .run (act_sane (.step id task.generation) pins.sane) undirected
  obtain ⟨first, stored, becomes⟩ := continues.descends.tasks later present
    (Nat.lt_of_lt_of_le (same ▸ below) stepped.next)
  obtain ⟨started, found⟩ :=
    stepTask_settles pins free known begun first stored (becomes.generation.trans same)
  exact continues.stays _ (found client (becomes.client started client answer))

/-- While credentials are mounted for good or not at all, a session whose peer never asks for
another context keeps its context once it has one, and every watch that is started from then on
only ever has clients for what it means.  Until then no watch goes on with a connection; the first
one that does gives the session the context of its own client, and neither of them changes any
more.  Nothing keeps a watch on this context that was started before and finds its connection, or
found it, while another context is active. -/
theorem run_pinned (settings : Settings) (host : Host) (events : List Event) (id : Nat)
    (undirected : ∀ event ∈ events, event.redirects id = false) :
    let session := ((onHost settings host).run events).session id
    (∀ earlier later, events = earlier ++ later →
        let before := ((onHost settings host).run earlier).session id
        before.Pinned host ∧ ∀ context, before.context? = some context →
          session.context? = some context ∧
            ∀ task ∈ session.tasks, before.nextGeneration ≤ task.generation →
              ∀ client ∈ task.phase.client?,
                client.context = Switchboard.target host context) ∧
      ∀ earlier (task : Task) later, events = earlier ++ .step id task.generation :: later →
        let before := ((onHost settings host).run earlier).session id
        before.context? = none → task ∈ before.tasks → task.phase ≠ .starting →
          ∀ after ∈ session.tasks, after.generation = task.generation →
            ∀ client ∈ after.phase.client?, session.context? = some client.context := by
  intro session
  have pinned : session.Pinned host := (run_pins settings host undirected).pinned
  constructor
  · rintro earlier later rfl before
    refine ⟨(run_pins settings host fun event present =>
      undirected event (List.mem_append_left _ present)).pinned, fun context own => ?_⟩
    have continues : ((onHost settings host).run earlier).Continues id
        (((onHost settings host).run earlier).run later) :=
      .run (run_sane settings host earlier) fun event present =>
        undirected event (List.mem_append_right _ present)
    rw [← run_append] at continues
    refine ⟨continues.stays context own, fun task present late => ?_⟩
    exact ((pinned.tasks task present).own context
      (continues.starts context own task present late)).2
  · rintro earlier task later rfl before free known begun
    have pins : Hub.Pins host id ((onHost settings host).run earlier).site
        ((onHost settings host).run earlier).hub :=
      run_pins settings host fun event present =>
        undirected event (List.mem_append_left _ present)
    have settled := run_settled pins free known begun fun event present =>
      undirected event
        (List.mem_append_right _ (List.mem_cons_of_mem (.step id task.generation) present))
    unfold session
    rwa [run_append]

/-- The first session watches a pod. -/
def watchPod (name : String) : Event :=
  .subscribe 0 { apiVersion := "v1", kind := "Pod", name, plural? := some "pods" }

/-- The contexts that the watches of the first session have connections to. -/
def watchedOn (lens : Lens) : List (Option String) :=
  (lens.session 0).tasks.map fun task => task.phase.client?.map (·.context)

/-- A pod is watched while no context is active.  The watch finds `dev` and goes on with it, and
then `prod` becomes active before another pod is watched. -/
def leftOnDev : List Event :=
  [.openSession none, watchPod "a", .setContext "dev", .step 0 0, .step 0 0, .setContext "prod",
    watchPod "b", .step 0 1]

theorem run_pinned_leftOnDev :
    let host := Host.storing ["dev", "prod"]
    let lens := (onHost (.defaults none) host).run leftOnDev
    (∀ event ∈ leftOnDev, event.redirects 0 = false) ∧
      ((onHost (.defaults none) host).run (leftOnDev.take 7)).current? = some "prod" ∧
      lens.watchedOn = [some "dev", some "dev"] ∧ (lens.session 0).Pinned host ∧
      (lens.session 0).context? = some "dev" ∧
      (∀ task ∈ (lens.session 0).tasks, 1 ≤ task.generation → ∀ client ∈ task.phase.client?,
        client.context = "dev") ∧
      ∀ task ∈ (lens.session 0).tasks, task.generation = 0 → ∀ client ∈ task.phase.client?,
        some "dev" = some client.context := by
  intro host lens
  have undirected : ∀ event ∈ leftOnDev, event.redirects 0 = false := by decide
  obtain ⟨stays, settled⟩ := run_pinned (.defaults none) host leftOnDev 0 undirected
  obtain ⟨pinned, _⟩ := stays leftOnDev [] rfl
  obtain ⟨context, later⟩ := (stays (leftOnDev.take 5) (leftOnDev.drop 5) rfl).2 "dev"
    (by decide +kernel)
  have next : (((onHost (.defaults none) host).run (leftOnDev.take 5)).session 0).nextGeneration =
      1 := by decide +kernel
  rw [next] at later
  -- The first watch has found `dev` when it makes its second step.
  obtain ⟨task, known, found⟩ := List.any_eq_true.mp (show
    ((((onHost (.defaults none) host).run (leftOnDev.take 4)).session 0).tasks.any fun task =>
      task.generation == 0 && task.phase.client?.isSome) = true by decide +kernel)
  obtain ⟨own, connected⟩ : task.generation = 0 ∧ task.phase.client?.isSome = true := by
    simpa using found
  have begun : task.phase ≠ .starting := by
    intro starting
    rw [starting] at connected
    cases connected
  have first := settled (leftOnDev.take 4) task (leftOnDev.drop 5) (by rw [own]; rfl)
    (by decide +kernel) known begun
  rw [context, own] at first
  exact ⟨undirected, by decide +kernel, by decide +kernel, pinned, context,
    fun task present late => later task present late, first⟩

/-- A session that is never redirected can come to watch two clusters.  Two watches that were
started without a context can each find another one active.  A watch that has found its connection
can be overtaken by a message, for which the session gets another context.  And when credentials
are mounted, the context that the session has does not mean itself any more. -/
theorem run_unpinned :
    let service := onHost (.defaults none) (.storing ["dev", "prod"])
    let raced := service.run [.openSession none, watchPod "a", watchPod "b", .setContext "dev",
      .step 0 0, .setContext "prod", .step 0 1, .step 0 0, .step 0 1]
    let overtaken := service.run [.openSession none, watchPod "a", .setContext "dev", .step 0 0,
      .setContext "prod", watchPod "b", .step 0 1, .step 0 1, .step 0 0]
    let account := some credentialFiles
    let mounted := service.runMounting [(none, .setContext "dev"), (none, .openSession none),
      (none, watchPod "a"), (none, .step 0 0), (account, .start), (account, watchPod "b"),
      (account, .step 0 1)]
    (raced.session 0).context? = some "dev" ∧ raced.watchedOn = [some "dev", some "prod"] ∧
      (overtaken.session 0).context? = some "prod" ∧
      overtaken.watchedOn = [some "dev", some "prod"] ∧
      (mounted.session 0).context? = some "dev" ∧
      mounted.watchedOn = [some "dev", some inClusterContext] := by
  decide +kernel

end Lens
end KubeLens
