import KubeLens.Proofs.Text.Separators
import KubeLens.Proofs.Watch.Histories
import KubeLens.Proofs.Watch.Phases
import KubeLens.Proofs.Watch.Spelling

/-!
# Watched objects and their keys

A key joins what makes up the identity of an object with colons.  Names may hold colons of their
own; as long as nothing else does, the key tells objects apart.  So a session, which knows the
objects that it watches by their keys, does with them what it would do with the objects
themselves: it passes over an object only if that object is watched, and drops a watch only if its
object is to be dropped.
-/

namespace KubeLens
namespace Watch

/-! ## Identities -/

/-- What makes an object the one that it is. -/
@[ext]
structure Identity where
  apiVersion : String
  kind : String
  space? : Option String
  name : String
  /-- An object without a namespace is not in an empty one. -/
  named : space? ≠ some ""
  deriving DecidableEq

namespace Identity

/-- The key of an object. -/
def key (identity : Identity) : String :=
  identity.apiVersion ++ ":" ++ identity.kind ++ ":" ++ identity.space?.getD "" ++ ":" ++
    identity.name

/-- Whether colons occur at most in the name of an object. -/
def IsPlain (identity : Identity) : Prop :=
  ':' ∉ identity.apiVersion.toList ∧ ':' ∉ identity.kind.toList ∧
    ∀ space ∈ identity.space?, ':' ∉ space.toList

instance : DecidablePred IsPlain := fun _ =>
  inferInstanceAs (Decidable (_ ∧ _ ∧ _))

theorem toList_key (identity : Identity) :
    identity.key.toList = identity.apiVersion.toList ++ ':' :: (identity.kind.toList ++ ':' ::
      ((identity.space?.getD "").toList ++ ':' :: identity.name.toList)) := by
  simp [key, String.toList_append]

theorem IsPlain.space {identity : Identity} (plain : identity.IsPlain) :
    ':' ∉ (identity.space?.getD "").toList := by
  cases found : identity.space? with
  | none => simp
  | some space => exact plain.2.2 space found

theorem space?_eq {first second : Identity}
    (same : first.space?.getD "" = second.space?.getD "") : first.space? = second.space? := by
  have one := first.named
  have other := second.named
  revert one other same
  cases first.space? <;> cases second.space? <;> simp_all

/-- The key of an object is cut at its first three colons in one way. -/
theorem key_inj {first second : Identity} (plain : first.IsPlain) (also : second.IsPlain) :
    first.key = second.key ↔ first = second := by
  refine ⟨fun same => ?_, congrArg key⟩
  have cut := congrArg String.toList same
  rw [toList_key, toList_key, Text.append_separator_inj plain.1 also.1,
    Text.append_separator_inj plain.2.1 also.2.1, Text.append_separator_inj plain.space also.space,
    String.toList_inj, String.toList_inj, String.toList_inj, String.toList_inj] at cut
  obtain ⟨apiVersion, kind, space, name⟩ := cut
  exact Identity.ext apiVersion kind (space?_eq space) name

/-- The key of an object is no other object's. -/
theorem image_erase {objects : Finset Identity} (plains : ∀ other ∈ objects, other.IsPlain)
    {identity : Identity} (plain : identity.IsPlain) :
    (objects.erase identity).image key = (objects.image key).erase identity.key := by
  ext text
  simp only [Finset.mem_erase, Finset.mem_image]
  constructor
  · rintro ⟨other, ⟨different, present⟩, rfl⟩
    exact ⟨fun same => different ((key_inj (plains other present) plain).mp same), other, present,
      rfl⟩
  · rintro ⟨different, other, present, rfl⟩
    exact ⟨other, ⟨fun same => different (congrArg key same), present⟩, rfl⟩

end Identity

namespace Descriptor

/-- The object that a descriptor names. -/
def identity (descriptor : Descriptor) : Identity where
  apiVersion := descriptor.apiVersion
  kind := descriptor.kind
  space? := descriptor.space?
  name := descriptor.name
  named := fun empty => Namespace.normalize_ne_empty empty rfl

theorem key_identity (descriptor : Descriptor) : descriptor.identity.key = descriptor.key := rfl

theorem identity_eq_iff {first second : Descriptor} :
    first.identity = second.identity ↔
      first.apiVersion = second.apiVersion ∧ first.kind = second.kind ∧
        first.space? = second.space? ∧ first.name = second.name :=
  Identity.ext_iff

end Descriptor

/-! ## Objects in messages -/

namespace Control

/-- The descriptors that a message is about. -/
def mentioned : Control → List Descriptor
  | .subscribe _ (some resources) => resources
  | .subscribe (some resource) none => [resource]
  | .unsubscribe (some resource) => [resource]
  | _ => []

/-- Whether a message names objects whose keys tell them apart. -/
def IsPlain (control : Control) : Prop :=
  ∀ descriptor ∈ control.mentioned, descriptor.identity.IsPlain

instance : DecidablePred IsPlain := fun control =>
  inferInstanceAs (Decidable (∀ descriptor ∈ control.mentioned, _))

/-- The set of watched objects after a message. -/
def attend (objects : Finset Identity) : Control → Finset Identity
  | .subscribe _ (some resources) =>
    ((resources.filter (·.IsValid)).map Descriptor.identity).toFinset
  | .subscribe (some resource) none =>
    if resource.IsValid then insert resource.identity objects else objects
  | .unsubscribe (some resource) => objects.erase resource.identity
  | _ => objects

variable {control : Control} {objects : Finset Identity}

theorem mem_mentioned_of_wanted {descriptor : Descriptor} (wanted : descriptor ∈ control.wanted) :
    descriptor ∈ control.mentioned := by
  unfold Control.wanted at wanted
  split at wanted
  · exact (List.mem_filter.mp wanted).1
  · exact (List.mem_filter.mp wanted).1
  · cases wanted

/-- Only objects that a message is about enter the set. -/
theorem mem_attend {identity : Identity} (present : identity ∈ control.attend objects) :
    identity ∈ objects ∨ ∃ descriptor ∈ control.mentioned, descriptor.identity = identity := by
  unfold attend at present
  split at present
  · obtain ⟨descriptor, named, rfl⟩ := List.mem_map.mp (List.mem_toFinset.mp present)
    exact .inr ⟨descriptor, (List.mem_filter.mp named).1, rfl⟩
  · rename_i resource
    split at present
    · rcases Finset.mem_insert.mp present with rfl | old
      · exact .inr ⟨resource, List.mem_singleton_self resource, rfl⟩
      · exact .inl old
    · exact .inl present
  · exact .inl (Finset.mem_of_mem_erase present)
  · exact .inl present

theorem attend_plain (plain : control.IsPlain) (earlier : ∀ identity ∈ objects, identity.IsPlain) :
    ∀ identity ∈ control.attend objects, identity.IsPlain := by
  intro identity present
  rcases mem_attend present with old | ⟨descriptor, named, rfl⟩
  · exact earlier identity old
  · exact plain descriptor named

/-- A message does to the keys of plain objects what it does to the objects. -/
theorem heed_image (plain : control.IsPlain) (earlier : ∀ identity ∈ objects, identity.IsPlain) :
    control.heed (objects.image Identity.key) = (control.attend objects).image Identity.key := by
  cases control with
  | subscribe resource? resources? =>
      cases resources? with
      | some resources =>
          ext key
          simp [heed, attend, Descriptor.key_identity]
      | none =>
          cases resource? with
          | none => rfl
          | some resource =>
              unfold heed attend
              dsimp only
              split
              · rw [Finset.image_insert, Descriptor.key_identity]
              · rfl
  | unsubscribe resource? =>
      cases resource? with
      | none => rfl
      | some resource =>
          exact (Identity.image_erase earlier (plain resource (List.mem_singleton_self _))).symm
  | setContext context => rfl

end Control

/-! ## Objects through a history -/

/-- Whether a happening names objects whose keys tell them apart. -/
def Happening.IsPlain : Happening → Prop
  | asks _ control => control.IsPlain
  | _ => True

instance : DecidablePred Happening.IsPlain
  | .asks _ control => inferInstanceAs (Decidable control.IsPlain)
  | .garbles | .replies | .receives _ | .hangsUp | .closes | .step _ _ | .tick _ _ =>
    .isTrue trivial

namespace Session

/-- Whether a task is the one that is registered for its object. -/
def owns (session : Session) (task : Task) : Bool :=
  session.watches.get? task.key = some task.generation

end Session

/-- The set of watched objects after a happening.  A closed session heeds no message, and a task
that ends takes its object off the list if the object is still registered for this task. -/
def Happening.attend (session : Session) (objects : Finset Identity) :
    Happening → Finset Identity
  | asks _ control => if session.isClosed then objects else control.attend objects
  | closes => ∅
  | step generation _ =>
    match session.task? generation with
    | some task =>
      if task.phase.isEnding && session.owns task then objects.erase task.descriptor.identity
      else objects
    | none => objects
  | _ => objects

namespace Session

/-- The set of watched objects after a history. -/
def objects (session : Session) (watched : Finset Identity) :
    List (Site × Happening) → Finset Identity
  | [] => watched
  | (site, happening) :: rest =>
    (happening.turn (site, session)).2.objects (happening.attend session watched) rest

/-- A session whose watched keys are those of some objects, and tell the objects apart. -/
structure Tracks (session : Session) (objects : Finset Identity) : Prop where
  plain : ∀ identity ∈ objects, identity.IsPlain
  watched : session.watched = objects.image Identity.key
  tasks : ∀ task ∈ session.tasks, task.descriptor.identity.IsPlain

namespace Tracks

variable {session after : Session} {objects : Finset Identity}

theorem fresh (context? : Option String) (isCancelled : Bool) :
    Tracks { context?, isCancelled } ∅ :=
  ⟨fun _ present => absurd present (Finset.notMem_empty _), rfl, List.forall_mem_nil _⟩

/-- An object is watched when its key is. -/
theorem key_mem_watched_iff (tracks : session.Tracks objects) {identity : Identity}
    (plain : identity.IsPlain) : identity.key ∈ session.watched ↔ identity ∈ objects := by
  rw [tracks.watched, Finset.mem_image]
  constructor
  · rintro ⟨other, present, same⟩
    exact (Identity.key_inj (tracks.plain other present) plain).mp same ▸ present
  · exact fun present => ⟨identity, present, rfl⟩

/-- Nothing is registered, and no task is started. -/
theorem frame (tracks : session.Tracks objects) (watches : after.watches = session.watches)
    (tasks : ∀ task ∈ after.tasks, task.descriptor.identity.IsPlain) : after.Tracks objects :=
  ⟨tracks.plain, (watched_of_watches watches).trans tracks.watched, tasks⟩

/-- A message registers and starts what it is about. -/
theorem handle (sane : session.Sane) (tracks : session.Tracks objects) (active? : Option String)
    {control : Control} (plain : control.IsPlain) :
    (session.handle active? control).Tracks
      (if session.isClosed then objects else control.attend objects) := by
  obtain ⟨dropped, started, heeds⟩ := session.handle_heeds active? control
  have tasks : ∀ task ∈ (session.handle active? control).tasks,
      task.descriptor.identity.IsPlain := by
    intro task present
    rw [heeds.arranges.tasks] at present
    rcases List.mem_append.mp present with old | new
    · obtain ⟨earlier, stored, rfl⟩ := List.mem_map.mp old
      exact tracks.tasks earlier stored
    · have listed := List.mem_of_getLast? (heeds.wanted task new)
      exact plain _ (Control.mem_mentioned_of_wanted (List.mem_filter.mp listed).1)
  cases closed : session.isClosed with
  | true =>
      refine ⟨tracks.plain, ?_, tasks⟩
      have unwatched := (sane.closed closed).2
      rw [if_pos rfl, ← tracks.watched]
      ext key
      rw [heeds.arranges.mem_watched_iff, heeds.closed closed, mem_watched, unwatched key]
      simp
  | false =>
      refine ⟨Control.attend_plain plain tracks.plain, ?_, tasks⟩
      rw [if_neg Bool.false_ne_true, heeds.watched closed, tracks.watched]
      exact Control.heed_image plain tracks.plain

/-- No turn changes what a task is for. -/
theorem tasks_of_advances (tracks : session.Tracks objects) {task : Task} {site : Site}
    (advances : task.Advances site session after) :
    ∀ other ∈ after.tasks, other.descriptor.identity.IsPlain :=
  advances.each tracks.tasks fun _ _ other stored _ => tracks.tasks other stored

/-- A task that ends takes its own object off the list. -/
theorem step (tracks : session.Tracks objects) {task : Task} (present : task ∈ session.tasks)
    (due : Nat) (site : Site) :
    (task.step due (site, session)).2.Tracks
      (if task.phase.isEnding && session.owns task then objects.erase task.descriptor.identity
        else objects) := by
  have tasks := tracks.tasks_of_advances (task.step_advances due site session)
  have own : task.descriptor.identity.IsPlain := tracks.tasks task present
  cases ending : task.phase.isEnding with
  | false => exact tracks.frame ((task.step_change due (site, session)).watches ending) tasks
  | true =>
      have ends := task.step_watches_of_ending ending due (site, session)
      rw [deregister_watches] at ends
      cases owned : session.owns task with
      | true =>
          rw [if_pos (by simpa [owns] using owned)] at ends
          refine ⟨fun identity kept => tracks.plain identity (Finset.mem_of_mem_erase kept), ?_,
            tasks⟩
          rw [watched_erase ends, tracks.watched]
          exact (Identity.image_erase tracks.plain own).symm
      | false =>
          rw [if_neg (by simpa [owns] using owned)] at ends
          exact tracks.frame ends tasks

theorem turn (sane : session.Sane) (tracks : session.Tracks objects) (site : Site)
    {happening : Happening} (plain : happening.IsPlain) :
    (happening.turn (site, session)).2.Tracks (happening.attend session objects) := by
  cases happening with
  | asks active? control => exact tracks.handle sane active? plain
  | garbles => exact tracks.frame rfl tracks.tasks
  | replies =>
      exact tracks.frame session.reply_retains.watches (session.reply_tasks.symm ▸ tracks.tasks)
  | receives => exact tracks.frame rfl tracks.tasks
  | hangsUp => exact tracks.frame rfl tracks.tasks
  | closes =>
      exact ⟨fun _ present => absurd present (Finset.notMem_empty _), rfl, tracks.tasks⟩
  | step generation due =>
      cases found : session.task? generation with
      | none => simpa [Happening.turn, Happening.attend, found] using tracks
      | some task =>
          simp only [Happening.turn, Happening.attend, found]
          split
          · exact tracks.step (task?_eq_some found).1 due site
          · rename_i waits
            have goesOn : task.phase.isEnding = false := by
              cases phase : task.phase <;> simp_all [Phase.isEnding, Task.canStep]
            rw [goesOn, Bool.false_and, if_neg Bool.false_ne_true]
            exact tracks
  | tick generation period =>
      cases found : session.task? generation with
      | none => simpa [Happening.turn, Happening.attend, found] using tracks
      | some task =>
          simp only [Happening.turn, Happening.attend, found]
          exact tracks.frame (task.tick_watches period (site, session))
            (tracks.tasks_of_advances (task.tick_advances period site session))

theorem live (sane : session.Sane) (tracks : session.Tracks objects)
    {history : List (Site × Happening)} (plain : ∀ entry ∈ history, entry.2.IsPlain) :
    (session.live history).Tracks (session.objects objects history) := by
  induction history generalizing session objects with
  | nil => exact tracks
  | cons entry rest ih =>
      obtain ⟨site, happening⟩ := entry
      have turned := tracks.turn sane site (plain _ List.mem_cons_self)
      exact ih (deed_sane (happening.deed (site, session)) sane) turned
        fun later present => plain later (List.mem_cons_of_mem _ present)

/-- While the session is not cancelled, the watched objects are those that a task serves. -/
theorem mem_iff_served (tracks : session.Tracks objects) (coherent : session.Coherent)
    (alive : session.isCancelled = false) {identity : Identity} :
    identity ∈ objects ↔
      ∃ task ∈ session.tasks, task.isServing = true ∧ task.descriptor.identity = identity := by
  constructor
  · intro present
    have plain := tracks.plain identity present
    obtain ⟨generation, registered⟩ :=
      mem_watched.mp ((tracks.key_mem_watched_iff plain).mpr present)
    obtain ⟨task, stored, role⟩ :=
      List.mem_map.mp ((coherent.served alive _ generation).mp registered)
    have same : task.key = identity.key := congrArg Role.key role
    exact ⟨task, stored, congrArg Role.isServing role,
      (Identity.key_inj (tracks.tasks task stored) plain).mp same⟩
  · rintro ⟨task, stored, serving, rfl⟩
    refine (tracks.key_mem_watched_iff (tracks.tasks task stored)).mp
      (mem_watched.mpr ⟨task.generation, (coherent.served alive _ _).mpr ?_⟩)
    exact List.mem_map.mpr ⟨task, stored, by simp [Task.role, Task.key, serving,
      Descriptor.key_identity]⟩

end Tracks

/-! ## What a message does to the watches of objects -/

variable {session : Session} {objects : Finset Identity}

namespace Tracks

theorem loses_eq (tracks : session.Tracks objects) {after : Session} {attended : Finset Identity}
    (later : after.Tracks attended) {task : Task} (present : task ∈ session.tasks) :
    session.loses after task =
      (session.owns task && decide (task.descriptor.identity ∉ attended)) := by
  have own := tracks.tasks task present
  rw [loses, owns, ← Bool.decide_and, decide_eq_decide,
    ← later.key_mem_watched_iff own, Descriptor.key_identity]
  rfl

/-- A message cancels the watches of the objects that leave the set, and starts one watch for each
object that enters it. -/
theorem handle_tasks (sane : session.Sane) (tracks : session.Tracks objects)
    (active? : Option String) {control : Control} (plain : control.IsPlain) :
    let attended := (Happening.asks active? control).attend session objects
    ∃ started : List Task,
      (session.handle active? control).tasks = (session.tasks.map fun task =>
        task.cancelIf (session.owns task && decide (task.descriptor.identity ∉ attended))) ++
          started ∧
      (started.map (·.descriptor.identity)).Nodup ∧
      ∀ identity, identity ∈ started.map (·.descriptor.identity) ↔
        identity ∈ attended ∧ identity ∉ objects := by
  intro attended
  have later : (session.handle active? control).Tracks attended :=
    tracks.handle sane active? plain
  obtain ⟨dropped, started, heeds⟩ := session.handle_heeds active? control
  have own : ∀ task ∈ started, task.descriptor.identity.IsPlain := fun task present =>
    later.tasks task (heeds.arranges.tasks ▸ List.mem_append_right _ present)
  refine ⟨started, ?_, ?_, fun identity => ?_⟩
  · rw [heeds.arranges.tasks]
    refine congrArg (· ++ started) (List.map_congr_left fun task present => ?_)
    rw [heeds.registers_eq_loses (sane.owner task present), tracks.loses_eq later present]
  · refine List.Nodup.of_map Identity.key ?_
    rw [List.map_map]
    exact heeds.arranges.keys_nodup
  · constructor
    · intro entered
      obtain ⟨task, present, rfl⟩ := List.mem_map.mp entered
      obtain ⟨watched, unwatched⟩ :=
        heeds.arranges.entered_iff.mp (List.mem_map_of_mem (f := Task.key) present)
      exact ⟨(later.key_mem_watched_iff (own task present)).mp watched,
        fun old => unwatched ((tracks.key_mem_watched_iff (own task present)).mpr old)⟩
    · rintro ⟨present, new⟩
      have named := later.plain identity present
      have entered := heeds.arranges.entered_iff.mpr
        ⟨(later.key_mem_watched_iff named).mpr present,
          fun old => new ((tracks.key_mem_watched_iff named).mp old)⟩
      obtain ⟨task, started, same⟩ := List.mem_map.mp entered
      exact List.mem_map.mpr ⟨task, started, (Identity.key_inj (own task started) named).mp same⟩

theorem subscribe_eq (tracks : session.Tracks objects) (active? : Option String)
    {descriptor : Descriptor} (plain : descriptor.identity.IsPlain) (valid : descriptor.IsValid) :
    session.subscribe active? descriptor =
      .ok (if session.isClosed ∨ descriptor.identity ∈ objects then session
        else (session.pin active?).start descriptor) := by
  have known : (session.isClosed || session.watches.has descriptor.key) = true ↔
      session.isClosed = true ∨ descriptor.identity ∈ objects := by
    rw [Bool.or_eq_true, ← tracks.key_mem_watched_iff plain, mem_watched, Assoc.has,
      Option.isSome_iff_exists]
    rfl
  unfold Session.subscribe
  rw [fault?_eq_none_iff.mpr valid]
  dsimp only
  simp only [known]
  split <;> rfl

theorem unsubscribe_tasks (sane : session.Sane) (tracks : session.Tracks objects)
    {descriptor : Descriptor} (plain : descriptor.identity.IsPlain) :
    (session.unsubscribe descriptor).tasks = session.tasks.map fun task =>
      task.cancelIf
        (session.owns task && decide (task.descriptor.identity = descriptor.identity)) := by
  unfold Session.unsubscribe
  rw [unwatch_tasks]
  refine List.map_congr_left fun task present => congrArg (Task.cancelIf · task) ?_
  rw [Bool.eq_iff_iff, registers_iff, Bool.and_eq_true, owns, decide_eq_true_iff,
    decide_eq_true_iff, ← Identity.key_inj (tracks.tasks task present) plain]
  constructor
  · rintro ⟨key, listed, registered⟩
    obtain rfl := List.mem_singleton.mp listed
    have own := sane.owner task present _ registered
    exact ⟨own ▸ registered, own.symm⟩
  · rintro ⟨registered, same⟩
    have own : task.key = descriptor.key := same
    exact ⟨descriptor.key, List.mem_singleton_self _, own ▸ registered⟩

end Tracks

/-! ## Sessions tell objects apart -/

/-- A session that tells objects apart: it does with the keys of its watches what it would do with
the objects. -/
structure Discerns (session : Session) (objects : Finset Identity) : Prop where
  /-- The watched keys are the keys of the watched objects. -/
  watchedKeys : session.watchedKeys = (objects.image Identity.key).sort (· ≤ ·)
  /-- Unless the session is cancelled, an object is watched when a task serves it. -/
  served : session.isCancelled = false → ∀ identity, identity ∈ objects ↔
    ∃ task ∈ session.tasks, task.isServing = true ∧ task.descriptor.identity = identity
  /-- A subscription is passed over when its very object is watched already.  Apart from that,
  only a closed session takes no subscriptions. -/
  subscribe : ∀ active? descriptor, descriptor.identity.IsPlain → descriptor.IsValid →
    session.subscribe active? descriptor =
      .ok (if session.isClosed ∨ descriptor.identity ∈ objects then session
        else (session.pin active?).start descriptor)
  /-- Only the watch of its very object is cancelled when a subscription is taken back. -/
  unsubscribe : ∀ descriptor, descriptor.identity.IsPlain →
    (session.unsubscribe descriptor).tasks = session.tasks.map fun task =>
      task.cancelIf
        (session.owns task && decide (task.descriptor.identity = descriptor.identity))
  /-- A message cancels the watches of the objects that leave the set, and starts one watch for
  each object that enters it. -/
  handle : ∀ active? control, control.IsPlain →
    let attended := (Happening.asks active? control).attend session objects
    ∃ started : List Task,
      (session.handle active? control).tasks = (session.tasks.map fun task =>
        task.cancelIf (session.owns task && decide (task.descriptor.identity ∉ attended))) ++
          started ∧
      (started.map (·.descriptor.identity)).Nodup ∧
      ∀ identity, identity ∈ started.map (·.descriptor.identity) ↔
        identity ∈ attended ∧ identity ∉ objects

/-- Where colons occur at most in names, two descriptors have the same key exactly when they name
the same object, and a session that was only asked for such objects tells them apart. -/
theorem live_discerns (context? : Option String) (isCancelled : Bool)
    (history : List (Site × Happening)) (plain : ∀ entry ∈ history, entry.2.IsPlain) :
    (∀ first second : Descriptor, first.identity.IsPlain → second.identity.IsPlain →
      (first.key = second.key ↔
        first.apiVersion = second.apiVersion ∧ first.kind = second.kind ∧
          first.space? = second.space? ∧ first.name = second.name)) ∧
    (Session.live { context?, isCancelled } history).Discerns
      (Session.objects { context?, isCancelled } ∅ history) := by
  have initial : Session.Sane { context?, isCancelled } := .fresh context? isCancelled
  have sane := live_sane initial history
  have tracks := (Tracks.fresh context? isCancelled).live initial plain
  refine ⟨fun first second one other =>
    (Identity.key_inj one other).trans Descriptor.identity_eq_iff, ?_, ?_, ?_, ?_, ?_⟩
  · rw [watchedKeys_eq_sort sane.coherent, tracks.watched]
  · exact fun alive identity => tracks.mem_iff_served sane.coherent alive
  · exact fun active? descriptor => tracks.subscribe_eq active?
  · exact fun descriptor => tracks.unsubscribe_tasks sane
  · exact fun active? control => tracks.handle_tasks sane active?

/-- A role binding in a namespace, if it has one. -/
def binding (rawSpace? : Option String) (name : String) : Descriptor :=
  { apiVersion := "rbac.authorization.k8s.io/v1", kind := "RoleBinding", name, rawSpace? }

/-- Two role bindings are to be watched.  The first one is asked for again, and the second one is
dropped. -/
def bindings : List (Site × Happening) :=
  let site : Site := { settings := .defaults none }
  [(site, .asks none (.subscribe (some (binding none "system:node")) none)),
    (site, .asks none (.subscribe (some (binding (some "system") "node")) none)),
    (site, .asks none (.subscribe (some (binding (some "null") "system:node")) none)),
    (site, .asks none (.unsubscribe (some (binding (some "system") "node"))))]

/-- A colon in the name of the first one is not taken for the end of a namespace. -/
theorem live_discerns_bindings :
    (∀ entry ∈ bindings, entry.2.IsPlain) ∧
      (binding none "system:node").key ≠ (binding (some "system") "node").key ∧
      (Session.live {} bindings).Discerns {(binding none "system:node").identity} := by
  have plain : ∀ entry ∈ bindings, entry.2.IsPlain := by decide +kernel
  obtain ⟨same, discerns⟩ := live_discerns none false bindings plain
  have watched : Session.objects {} ∅ bindings = {(binding none "system:node").identity} := by
    decide +kernel
  refine ⟨plain, fun joined => ?_, watched ▸ discerns⟩
  have named := (same _ _ (by decide +kernel) (by decide +kernel)).mp joined
  exact absurd named.2.2.2 (by decide +kernel)

end Session
end Watch
end KubeLens
