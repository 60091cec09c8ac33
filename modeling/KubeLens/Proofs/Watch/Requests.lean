import Mathlib.Data.Finset.Sort
import Mathlib.Data.String.Basic
import KubeLens.Proofs.Watch.Utterances

/-!
# What control messages ask for

A control message names the objects that are to be watched from now on.  Seen from outside, a
session keeps a set of keys and changes it as it is told.  Seen from inside, the watches of keys
that stay are not touched, those of keys that leave are cancelled, and each key that enters gets
one new task.
-/

namespace KubeLens
namespace Watch

/-! ## The set of keys -/

/-- Whether everything that must be filled is filled. -/
def Descriptor.IsValid (descriptor : Descriptor) : Prop :=
  Text.isBlankText descriptor.apiVersion = false ∧ Text.isBlankText descriptor.kind = false ∧
    Text.isBlankText descriptor.name = false

instance : DecidablePred Descriptor.IsValid := fun _ =>
  inferInstanceAs (Decidable (_ ∧ _ ∧ _))

namespace Control

/-- The valid descriptors of objects that a message asks to watch. -/
def wanted : Control → List Descriptor
  | .subscribe _ (some resources) => resources.filter (·.IsValid)
  | .subscribe (some resource) none => [resource].filter (·.IsValid)
  | _ => []

/-- The last valid descriptor of an object in a message. -/
def wanted? (control : Control) (key : String) : Option Descriptor :=
  (control.wanted.filter (·.key = key)).getLast?

/-- The set of watched keys after a message. -/
def heed (keys : Finset String) : Control → Finset String
  | .subscribe _ (some resources) =>
    ((resources.filter (·.IsValid)).map Descriptor.key).toFinset
  | .subscribe (some resource) none =>
    if resource.IsValid then insert resource.key keys else keys
  | .unsubscribe (some resource) => keys.erase resource.key
  | _ => keys

end Control

namespace Session

theorem fault?_eq_none_iff {descriptor : Descriptor} :
    fault? descriptor = none ↔ descriptor.IsValid := by
  have blank : ∀ field value, (if Text.isBlankText value then some
      (ServiceError.fieldRequired ("resource " ++ field)) else none) = none ↔
        Text.isBlankText value = false := by
    intro field value
    rw [ite_eq_right_iff, ← Bool.not_eq_true]
    exact imp_congr_right fun _ => iff_of_false nofun id
  unfold fault? Descriptor.IsValid
  rw [Option.or_eq_none_iff, Option.or_eq_none_iff, blank, blank, blank, and_assoc]

theorem isNone_fault? (descriptor : Descriptor) :
    (fault? descriptor).isNone = decide descriptor.IsValid := by
  rw [Bool.eq_iff_iff, Option.isNone_iff_eq_none, fault?_eq_none_iff, decide_eq_true_iff]

/-- Only objects are watched whose descriptors are valid. -/
theorem subscribe_isOk (session : Session) (active? : Option String) (descriptor : Descriptor) :
    (∃ after, session.subscribe active? descriptor = .ok after) ↔ descriptor.IsValid := by
  rw [← fault?_eq_none_iff]
  unfold Session.subscribe
  cases fault? descriptor with
  | some error => simp
  | none =>
      dsimp only
      split <;> simp

/-- The keys of the watched objects as a set. -/
def watched (session : Session) : Finset String :=
  (Assoc.keys session.watches).toFinset

theorem mem_watched {session : Session} {key : String} :
    key ∈ session.watched ↔ ∃ generation, session.watches.get? key = some generation := by
  rw [watched, List.mem_toFinset, Assoc.get?_isSome_iff]

/-- The keys of the watched objects are their set in order. -/
theorem watchedKeys_eq_sort {session : Session} (coherent : session.Coherent) :
    session.watchedKeys = session.watched.sort (· ≤ ·) := by
  unfold Session.watchedKeys watched
  have sorted := @List.pairwise_mergeSort String (fun a b => decide (a ≤ b))
    (by simpa using fun _ _ _ => le_trans) (by simpa using le_total) (Assoc.keys session.watches)
  refine List.Perm.eq_of_pairwise' (r := (· ≤ ·)) (by simpa using sorted)
    (Finset.pairwise_sort _ _) ?_
  refine (List.mergeSort_perm _ _).trans ?_
  refine ((Finset.sort_perm_toList _ _).trans (List.toFinset_toList ?_)).symm
  exact coherent.keys_nodup

/-! ## Watches that leave -/

end Session

/-- A task that is cancelled, or left alone. -/
def Task.cancelIf (leaves : Bool) (task : Task) : Task :=
  { task with isCancelled := task.isCancelled || leaves }

@[simp] theorem Task.cancelIf_false (task : Task) : task.cancelIf false = task := by
  simp [Task.cancelIf]

@[simp] theorem Task.cancelIf_cancelIf (task : Task) (first second : Bool) :
    (task.cancelIf first).cancelIf second = task.cancelIf (first || second) := by
  simp [Task.cancelIf, Bool.or_assoc]

namespace Session

/-- Whether a task is registered under one of these keys. -/
def registers (session : Session) (keys : List String) (task : Task) : Bool :=
  keys.any fun key => session.watches.get? key = some task.generation

theorem registers_iff {session : Session} {keys : List String} {task : Task} :
    session.registers keys task = true ↔
      ∃ key ∈ keys, session.watches.get? key = some task.generation := by
  simp [registers]

theorem cancelTask_tasks (session : Session) (generation : Nat) :
    (session.cancelTask generation).tasks =
      session.tasks.map fun task => task.cancelIf (task.generation = generation) := by
  refine List.map_congr_left fun task _ => ?_
  by_cases same : task.generation = generation <;> simp [Task.cancelIf, same]

theorem unwatch_get? (session : Session) (key other : String) :
    (session.unwatch key).watches.get? other =
      if key = other then none else session.watches.get? other := by
  unfold Session.unwatch
  split
  · rw [cancelTask_watches, Assoc.get?_erase]
  · rename_i absent
    split
    · rename_i same
      rw [← same, absent]
    · rfl

theorem unwatch_tasks (session : Session) (key : String) :
    (session.unwatch key).tasks =
      session.tasks.map fun task => task.cancelIf (session.registers [key] task) := by
  unfold Session.unwatch
  split
  · rename_i generation found
    rw [cancelTask_tasks]
    refine List.map_congr_left fun task _ => ?_
    simp [registers, found, eq_comm]
  · rename_i absent
    simp [registers, absent]

theorem unwatch_next (session : Session) (key : String) :
    (session.unwatch key).nextGeneration = session.nextGeneration := by
  unfold Session.unwatch
  split <;> rfl

/-- Several keys are dropped. -/
theorem foldl_unwatch_get? (session : Session) (keys : List String) (other : String) :
    (keys.foldl unwatch session).watches.get? other =
      if other ∈ keys then none else session.watches.get? other := by
  induction keys generalizing session with
  | nil => rfl
  | cons key rest ih =>
      rw [List.foldl_cons, ih, unwatch_get?]
      by_cases same : key = other
      · simp [same]
      · simp [same, Ne.symm same]

theorem foldl_unwatch_tasks (session : Session) (keys : List String) :
    (keys.foldl unwatch session).tasks =
      session.tasks.map fun task => task.cancelIf (session.registers keys task) := by
  induction keys generalizing session with
  | nil => simp [registers]
  | cons key rest ih =>
      rw [List.foldl_cons, ih, unwatch_tasks, List.map_map]
      refine List.map_congr_left fun task _ => ?_
      rw [Function.comp_apply, Task.cancelIf_cancelIf]
      refine congrArg (Task.cancelIf · task) ?_
      -- A key that occurs again was dropped with its first occurrence.
      rw [Bool.eq_iff_iff, Bool.or_eq_true, registers_iff, registers_iff, registers_iff]
      constructor
      · rintro (⟨_, first, found⟩ | ⟨other, later, found⟩)
        · exact ⟨key, List.mem_cons_self, List.mem_singleton.mp first ▸ found⟩
        · rw [unwatch_get?] at found
          split at found
          · cases found
          · exact ⟨other, List.mem_cons_of_mem _ later, found⟩
      · rintro ⟨other, present, found⟩
        by_cases same : key = other
        · exact .inl ⟨key, List.mem_singleton_self key, same ▸ found⟩
        · rcases List.mem_cons.mp present with first | later
          · exact absurd first.symm same
          · refine .inr ⟨other, later, ?_⟩
            rw [unwatch_get?, if_neg same]
            exact found

/-! ## Watches that enter -/

/-- Tasks are started for some descriptors, with generations in their order. -/
structure Starts (before after : Session) (descriptors : List Descriptor) (started : List Task) :
    Prop where
  tasks : after.tasks = before.tasks ++ started
  described : started.map (·.descriptor) = descriptors
  generations : started.map (·.generation) =
    List.range' before.nextGeneration descriptors.length
  next : after.nextGeneration = before.nextGeneration + descriptors.length
  fresh : ∀ task ∈ started, task.isCancelled = false ∧ task.phase = .starting
  registered : ∀ task ∈ started, after.watches.get? task.key = some task.generation
  others : ∀ key, key ∉ descriptors.map Descriptor.key →
    after.watches.get? key = before.watches.get? key

/-- Tasks are started for objects that differ. -/
theorem foldl_start (session : Session) {descriptors : List Descriptor}
    (nodup : (descriptors.map Descriptor.key).Nodup) :
    ∃ started, session.Starts (descriptors.foldl start session) descriptors started := by
  induction descriptors generalizing session with
  | nil =>
      exact ⟨[], by simp, rfl, rfl, rfl, List.forall_mem_nil _, List.forall_mem_nil _,
        fun _ _ => rfl⟩
  | cons descriptor rest ih =>
      obtain ⟨alone, nodupRest⟩ := List.nodup_cons.mp nodup
      obtain ⟨started, starts⟩ := ih (session.start descriptor) nodupRest
      let first : Task :=
        { generation := session.nextGeneration, descriptor, context? := session.context? }
      refine ⟨first :: started, ?_, ?_, ?_, ?_, ?_, ?_, ?_⟩
      · rw [List.foldl_cons, starts.tasks]
        simp [Session.start, first]
      · rw [List.map_cons, starts.described]
      · rw [List.map_cons, starts.generations]
        rfl
      · rw [List.foldl_cons, starts.next, List.length_cons]
        exact Nat.add_right_comm _ _ _
      · rintro task present
        rcases List.mem_cons.mp present with rfl | later
        · exact ⟨rfl, rfl⟩
        · exact starts.fresh task later
      · rintro task present
        rcases List.mem_cons.mp present with rfl | later
        · rw [List.foldl_cons]
          exact (starts.others _ alone).trans (Assoc.get?_put_self _ _ _)
        · exact starts.registered task later
      · intro key absent
        obtain ⟨different, absentRest⟩ := not_or.mp fun either => absent (List.mem_cons.mpr either)
        rw [List.foldl_cons, starts.others key absentRest, start_watches, Assoc.get?_put,
          if_neg (Ne.symm different)]

/-- Objects that are watched already are passed over. -/
theorem foldl_start_absent (session : Session) {wanted : Assoc String Descriptor}
    (nodup : (Assoc.keys wanted).Nodup) (keyed : ∀ entry ∈ wanted, entry.1 = entry.2.key) :
    wanted.foldl (fun session entry =>
        if session.watches.has entry.1 then session else session.start entry.2) session =
      ((wanted.filter fun entry => !session.watches.has entry.1).map (·.2)).foldl start
        session := by
  induction wanted generalizing session with
  | nil => rfl
  | cons entry rest ih =>
      obtain ⟨alone, nodupRest⟩ := List.nodup_cons.mp nodup
      have keyedRest : ∀ entry ∈ rest, entry.1 = entry.2.key :=
        fun entry later => keyed entry (List.mem_cons_of_mem _ later)
      rw [List.foldl_cons]
      by_cases present : session.watches.has entry.1 = true
      · rw [if_pos present, ih session nodupRest keyedRest,
          List.filter_cons_of_neg (by simpa using present)]
      · rw [if_neg present, ih _ nodupRest keyedRest,
          List.filter_cons_of_pos (by simpa using present), List.map_cons, List.foldl_cons]
        refine congrArg (fun fresh : List (String × Descriptor) =>
          (fresh.map (·.2)).foldl start _) ?_
        refine List.filter_congr fun other later => ?_
        have different : entry.2.key ≠ other.1 := by
          rw [← keyed entry List.mem_cons_self]
          exact fun equal => alone (List.mem_map.mpr ⟨other, later, equal.symm⟩)
        unfold Assoc.has
        rw [start_watches, Assoc.get?_put, if_neg different]

/-! ## Changes of the watched set -/

/-- The watches of some keys are cancelled, and tasks are started for keys that were not
watched. -/
structure Arranges (before after : Session) (dropped : List String) (started : List Task) :
    Prop where
  tasks : after.tasks =
    (before.tasks.map fun task => task.cancelIf (before.registers dropped task)) ++ started
  generations : started.map (·.generation) =
    List.range' before.nextGeneration started.length
  next : after.nextGeneration = before.nextGeneration + started.length
  fresh : ∀ task ∈ started, task.isCancelled = false ∧ task.phase = .starting
  keys_nodup : (started.map Task.key).Nodup
  absent : ∀ task ∈ started, before.watches.get? task.key = none
  registered : ∀ task ∈ started, after.watches.get? task.key = some task.generation
  others : ∀ key, key ∉ started.map Task.key →
    after.watches.get? key = if key ∈ dropped then none else before.watches.get? key

namespace Arranges

variable {before after later : Session} {dropped : List String} {started : List Task}

/-- What neither registers nor cancels can happen afterwards. -/
theorem retains (arranges : Arranges before after dropped started)
    (retains : after.Retains later) (tasks : later.tasks = after.tasks) :
    Arranges before later dropped started where
  tasks := tasks.trans arranges.tasks
  generations := arranges.generations
  next := retains.next.trans arranges.next
  fresh := arranges.fresh
  keys_nodup := arranges.keys_nodup
  absent := arranges.absent
  registered := by
    rw [retains.watches]
    exact arranges.registered
  others := by
    rw [retains.watches]
    exact arranges.others

theorem refl (session : Session) : Arranges session session [] [] :=
  ⟨by simp [registers], rfl, rfl, List.forall_mem_nil _, List.nodup_nil, List.forall_mem_nil _,
    List.forall_mem_nil _, fun _ _ => by simp⟩

/-- A key is watched afterwards when it is new, or when it was watched and is not dropped. -/
theorem mem_watched_iff (arranges : Arranges before after dropped started) {key : String} :
    key ∈ after.watched ↔
      key ∈ started.map Task.key ∨ (key ∉ dropped ∧ key ∈ before.watched) := by
  rw [mem_watched, mem_watched]
  by_cases entered : key ∈ started.map Task.key
  · obtain ⟨task, present, rfl⟩ := List.mem_map.mp entered
    exact iff_of_true ⟨_, arranges.registered task present⟩ (.inl entered)
  · rw [arranges.others key entered]
    by_cases left : key ∈ dropped <;> simp [entered, left]

/-- The keys of new tasks were not watched. -/
theorem not_watched (arranges : Arranges before after dropped started) {key : String}
    (entered : key ∈ started.map Task.key) : key ∉ before.watched := by
  obtain ⟨task, present, rfl⟩ := List.mem_map.mp entered
  rw [mem_watched, arranges.absent task present]
  nofun

/-- The new tasks are those of the keys that enter. -/
theorem entered_iff (arranges : Arranges before after dropped started) {key : String} :
    key ∈ started.map Task.key ↔ key ∈ after.watched ∧ key ∉ before.watched := by
  rw [arranges.mem_watched_iff]
  constructor
  · exact fun entered => ⟨.inl entered, arranges.not_watched entered⟩
  · rintro ⟨entered | ⟨_, watched⟩, unwatched⟩
    · exact entered
    · exact absurd watched unwatched

/-- A key that stays keeps its generation. -/
theorem get?_of_stays (arranges : Arranges before after dropped started) {key : String}
    (watched : key ∈ before.watched) (stays : key ∈ after.watched) :
    after.watches.get? key = before.watches.get? key := by
  have old : key ∉ started.map Task.key := fun entered => arranges.not_watched entered watched
  rcases arranges.mem_watched_iff.mp stays with entered | ⟨kept, _⟩
  · exact absurd entered old
  · rw [arranges.others key old, if_neg kept]

/-- A new generation belongs to one task. -/
theorem started_unique (arranges : Arranges before after dropped started) {first second : Task}
    (firstPresent : first ∈ started) (secondPresent : second ∈ started)
    (same : first.generation = second.generation) : first = second := by
  have nodup : (started.map (·.generation)).Nodup := arranges.generations ▸ List.nodup_range'
  exact List.inj_on_of_nodup_map nodup firstPresent secondPresent same

/-- New generations follow the ones that were used. -/
theorem generation_bounds (arranges : Arranges before after dropped started) {task : Task}
    (present : task ∈ started) :
    before.nextGeneration ≤ task.generation ∧ task.generation < after.nextGeneration := by
  have listed : task.generation ∈ started.map (·.generation) := List.mem_map_of_mem present
  rw [arranges.generations, List.mem_range'_1] at listed
  rwa [arranges.next]

end Arranges

/-- Some keys are dropped, and then some that were not watched are started. -/
theorem foldl_arranges (session : Session) (context? : Option String) (dropped : List String)
    (descriptors : List Descriptor) (nodup : (descriptors.map Descriptor.key).Nodup)
    (absent : ∀ descriptor ∈ descriptors, session.watches.get? descriptor.key = none) :
    ∃ started, started.map (·.descriptor) = descriptors ∧
      session.Arranges
        (descriptors.foldl start (dropped.foldl unwatch { session with context? })) dropped
        started := by
  obtain ⟨started, starts⟩ :=
    foldl_start (dropped.foldl unwatch { session with context? }) nodup
  have next : (dropped.foldl unwatch { session with context? }).nextGeneration =
      session.nextGeneration :=
    List.foldlRecOn (motive := fun later : Session =>
      later.nextGeneration = session.nextGeneration) _ _ rfl
      fun later same key _ => (later.unwatch_next key).trans same
  have keys : started.map Task.key = descriptors.map Descriptor.key := by
    rw [← starts.described, List.map_map]
    rfl
  have length : descriptors.length = started.length := by
    rw [← starts.described, List.length_map]
  refine ⟨started, starts.described, ?_, ?_, ?_, starts.fresh, keys ▸ nodup, ?_,
    starts.registered, ?_⟩
  · rw [starts.tasks, foldl_unwatch_tasks]
    rfl
  · rw [starts.generations, next, length]
  · rw [starts.next, next, length]
  · intro task present
    refine absent task.descriptor ?_
    rw [← starts.described]
    exact List.mem_map_of_mem present
  · intro key other
    rw [keys] at other
    rw [starts.others key other, foldl_unwatch_get?]

/-! ## Control messages -/

theorem owe_retains (session : Session) (messages : List Message) :
    session.Retains (session.owe messages) :=
  ⟨rfl, rfl, id⟩

theorem get?_foldl_put (map : Assoc String Descriptor) (descriptors : List Descriptor)
    (key : String) :
    (descriptors.foldl (fun map descriptor => Assoc.put map descriptor.key descriptor)
        map).get? key =
      (descriptors.filter (·.key = key)).getLast?.or (map.get? key) := by
  induction descriptors generalizing map with
  | nil => rfl
  | cons descriptor rest ih =>
      rw [List.foldl_cons, ih, Assoc.get?_put]
      by_cases same : descriptor.key = key
      · rw [if_pos same, List.filter_cons_of_pos (by simpa using same), List.getLast?_cons]
        cases (rest.filter (·.key = key)).getLast? <;> rfl
      · rw [if_neg same, List.filter_cons_of_neg (by simpa using same)]

theorem wanted_eq (descriptors : List Descriptor) :
    Session.wanted descriptors = (descriptors.filter (·.IsValid)).foldl
      (fun wanted descriptor => Assoc.put wanted descriptor.key descriptor) [] := by
  unfold Session.wanted
  simp only [isNone_fault?]

/-- Of several descriptors of an object the last one is wanted. -/
theorem get?_wanted (resource? : Option Descriptor) (descriptors : List Descriptor)
    (key : String) :
    (Session.wanted descriptors).get? key =
      (Control.subscribe resource? (some descriptors)).wanted? key := by
  rw [wanted_eq, get?_foldl_put]
  exact Option.or_none

theorem keys_wanted_nodup (descriptors : List Descriptor) :
    (Assoc.keys (Session.wanted descriptors)).Nodup :=
  List.foldlRecOn (motive := fun map : Assoc String Descriptor => (Assoc.keys map).Nodup) _ _
    List.nodup_nil fun map nodup descriptor _ => Assoc.keys_put_nodup map _ descriptor nodup

end Session

/-- A key is wanted when there is a valid descriptor with it. -/
theorem Control.wanted?_isSome_iff {control : Control} {key : String} :
    (∃ descriptor, control.wanted? key = some descriptor) ↔
      key ∈ control.wanted.map Descriptor.key := by
  unfold Control.wanted?
  rw [← Option.isSome_iff_exists, List.getLast?_isSome, ne_eq, List.filter_eq_nil_iff, List.mem_map]
  simp

namespace Session

/-- A message changes the watched set as it says, and starts its last valid descriptors. -/
structure Heeds (control : Control) (before after : Session) (dropped : List String)
    (started : List Task) : Prop where
  arranges : before.Arranges after dropped started
  wanted : ∀ task ∈ started, control.wanted? task.key = some task.descriptor
  watched : before.isClosed = false → after.watched = control.heed before.watched
  closed : before.isClosed = true → started = []

namespace Heeds

variable {control : Control} {session after : Session}

/-- A message changes nothing. -/
theorem idle (retains : session.Retains after) (tasks : after.tasks = session.tasks)
    (same : session.isClosed = false → control.heed session.watched = session.watched) :
    Heeds control session after [] [] := by
  refine ⟨(Arranges.refl session).retains retains tasks, List.forall_mem_nil _,
    fun opened => ?_, fun _ => rfl⟩
  rw [same opened]
  unfold Session.watched
  rw [retains.watches]

end Heeds

theorem subscribe_heeds (session : Session) (active? : Option String)
    (descriptor : Descriptor) :
    ∃ dropped started, Heeds (.subscribe (some descriptor) none) session
      (session.orReply (session.subscribe active? descriptor)) dropped started := by
  unfold Session.subscribe
  cases fault : fault? descriptor with
  | some error =>
      refine ⟨[], [], .idle (owe_retains _ _) rfl fun _ => ?_⟩
      refine if_neg fun valid => ?_
      rw [fault?_eq_none_iff.mpr valid] at fault
      cases fault
  | none =>
      have valid := fault?_eq_none_iff.mp fault
      have heed : (Control.subscribe (some descriptor) none).heed session.watched =
          insert descriptor.key session.watched := if_pos valid
      dsimp only
      split
      · rename_i known
        refine ⟨[], [], .idle ⟨rfl, rfl, id⟩ rfl fun opened => ?_⟩
        have present : session.watches.has descriptor.key = true := by simpa [opened] using known
        rw [heed]
        exact Finset.insert_eq_self.mpr (mem_watched.mpr (Option.isSome_iff_exists.mp present))
      · rename_i unknown
        obtain ⟨opened, absent⟩ :
            session.isClosed = false ∧ session.watches.has descriptor.key = false := by
          simpa using unknown
        obtain ⟨started, described, arranges⟩ := foldl_arranges session
          (session.context?.or active?) [] [descriptor]
          (List.nodup_singleton _) (by simpa using Assoc.get?_eq_none_of_not_has absent)
        obtain ⟨task, rfl⟩ : ∃ task, started = [task] := by
          refine List.length_eq_one_iff.mp ?_
          simpa using congrArg List.length described
        have own : task.descriptor = descriptor := by simpa using described
        refine ⟨[], [task], arranges, fun other present => ?_, fun _ => ?_, fun closed => ?_⟩
        · obtain rfl := List.mem_singleton.mp present
          simp [Control.wanted?, Control.wanted, own, valid, Task.key]
        · ext key
          rw [heed]
          refine arranges.mem_watched_iff.trans ?_
          simp [Task.key, own]
        · rw [opened] at closed
          cases closed

/-- The watched keys that a list of descriptors does not name. -/
def dropped (session : Session) (descriptors : List Descriptor) : List String :=
  (Assoc.keys session.watches).filter fun key => !(Session.wanted descriptors).has key

/-- What a list of descriptors names that is not watched, by key. -/
def entering (session : Session) (descriptors : List Descriptor) : List (String × Descriptor) :=
  (Session.wanted descriptors).filter fun entry => !session.watches.has entry.1

theorem mem_dropped {session : Session} {descriptors : List Descriptor} {key : String} :
    key ∈ session.dropped descriptors ↔
      key ∈ session.watched ∧ (Session.wanted descriptors).get? key = none := by
  simp [dropped, Assoc.has, watched]

theorem mem_entering {session : Session} {descriptors : List Descriptor}
    {entry : String × Descriptor} :
    entry ∈ session.entering descriptors ↔
      (Session.wanted descriptors).get? entry.1 = some entry.2 ∧
        session.watches.get? entry.1 = none := by
  unfold entering
  rw [List.mem_filter, Bool.not_eq_true', Assoc.has, Option.isSome_eq_false_iff,
    Option.isNone_iff_eq_none]
  exact and_congr_left fun _ =>
    ⟨Assoc.get?_of_mem (keys_wanted_nodup descriptors), Assoc.mem_of_get?⟩

theorem key_of_mem_entering {session : Session} {descriptors : List Descriptor}
    {entry : String × Descriptor} (present : entry ∈ session.entering descriptors) :
    entry.2.key = entry.1 :=
  (key_of_mem_wanted (List.mem_filter.mp present).1).symm

theorem entering_keys (session : Session) (descriptors : List Descriptor) :
    ((session.entering descriptors).map (·.2)).map Descriptor.key =
      (session.entering descriptors).map (·.1) := by
  rw [List.map_map]
  exact List.map_congr_left fun entry present => key_of_mem_entering present

theorem entering_nodup (session : Session) (descriptors : List Descriptor) :
    ((session.entering descriptors).map (·.1)).Nodup :=
  (keys_wanted_nodup descriptors).sublist (List.filter_sublist.map _)

/-- A bulk subscription drops what is not named, and then starts what is new. -/
theorem replace_eq {session : Session} (opened : session.isClosed = false)
    (active? : Option String) (descriptors : List Descriptor) :
    ∃ context?, session.replace active? descriptors =
      (((session.entering descriptors).map (·.2)).foldl start
        ((session.dropped descriptors).foldl unwatch { session with context? })).owe
          ((faults descriptors).map fun error => .error error.message) := by
  obtain ⟨context?, pinned⟩ : ∃ context?,
      (if (Session.wanted descriptors).isEmpty then session else session.pin active?) =
        { session with context? } := by
    split
    · exact ⟨session.context?, rfl⟩
    · exact ⟨_, rfl⟩
  refine ⟨context?, ?_⟩
  unfold Session.replace
  rw [if_neg (by simp [opened])]
  dsimp only
  rw [pinned, foldl_start_absent _ (keys_wanted_nodup descriptors) fun entry => key_of_mem_wanted]
  -- Nothing that is named is dropped, so what is new is so before and after the drops.
  refine congrArg (fun entries : List (String × Descriptor) =>
    Session.owe ((entries.map (·.2)).foldl start _) _) ?_
  refine List.filter_congr fun entry present => ?_
  have named := Assoc.get?_of_mem (keys_wanted_nodup descriptors) present
  unfold Assoc.has
  rw [foldl_unwatch_get?, if_neg]
  intro left
  rw [(mem_dropped.mp left).2] at named
  cases named

theorem replace_heeds (session : Session) (active? : Option String)
    (resource? : Option Descriptor) (descriptors : List Descriptor) :
    ∃ dropped started, Heeds (.subscribe resource? (some descriptors)) session
      (session.replace active? descriptors) dropped started := by
  cases closed : session.isClosed with
  | true =>
      refine ⟨[], [], ?_⟩
      unfold Session.replace
      rw [if_pos closed]
      exact .idle ⟨rfl, rfl, id⟩ rfl fun opened => absurd closed (by simp [opened])
  | false =>
      obtain ⟨context?, replaced⟩ := replace_eq closed active? descriptors
      obtain ⟨started, described, moved⟩ := foldl_arranges session context?
        (session.dropped descriptors) ((session.entering descriptors).map (·.2))
        (session.entering_keys descriptors ▸ session.entering_nodup descriptors) (by
          intro descriptor present
          obtain ⟨entry, stored, rfl⟩ := List.mem_map.mp present
          rw [key_of_mem_entering stored]
          exact (mem_entering.mp stored).2)
      have arranges : session.Arranges (session.replace active? descriptors)
          (session.dropped descriptors) started := by
        rw [replaced]
        exact moved.retains (owe_retains _ _) rfl
      have keys : started.map Task.key = (session.entering descriptors).map (·.1) := by
        rw [← entering_keys, ← described, List.map_map]
        rfl
      refine ⟨_, started, arranges, fun task present => ?_, fun _ => ?_, fun shut => ?_⟩
      · have listed : task.descriptor ∈ (session.entering descriptors).map (·.2) :=
          described ▸ List.mem_map_of_mem present
        obtain ⟨entry, stored, same⟩ := List.mem_map.mp listed
        rw [← get?_wanted, Task.key, ← same, key_of_mem_entering stored]
        exact (mem_entering.mp stored).1
      · ext key
        have named : key ∈ (Control.subscribe resource? (some descriptors)).heed session.watched ↔
            ∃ descriptor, (Session.wanted descriptors).get? key = some descriptor := by
          rw [get?_wanted resource?, Control.wanted?_isSome_iff]
          exact List.mem_toFinset
        rw [arranges.mem_watched_iff, named, keys, List.mem_map, mem_dropped, mem_watched]
        constructor
        · rintro (⟨entry, stored, rfl⟩ | ⟨stays, watched⟩)
          · exact ⟨_, (mem_entering.mp stored).1⟩
          · exact Option.ne_none_iff_exists'.mp fun unnamed => stays ⟨watched, unnamed⟩
        · rintro ⟨descriptor, wanted⟩
          cases found : session.watches.get? key with
          | none => exact .inl ⟨(key, descriptor), mem_entering.mpr ⟨wanted, found⟩, rfl⟩
          | some generation =>
              refine .inr ⟨fun left => ?_, generation, rfl⟩
              rw [left.2] at wanted
              cases wanted
      · rw [closed] at shut
        cases shut

/-- Every message is heeded. -/
theorem handle_heeds (session : Session) (active? : Option String) (control : Control) :
    ∃ dropped started,
      Heeds control session (session.handle active? control) dropped started := by
  cases control with
  | subscribe resource? resources? =>
      cases resources? with
      | some resources => exact replace_heeds session active? resource? resources
      | none =>
          cases resource? with
          | some resource => exact subscribe_heeds session active? resource
          | none => exact ⟨[], [], .idle (owe_retains _ _) rfl fun _ => rfl⟩
  | unsubscribe resource? =>
      cases resource? with
      | some resource =>
          obtain ⟨started, described, arranges⟩ := foldl_arranges session session.context?
            [resource.key] [] List.nodup_nil (List.forall_mem_nil _)
          obtain rfl := List.map_eq_nil_iff.mp described
          refine ⟨[resource.key], [], arranges, List.forall_mem_nil _, fun _ => ?_, fun _ => rfl⟩
          ext key
          refine arranges.mem_watched_iff.trans ?_
          simp [Control.heed]
      | none => exact ⟨[], [], .idle (owe_retains _ _) rfl fun _ => rfl⟩
  | setContext context => exact ⟨[], [], .idle ⟨rfl, rfl, id⟩ rfl fun _ => rfl⟩

/-! ## Watches before and after a message -/

/-- Whether a task serves a key that a later session does not watch. -/
def loses (before after : Session) (task : Task) : Bool :=
  before.watches.get? task.key = some task.generation ∧ task.key ∉ after.watched

/-- What a message does to the watches of a session. -/
structure Minds (control : Control) (before after : Session) : Prop where
  /-- A key that stays is served by the same task, which did not change. -/
  keeps : ∀ key ∈ before.watched, key ∈ after.watched →
    ∃ task ∈ before.tasks, task.key = key ∧ task.isCancelled = false ∧
      before.watches.get? key = some task.generation ∧
      after.watches.get? key = some task.generation ∧ task ∈ after.tasks
  /-- The task of a key that leaves is cancelled. -/
  cancels : ∀ key ∈ before.watched, key ∉ after.watched →
    ∃ task ∈ before.tasks, task.key = key ∧ before.watches.get? key = some task.generation ∧
      { task with isCancelled := true } ∈ after.tasks
  /-- Each key that enters is served by one new task, for the last valid descriptor of the key.
  Nothing else happens to tasks. -/
  starts : ∃ started : List Task,
    after.tasks = (before.tasks.map fun task => task.cancelIf (before.loses after task)) ++
      started ∧
    (started.map Task.key).Nodup ∧
    (∀ key, key ∈ started.map Task.key ↔ key ∈ after.watched ∧ key ∉ before.watched) ∧
    ∀ task ∈ started, control.wanted? task.key = some task.descriptor ∧
      after.watches.get? task.key = some task.generation ∧
      before.nextGeneration ≤ task.generation ∧ task.generation < after.nextGeneration ∧
      task.isCancelled = false ∧ task.phase = .starting
  /-- Each task has its own generation, and those of new tasks were never used. -/
  generations : (after.tasks.map (·.generation)).Nodup ∧
    ∀ task ∈ before.tasks, task.generation < before.nextGeneration
  /-- No task says anything. -/
  utters : Utters none before after

/-- A watched key of a session that is not cancelled is served by a task. -/
theorem Coherent.owner {session : Session} (coherent : session.Coherent)
    (alive : session.isCancelled = false) {key : String} {generation : Nat}
    (registered : session.watches.get? key = some generation) :
    ∃ task ∈ session.tasks, task.generation = generation ∧ task.key = key ∧
      task.isCancelled = false := by
  obtain ⟨task, present, role⟩ :=
    List.mem_map.mp ((coherent.served alive key generation).mp registered)
  have serving : task.isServing = true := congrArg Role.isServing role
  refine ⟨task, present, congrArg Role.generation role, congrArg Role.key role, ?_⟩
  unfold Task.isServing at serving
  simp_all

/-- A task is registered at most under its own key. -/
theorem Coherent.own_key {session : Session} (coherent : session.Coherent)
    (alive : session.isCancelled = false) {task : Task} (present : task ∈ session.tasks)
    (key : String) (registered : session.watches.get? key = some task.generation) :
    key = task.key := by
  obtain ⟨owner, stored, generation, same, _⟩ := coherent.owner alive registered
  rw [← same, coherent.task_unique stored present generation]

namespace Heeds

variable {control : Control} {before after : Session} {dropped : List String}
  {started : List Task}

/-- A task that is registered at most under its own key loses it when the message drops it. -/
theorem registers_eq_loses (heeds : Heeds control before after dropped started) {task : Task}
    (own : ∀ key, before.watches.get? key = some task.generation → key = task.key) :
    before.registers dropped task = before.loses after task := by
  rw [Bool.eq_iff_iff, registers_iff, loses, decide_eq_true_iff, heeds.arranges.mem_watched_iff]
  constructor
  · rintro ⟨key, left, registered⟩
    obtain rfl := own key registered
    refine ⟨registered, ?_⟩
    rintro (entered | ⟨stays, _⟩)
    · exact heeds.arranges.not_watched entered (mem_watched.mpr ⟨_, registered⟩)
    · exact stays left
  · rintro ⟨registered, unwatched⟩
    refine ⟨task.key, ?_, registered⟩
    by_contra stays
    exact unwatched (.inr ⟨stays, mem_watched.mpr ⟨_, registered⟩⟩)

theorem mem_tasks (heeds : Heeds control before after dropped started)
    (coherent : before.Coherent) (alive : before.isCancelled = false) {task : Task}
    (present : task ∈ before.tasks) : task.cancelIf (before.loses after task) ∈ after.tasks := by
  rw [heeds.arranges.tasks, ← heeds.registers_eq_loses (coherent.own_key alive present)]
  exact List.mem_append_left _ (List.mem_map_of_mem present)

/-- What a message does to the watches of a session that is not cancelled. -/
theorem minds (heeds : Heeds control before after dropped started) (coherent : before.Coherent)
    (alive : before.isCancelled = false) (kept : after.Coherent)
    (utters : Utters none before after) : Minds control before after where
  keeps := by
    intro key watched stays
    obtain ⟨_, registered⟩ := mem_watched.mp watched
    obtain ⟨task, present, rfl, rfl, uncancelled⟩ := coherent.owner alive registered
    refine ⟨task, present, rfl, uncancelled, registered, ?_, ?_⟩
    · rw [heeds.arranges.get?_of_stays watched stays, registered]
    · have stored := heeds.mem_tasks coherent alive present
      have unchanged : before.loses after task = false := by simp [loses, stays]
      rwa [unchanged, Task.cancelIf_false] at stored
  cancels := by
    intro key watched leaves
    obtain ⟨_, registered⟩ := mem_watched.mp watched
    obtain ⟨task, present, rfl, rfl, _⟩ := coherent.owner alive registered
    refine ⟨task, present, rfl, registered, ?_⟩
    have stored := heeds.mem_tasks coherent alive present
    have lost : before.loses after task = true := by simp [loses, registered, leaves]
    rw [lost] at stored
    simpa [Task.cancelIf] using stored
  starts := by
    refine ⟨started, ?_, heeds.arranges.keys_nodup, fun key => ?_, fun task present => ?_⟩
    · rw [heeds.arranges.tasks]
      refine congrArg (· ++ started) (List.map_congr_left fun task present => ?_)
      rw [heeds.registers_eq_loses (coherent.own_key alive present)]
    · exact heeds.arranges.entered_iff
    · obtain ⟨old, new⟩ := heeds.arranges.generation_bounds present
      obtain ⟨uncancelled, starting⟩ := heeds.arranges.fresh task present
      exact ⟨heeds.wanted task present, heeds.arranges.registered task present, old, new,
        uncancelled, starting⟩
  generations := by
    have nodup := kept.generations_nodup
    rw [roles, List.map_map] at nodup
    exact ⟨nodup, fun task present => coherent.role_below _ (List.mem_map_of_mem present)⟩
  utters := utters

end Heeds

end Session
end Watch
end KubeLens
