import Mathlib.Data.List.Induction
import KubeLens.Proofs.Lens.Activating
import KubeLens.Proofs.Lens.Mailing
import KubeLens.Proofs.Lens.Watching
import KubeLens.Proofs.Watch.Courses

/-!
# Streams of watches over runs

In every run a watch whose context can be connected to and whose `apiVersion` can be read gets its
feed, and tells its stream: the state of its object when it is first read, then each item of its
feed that concerns the object, in the order of the feed, and a farewell when the feed has ended.
Nothing else is told in its name, and nothing is left out unless the watch was dismissed: a peer
that goes on receiving hears all of it.
-/

namespace KubeLens

open Watch

namespace Event

/-- Whether an event dismisses the watches of a key: its peer drops the key or hangs up, or the
session is closed. -/
def Dismisses (id : Nat) (key : String) : Event → Prop
  | handleText place text =>
    place = id ∧ ∃ control, Control.read? text = some control ∧ control.Drops key
  | unsubscribe place descriptor => place = id ∧ descriptor.key = key
  | hangUp place | markClosed place | closeSession place => place = id
  | shutdown => True
  | _ => False

/-- Whether a watch may read its object again in an event. -/
def Rereads (id generation : Nat) : Event → Prop
  | tick place other => place = id ∧ other = generation
  | pass _ | check _ => True
  | _ => False

variable {event : Event} {id generation : Nat}

theorem dismisses_of_permits {key : String} {happening : Happening}
    (permits : event.Permits id happening) (dismisses : happening.Dismisses key) :
    event.Dismisses id key := by
  cases happening with
  | asks _ control =>
      rcases permits with ⟨text, rfl, read⟩ | ⟨descriptor, rfl, _, rfl⟩ | ⟨descriptor, rfl, rfl⟩
      · exact ⟨rfl, control, read, dismisses⟩
      · cases dismisses
      · exact ⟨rfl, dismisses⟩
  | hangsUp =>
      obtain rfl : event = .hangUp id := permits
      rfl
  | closes => rcases permits with rfl | rfl | rfl <;> trivial
  | _ => cases dismisses

theorem rereads_of_permits {period : Nat} (permits : event.Permits id (.tick generation period)) :
    event.Rereads id generation := by
  rcases permits with rfl | passes
  · exact ⟨rfl, rfl⟩
  · cases event with
    | pass | check => trivial
    | _ => cases passes

end Event

namespace Lens

/-! ## One event -/

variable {lens : Lens} {event : Event} {id generation : Nat} {descriptor : Descriptor}
  {context? : Option String} {gv : GroupVersion} {dismissed : Prop}

/-- A change of a cluster from outside leaves every watch alone. -/
theorem act_effect (outside : event.changesCluster = true) :
    Effect generation dismissed (fun _ => False) (lens.site, lens.session id)
      ((lens.act event).site, (lens.act event).session id) := by
  unfold Lens.session
  rw [act_hub outside]
  exact .idle (act_delivers outside).touches fun _ spot _ _ => (Option.some_ne_none spot).symm

theorem act_booked (sane : lens.hub.Sane) (booked : Hub.Booked lens.site lens.hub)
    (event : Event) : Hub.Booked (lens.act event).site (lens.act event).hub := by
  cases outside : event.changesCluster with
  | false => exact Hub.Booked.law.moves (act_moves outside sane).moves booked
  | true =>
      rw [act_hub outside]
      exact booked.serve (act_delivers outside).isOpenAt (act_delivers outside).keys_nodup

/-- A watch says nothing before it has read its object. -/
theorem act_silent (sane : lens.hub.Sane) (booked : Hub.Booked lens.site lens.hub)
    (silent : ¬(lens.session id).HasRead generation → (lens.session id).saidBy generation = []) :
    ¬((lens.act event).session id).HasRead generation →
      ((lens.act event).session id).saidBy generation = [] := by
  cases outside : event.changesCluster with
  | false => exact (Hub.Moves.silent (act_moves outside sane).moves sane booked silent).2
  | true =>
      have effect : Effect generation True (fun _ => False) (lens.site, lens.session id)
          ((lens.act event).site, (lens.act event).session id) := act_effect outside
      exact effect.silent (sane.session id).coherent silent

/-- The course of a watch goes on through every event. -/
theorem act_course {firsts agains : Source → Message → Prop} {finds : Prop}
    (sane : lens.hub.Sane) (booked : Hub.Booked lens.site lens.hub)
    (course : Course generation descriptor context? firsts agains dismissed finds
      (lens.site, lens.session id))
    (parses : GroupVersion.parseAllowCore descriptor.apiVersion = .ok gv)
    (connects : finds → lens.site.Connects context?)
    (dismisses : event.Dismisses id descriptor.key → dismissed)
    (begins : ¬(lens.session id).HasRead generation → ∀ source message,
      descriptor.Begins source lens.site.fleet message → firsts source message)
    (shows : event.Rereads id generation → ∀ source message,
      descriptor.Shows source lens.site.fleet message → agains source message) :
    Course generation descriptor context? firsts agains dismissed finds
      ((lens.act event).site, (lens.act event).session id) := by
  cases outside : event.changesCluster with
  | false =>
      exact (Hub.Moves.course (act_moves outside sane).moves sane booked course parses connects
        (fun happening permits dismissing =>
          dismisses (Event.dismisses_of_permits permits dismissing))
        begins fun period permits => shows (Event.rereads_of_permits permits)).2
  | true =>
      exact course.effect (sane.session id) (act_effect outside) parses
        (fun _ _ never => never.elim) begins nofun

/-! ## Reads in a run -/

/-- Whether a message tells what is stored at the event of a run in which a watch reads its object
for the first time. -/
def FirstRead (start : Lens) (events : List Event) (id generation : Nat)
    (descriptor : Descriptor) (source : Source) (message : Message) : Prop :=
  ∃ earlier event later, events = earlier ++ event :: later ∧
    ¬((start.run earlier).session id).HasRead generation ∧
    ((start.run (earlier ++ [event])).session id).HasRead generation ∧
    descriptor.Begins source (start.run earlier).site.fleet message

/-- Whether a message tells a first read, be it only at the event that follows a run. -/
def NextFirstRead (start : Lens) (events : List Event) (id generation : Nat)
    (descriptor : Descriptor) (source : Source) (message : Message) : Prop :=
  start.FirstRead events id generation descriptor source message ∨
    (¬((start.run events).session id).HasRead generation ∧
      descriptor.Begins source (start.run events).site.fleet message)

/-- Whether a message tells what is stored at an event of a run in which a watch may read its
object again. -/
def LaterRead (start : Lens) (events : List Event) (id generation : Nat)
    (descriptor : Descriptor) (source : Source) (message : Message) : Prop :=
  ∃ earlier event later, events = earlier ++ event :: later ∧ event.Rereads id generation ∧
    descriptor.Shows source (start.run earlier).site.fleet message

/-- Whether the cluster of a source did not answer gets at some time of a run. -/
def Hangs (start : Lens) (events : List Event) (source : Source) : Prop :=
  ∃ earlier later, events = earlier ++ later ∧ source.Hangs (start.run earlier).site.fleet

section Reads

variable {start : Lens} {events : List Event} {source : Source} {message : Message}

theorem FirstRead.more (read : start.FirstRead events id generation descriptor source message)
    (event : Event) :
    start.FirstRead (events ++ [event]) id generation descriptor source message := by
  obtain ⟨earlier, first, later, rfl, unread, reads, begins⟩ := read
  exact ⟨earlier, first, later ++ [event], by simp, unread, reads, begins⟩

theorem LaterRead.more (read : start.LaterRead events id generation descriptor source message)
    (event : Event) :
    start.LaterRead (events ++ [event]) id generation descriptor source message := by
  obtain ⟨earlier, reads, later, rfl, rereads, shows⟩ := read
  exact ⟨earlier, reads, later ++ [event], by simp, rereads, shows⟩

theorem NextFirstRead.firstRead {event : Event}
    (read : start.NextFirstRead events id generation descriptor source message)
    (reads : ((start.run (events ++ [event])).session id).HasRead generation) :
    start.FirstRead (events ++ [event]) id generation descriptor source message := by
  rcases read with earlier | ⟨unread, begins⟩
  · exact earlier.more event
  · exact ⟨events, event, [], rfl, unread, reads, begins⟩

end Reads

/-! ## Runs -/

variable {settings : Settings} {host : Host} {events earlier later : List Event} {task : Task}

theorem run_booked (settings : Settings) (host : Host) (events : List Event) :
    Hub.Booked ((onHost settings host).run events).site
      ((onHost settings host).run events).hub := by
  refine (run_induction (P := fun lens => lens.hub.Sane ∧ Hub.Booked lens.site lens.hub)
    (onHost settings host) events
    ⟨run_sane settings host [], (onHost_watches settings host).toBooked⟩ ?_).2
  intro before event _ ⟨sane, booked⟩
  exact ⟨act_sane event sane, act_booked sane booked event⟩

theorem run_silent (settings : Settings) (host : Host) (events : List Event)
    (unread : ¬(((onHost settings host).run events).session id).HasRead generation) :
    (((onHost settings host).run events).session id).saidBy generation = [] := by
  refine (run_induction (P := fun lens => lens.hub.Sane ∧ Hub.Booked lens.site lens.hub ∧
    (¬(lens.session id).HasRead generation → (lens.session id).saidBy generation = []))
    (onHost settings host) events
    ⟨run_sane settings host [], run_booked settings host [], fun _ => rfl⟩ ?_).2.2 unread
  intro before event _ ⟨sane, booked, silent⟩
  exact ⟨act_sane event sane, act_booked sane booked event, act_silent sane booked silent⟩

/-- After a run tasks wait in vain only for clusters that did not answer at some time. -/
theorem run_waitsOn (settings : Settings) (host : Host) (events : List Event) :
    ((onHost settings host).run events).hub.WaitsOn ((onHost settings host).Hangs events) := by
  -- From the end, since what hangs in a run is known before its last event.
  induction events using List.reverseRecOn with
  | nil => exact fun _ none_yet => absurd none_yet List.not_mem_nil
  | append_singleton events event ih =>
      have waits : ((onHost settings host).run events).hub.WaitsOn
          ((onHost settings host).Hangs (events ++ [event])) := by
        intro session opened task present source stalled
        obtain ⟨earlier, later, rfl, hangs⟩ := ih session opened task present source stalled
        exact ⟨earlier, later ++ [event], List.append_assoc _ _ _, hangs⟩
      rw [run_append, run_cons, run_nil]
      cases outside : event.changesCluster with
      | true => exact (act_hub outside).symm ▸ waits
      | false =>
          exact (Hub.Moves.waitsOn (act_moves outside (run_sane settings host events)).moves
            (fun source hangs => ⟨events, [event], rfl, hangs⟩) waits).2

/-- The course of a watch in a run. -/
def TakesCourse (start : Lens) (events : List Event) (id generation : Nat)
    (descriptor : Descriptor) (context? : Option String) (dismissed : Prop) : Prop :=
  let lens := start.run events
  Course generation descriptor context? (start.FirstRead events id generation descriptor)
    (start.LaterRead events id generation descriptor) dismissed (lens.site.Connects context?)
    (lens.site, lens.session id)

/-- A watch that was just started is on its way. -/
theorem takesCourse_of_starting
    (present : task ∈ (((onHost settings host).run events).session id).tasks)
    (starting : task.phase = .starting) (uncancelled : task.isCancelled = false)
    (online : (((onHost settings host).run events).session id).Online)
    (connects : ((onHost settings host).run events).site.Connects task.context?) :
    (onHost settings host).TakesCourse events id task.generation task.descriptor task.context?
      dismissed := by
  have found := Hub.task?_of_mem ((run_sane settings host events).session id).coherent present
  have early : task.phase.isEarly = true := by rw [starting]; rfl
  have unread : ¬(((onHost settings host).run events).session id).HasRead task.generation :=
    fun read => Bool.false_ne_true ((read.late task found).symm.trans early)
  exact .rising (.goes found rfl rfl (by rw [starting]; rfl) early uncancelled online
    (run_silent settings host events unread) fun _ => connects)

/-- The course of a watch goes on through a run in which its context can be connected to as long as
the watch has yet to look for its connection. -/
theorem run_course (later : List Event)
    (course : (onHost settings host).TakesCourse earlier id generation descriptor context?
      dismissed)
    (parses : GroupVersion.parseAllowCore descriptor.apiVersion = .ok gv)
    (connects : ∀ early event rest, later = early ++ event :: rest →
      let before := (onHost settings host).run (earlier ++ early)
      before.site.Connects context? →
        ∀ task, ((before.act event).session id).task? generation = some task →
          task.phase = .starting → (before.act event).site.Connects context?) :
    (onHost settings host).TakesCourse (earlier ++ later) id generation descriptor context?
      (dismissed ∨ ∃ event ∈ later, event.Dismisses id descriptor.key) := by
  -- The induction is from the end: the first read may fall into the last event, so what is known
  -- before that event is weakened to `NextFirstRead`, and strengthened again once it has happened.
  induction later using List.reverseRecOn with
  | nil =>
      rw [List.append_nil]
      exact Course.mono course (fun _ _ _ read => read) (fun _ _ read => read) .inl
        fun _ _ _ known => known
  | append_singleton later event ih =>
      have course := ih fun early other rest split =>
        connects early other (rest ++ [event]) (by rw [split]; simp)
      have sane := run_sane settings host (earlier ++ later)
      have booked := run_booked settings host (earlier ++ later)
      have weaker : Course generation descriptor context?
          ((onHost settings host).NextFirstRead (earlier ++ later) id generation descriptor)
          ((onHost settings host).LaterRead (earlier ++ later ++ [event]) id generation descriptor)
          (dismissed ∨ ∃ other ∈ later ++ [event], other.Dismisses id descriptor.key) _ _ :=
        Course.mono course (fun _ _ _ => Or.inl) (fun _ _ read => read.more event)
          (fun left => left.imp_right fun ⟨other, listed, dismisses⟩ =>
            ⟨other, List.mem_append_left _ listed, dismisses⟩)
          fun _ _ _ known => known
      have next := act_course sane booked weaker parses (fun known => known)
        (fun dismisses => .inr ⟨event, List.mem_append_right _ List.mem_cons_self, dismisses⟩)
        (fun unread _ _ begins => .inr ⟨unread, begins⟩)
        fun rereads _ _ shows => ⟨earlier ++ later, event, [], rfl, rereads, shows⟩
      rw [← List.append_assoc]
      unfold TakesCourse
      rw [run_append, run_cons, run_nil]
      refine next.mono (fun reads _ _ read => read.firstRead ?_) (fun _ _ read => read)
        (fun left => left) fun task found starting known =>
          connects later event [] rfl known task found starting
      rwa [run_append, run_cons, run_nil]

/-! ## Rounds -/

theorem act_attempts_of_round {count : Nat} (listed : event ∈ rounds id count) :
    lens.site.Attempts (lens.act event).site := by
  rcases mem_rounds listed with rfl | rfl
  · exact lens.settle_attempts
  · exact .refl lens.site

/-- In the rounds nobody dismisses a watch, and its context can be connected to as before. -/
theorem rounds_course (count : Nat)
    (course : (onHost settings host).TakesCourse events id generation descriptor context?
      dismissed)
    (parses : GroupVersion.parseAllowCore descriptor.apiVersion = .ok gv) :
    (onHost settings host).TakesCourse (events ++ rounds id count) id generation descriptor
      context? dismissed := by
  refine Course.mono (run_course (rounds id count) course parses ?_) (fun _ _ _ read => read)
    (fun _ _ read => read) (fun left => left.elim (fun before => before) ?_)
    fun _ _ _ known => known
  · rintro early event rest split before known _ _ _
    have listed : event ∈ rounds id count := by simp [split]
    exact known.attempts (act_attempts_of_round listed)
  · rintro ⟨event, listed, dismisses⟩
    rcases mem_rounds listed with rfl | rfl <;> exact dismisses.elim

/-! ## The stream -/

/-- Whether the context of a watch can be connected to at every time of a run at which the watch
has yet to look for its connection. -/
def StaysConnectable (start : Lens) (earlier later : List Event) (id : Nat) (task : Task) : Prop :=
  ∀ early rest, later = early ++ rest →
    ∀ current, ((start.run (earlier ++ early)).session id).task? task.generation = some current →
      current.phase = .starting → (start.run (earlier ++ early)).site.Connects task.context?

/-- Whether a watch has told everything so far at the end of a run: it has its feed and goes on, or
the feed has ended and the watch is gone, or it waits for a cluster that did not answer. -/
def TellsAll (start : Lens) (events : List Event) (id : Nat) (task : Task) : Prop :=
  let lens := start.run events
  let first := start.FirstRead events id task.generation task.descriptor
  let again := start.LaterRead events id task.generation task.descriptor
  ∃ source feed, source.feed? lens.site = some feed ∧
    (Current task.generation task.descriptor (first source) (again source) feed
        (lens.session id) ∨
      Finished task.generation task.descriptor (first source) (again source) feed
        (lens.session id) ∨
      start.Hangs events source ∧ ∃ current,
        (lens.session id).task? task.generation = some current ∧ current.phase = .stalled source)

/-- A watch that nobody dismissed has told everything when it has nothing left to do and there is
room for more messages. -/
theorem TakesCourse.tellsAll
    (course : (onHost settings host).TakesCourse events id task.generation task.descriptor context?
      dismissed)
    (kept : ¬dismissed) (room : (((onHost settings host).run events).session id).accepts = true)
    (waits : ∀ current,
      (((onHost settings host).run events).session id).task? task.generation = some current →
        current.canStep ((onHost settings host).run events).site
          (((onHost settings host).run events).session id) = false) :
    (onHost settings host).TellsAll events id task := by
  have coherent := ((run_sane settings host events).session id).coherent
  obtain ⟨source, feed, feed?, told⟩ := Course.settled coherent course kept room waits
  refine ⟨source, feed, feed?, told.imp_right (.imp_right fun ⟨current, found, stalled⟩ => ?_)⟩
  have stored := (Session.task?_eq_some found).1
  exact ⟨run_waitsOn settings host events _ (Hub.session_mem (Hub.inside_of_mem stored)) current
    stored source stalled, current, found, stalled⟩

/-- A watch that was started, whose context can be connected to and whose `apiVersion` can be read,
has at any later time told nothing, being on the way to its feed or dismissed, or else the stream
of some of the items that its feed delivered, from the first one on, or all of it and a farewell;
then the feed has ended, and the watch is gone and not registered.  If nobody dismisses it, it gets
its feed and tells everything, unless its cluster did not answer a get: it has done so when it has
nothing left to do and there is room for more messages, and it does so whenever its peer goes on
receiving. -/
theorem run_streams (settings : Settings) (host : Host) (earlier later : List Event) (id : Nat)
    (task : Task) (gv : GroupVersion)
    (present : task ∈ (((onHost settings host).run earlier).session id).tasks)
    (starting : task.phase = .starting) (uncancelled : task.isCancelled = false)
    (online : (((onHost settings host).run earlier).session id).Online)
    (connects : (onHost settings host).StaysConnectable earlier later id task)
    (parses : GroupVersion.parseAllowCore task.descriptor.apiVersion = .ok gv) :
    let start := onHost settings host
    let lens := start.run (earlier ++ later)
    let after := lens.session id
    let said := after.saidBy task.generation
    let first := start.FirstRead (earlier ++ later) id task.generation task.descriptor
    let again := start.LaterRead (earlier ++ later) id task.generation task.descriptor
    let dismissed := ∃ event ∈ later, event.Dismisses id task.key
    (said = [] ∧ (dismissed ∨ ∃ current, after.task? task.generation = some current ∧
        current.phase.source? = none ∧ current.phase.isRunning = true) ∨
      ∃ source feed, source.feed? lens.site = some feed ∧
        (task.descriptor.Started (first source) (again source) feed.delivered said ∨
          Finished task.generation task.descriptor (first source) (again source) feed after)) ∧
    (¬dismissed →
      ((∀ current, after.task? task.generation = some current →
          current.canStep lens.site after = false) →
        after.accepts = true → start.TellsAll (earlier ++ later) id task) ∧
      ∃ count, start.TellsAll (earlier ++ later ++ rounds id count) id task) := by
  intro start lens after said first again dismissed
  have sane := run_sane settings host
  have found : (((onHost settings host).run earlier).session id).task? task.generation =
      some task := Hub.task?_of_mem ((sane earlier).session id).coherent present
  have initial : start.TakesCourse earlier id task.generation task.descriptor task.context?
      False := by
    refine takesCourse_of_starting present starting uncancelled online ?_
    simpa using connects [] later rfl task (by simpa using found) starting
  have course : start.TakesCourse (earlier ++ later) id task.generation task.descriptor
      task.context? dismissed := by
    refine Course.mono (run_course later initial parses ?_) (fun _ _ _ read => read)
      (fun _ _ read => read) (fun left => left.elim False.elim fun dismisses => dismisses)
      fun _ _ _ known => known
    intro early event rest split before _ current chosen still
    have next := connects (early ++ [event]) rest (by simp [split]) current
    rw [← List.append_assoc, run_append, run_cons, run_nil] at next
    exact next chosen still
  refine ⟨Course.told course, fun kept => ⟨fun waits room => ?_, ?_⟩⟩
  · exact course.tellsAll kept room waits
  · obtain ⟨count, idle, room⟩ := rounds_room lens (sane _)
      (run_bounded settings host (earlier ++ later) id)
    rw [← run_append] at idle room
    have longer := rounds_course count course parses
    refine ⟨count, longer.tellsAll kept room ?_⟩
    intro current chosen
    have stored := (Session.task?_eq_some chosen).1
    exact Hub.canStep_of_isIdle idle (Hub.session_mem (Hub.inside_of_mem stored)) stored

/-- A session watches a stored pod. -/
def podWatched : List Event :=
  [.setContext "dev",
    .reshape "dev" (({} : Cluster).insert (.core "Pod" "pods")
      (.obj [("metadata", .obj [("name", .str "a")])])),
    .openSession none,
    .subscribe 0 { apiVersion := "v1", kind := "Pod", name := "a", plural? := some "pods" }]

/-- The pod is read and changes, something fails, and the feed ends. -/
def podLost : List Event :=
  [.settle, .push "dev" "pods//a" (.ok (.applied (.obj [("metadata", .obj [("name", .str "a")])]))),
    .push "dev" "pods//a" (.error (.watch "gone")), .settle, .detach "dev" "pods//a", .settle]

/-- The task of the watch. -/
def podTask : Task :=
  { generation := 0
    descriptor := { apiVersion := "v1", kind := "Pod", name := "a", plural? := some "pods" }
    context? := some "dev" }

/-- The only context can be connected to at all times. -/
theorem podTask_staysConnectable :
    (onHost (.defaults none) (.storing ["dev"])).StaysConnectable podWatched podLost 0 podTask := by
  intro early rest split _ _ _
  have listed : early ∈ podLost.inits := List.mem_inits _ _ |>.mpr ⟨rest, split.symm⟩
  have open_always : ∀ early ∈ podLost.inits,
      let site := ((onHost (.defaults none) (.storing ["dev"])).run (podWatched ++ early)).site
      Switchboard.target site.host "dev" ∉ site.board.failed ∧ site.Describes "dev" ∧
        Switchboard.target site.host "dev" ∉ site.fleet.unreachable := by decide +kernel
  obtain ⟨unbarred, described, reachable⟩ := open_always early listed
  exact Site.connects_of_reachable (run_orderly _ _ _).coherent rfl unbarred described reachable

theorem run_streams_podLost :
    let start := onHost (.defaults none) (.storing ["dev"])
    let lens := start.run (podWatched ++ podLost)
    podTask ∈ ((start.run podWatched).session 0).tasks ∧
      ((start.run podWatched).session 0).Online ∧
      start.StaysConnectable podWatched podLost 0 podTask ∧
      ∃ source feed, source.feed? lens.site = some feed ∧
        Finished 0 podTask.descriptor
          (start.FirstRead (podWatched ++ podLost) 0 0 podTask.descriptor source)
          (start.LaterRead (podWatched ++ podLost) 0 0 podTask.descriptor source) feed
          (lens.session 0) := by
  intro start lens
  have present : podTask ∈ ((start.run podWatched).session 0).tasks := by
    have only : ((start.run podWatched).session 0).tasks = [podTask] := by rfl
    rw [only]
    exact List.mem_singleton_self podTask
  have online : ((start.run podWatched).session 0).Online :=
    ⟨by decide +kernel, by decide +kernel⟩
  have gone : (lens.session 0).task? 0 = none := by decide +kernel
  have forgotten : (lens.session 0).watches.get? podTask.descriptor.key = none := by decide +kernel
  have kept : ¬∃ event ∈ podLost, event.Dismisses 0 podTask.key := by
    simp [podLost, Event.Dismisses]
  obtain ⟨_, completes⟩ := run_streams (.defaults none) (.storing ["dev"]) podWatched podLost 0
    podTask ⟨"", "v1"⟩ present rfl rfl online podTask_staysConnectable (by rfl)
  obtain ⟨source, feed, feed?, told⟩ := (completes kept).1
    (fun current chosen => absurd (gone.symm.trans chosen) nofun) (by decide +kernel)
  refine ⟨present, online, podTask_staysConnectable, source, feed, feed?, ?_⟩
  rcases told with current | finished | ⟨_, task, chosen, _⟩
  · exact absurd (forgotten.symm.trans current.registered) nofun
  · exact finished
  · exact absurd (gone.symm.trans chosen) nofun

end Lens
end KubeLens
