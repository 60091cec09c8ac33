import KubeLens.Proofs.Server.Sessions

/-!
# What is kept of a connection

Whatever a connection does, and whatever happens to its session meanwhile: the session was asked to
handle the texts that the reader has taken, and nothing else until it was asked to close; the
writer has sent the first messages of the session, and has finished only when there are no others
and nobody is left to say more.
-/

namespace KubeLens
namespace Server

open Watch

/-! ## Inputs -/

namespace Input

variable {inputs front : List Input}

theorem textsBefore_append (plain : ∀ input ∈ front, input.isLast = false) (rest : List Input) :
    textsBefore (front ++ rest) = front.filterMap text? ++ textsBefore rest := by
  unfold textsBefore
  rw [List.takeWhile_append_of_pos fun input present => by simp [plain input present],
    List.filterMap_append]

theorem textsBefore_of_isLast {last : Input} (ends : last.isLast = true) (rest : List Input) :
    textsBefore (last :: rest) = [] := by
  unfold textsBefore
  rw [List.takeWhile_cons_of_neg (by simp [ends])]
  rfl

end Input

/-! ## What a connection can do -/

namespace Connection

/-- What a move can come to, for the connection and for the service. -/
inductive Change (connection : Connection) (session : Session) :
    Move → Connection × List Event → Prop
  | rests (move : Move) : Change connection session move (connection, [])
  | receives (input : Input) :
      Change connection session (.receive input)
        ({ connection with received := connection.received ++ [input] }, [])
  /-- The reader takes an input that does not end the connection. -/
  | takes (input : Input) (reads : connection.isOpen = true)
      (next : connection.received[connection.taken]? = some input)
      (plain : input.isLast = false) :
      Change connection session .read
        ({ connection with taken := connection.taken + 1 },
          (input.text?.map (Event.handleText connection.session)).toList)
  /-- The reader takes an input that ends the connection. -/
  | stops (input : Input) (reads : connection.isOpen = true)
      (next : connection.received[connection.taken]? = some input)
      (last : input.isLast = true) :
      Change connection session .read
        ({ connection with taken := connection.taken + 1 }.leave session)
  /-- The reader notices that the session was cancelled. -/
  | quits (reads : connection.isOpen = true) (cancelled : session.isCancelled = true) :
      Change connection session .notice (connection.leave session)
  | releases (closing : connection.reader = .closing)
      (ended : ∀ task ∈ session.tasks, task.generation ∉ connection.awaited) :
      Change connection session .release ({ connection with reader := .gone }, [])
  | writes (message : Message) (writing : connection.writer = .writing)
      (next : connection.next? session = some message) :
      Change connection session .write
        ({ connection with written := connection.written ++ [message] },
          [.receive connection.session 1])
  | fails (writing : connection.writer = .writing) :
      Change connection session .fail
        ({ connection with writer := .broken }, [.hangUp connection.session])
  | finishes (gone : connection.reader = .gone) (idle : session.tasks = [])
      (done : connection.next? session = none) :
      Change connection session .finish ({ connection with writer := .finished }, [])

theorem move_change (connection : Connection) (session : Session) (move : Move) :
    connection.Change session move (connection.move session move) := by
  cases move with
  | receive input => exact .receives input
  | read =>
      unfold Connection.move
      dsimp only
      split
      · rename_i input reading next
        have reads : connection.isOpen = true := by simp [isOpen, reading]
        cases input with
        | frame frame =>
            cases frame with
            | text content => exact .takes _ reads next rfl
            | binary => exact .takes _ reads next rfl
            | ping => exact .takes _ reads next rfl
            | close => exact .stops _ reads next rfl
        | failure => exact .stops _ reads next rfl
        | stop => exact .stops _ reads next rfl
      · exact .rests _
  | notice =>
      unfold Connection.move
      dsimp only
      split
      · rename_i noticed
        obtain ⟨reads, cancelled⟩ := Bool.and_eq_true_iff.mp noticed
        exact .quits reads cancelled
      · exact .rests _
  | release =>
      unfold Connection.move
      dsimp only
      split
      · rename_i released
        obtain ⟨closing, ended⟩ := Bool.and_eq_true_iff.mp released
        exact .releases (of_decide_eq_true closing) (by simpa using ended)
      · exact .rests _
  | write =>
      unfold Connection.move
      dsimp only
      split
      · rename_i message writing next
        exact .writes message writing next
      · exact .rests _
  | fail =>
      unfold Connection.move
      dsimp only
      split
      · rename_i writing _
        exact .fails writing
      · exact .rests _
  | finish =>
      unfold Connection.move
      dsimp only
      split
      · rename_i finished
        simp only [Bool.and_eq_true, decide_eq_true_eq, List.isEmpty_iff,
          Option.isNone_iff_eq_none] at finished
        exact .finishes finished.1.1.2 finished.1.2 finished.2
      · exact .rests _

/-! ## What is kept of a connection -/

/-- The texts among what the reader has taken. -/
def handed (connection : Connection) : List String :=
  connection.heard.filterMap Input.text?

/-- What the reader asks for in the end. -/
def closing (connection : Connection) : List Event :=
  if connection.isOpen then [] else [.markClosed connection.session]

/-- Whether the last thing that the reader has taken ended the connection. -/
def Stopped (connection : Connection) : Prop :=
  ∃ front last, connection.heard = front ++ [last] ∧ last.isLast = true ∧
    ∀ input ∈ front, input.isLast = false

/-- What holds of a connection and its session while the server runs.  `asked` is what was asked of
the session, and `dismissed` says that the session was cancelled while the reader read. -/
structure Kept (connection : Connection) (session : Session) (asked : List Event)
    (dismissed : Prop) : Prop where
  bound : connection.taken ≤ connection.received.length
  asks : asked =
    connection.handed.map (Event.handleText connection.session) ++ connection.closing
  reads : connection.isOpen = true → ∀ input ∈ connection.heard, input.isLast = false
  left : connection.isOpen = false → connection.Stopped ∨
    (dismissed ∧ ∀ input ∈ connection.heard, input.isLast = false)
  shut : connection.isOpen = false → session.Shut
  released : connection.reader = .gone →
    ∀ task ∈ session.tasks, task.generation ∉ connection.awaited
  written : connection.written <+: session.outbox.map (·.message)
  finished : connection.writer = .finished → connection.reader = .gone ∧ session.tasks = [] ∧
    connection.written = session.outbox.map (·.message)

theorem isOpen_of_gone {connection : Connection} (gone : connection.reader = .gone) :
    connection.isOpen = false := by
  simp [isOpen, gone]

namespace Kept

variable {connection : Connection} {session after : Session} {asked : List Event}
  {dismissed later : Prop}

/-- A new connection and its session. -/
theorem fresh (id : Nat) (context? : Option String) (isCancelled : Bool) :
    Kept { session := id } { context?, isCancelled } [] dismissed :=
  ⟨Nat.le_refl 0, rfl, fun _ => List.forall_mem_nil _, nofun, nofun, nofun, List.nil_prefix,
    nofun⟩

theorem mono (kept : connection.Kept session asked dismissed) (implies : dismissed → later) :
    connection.Kept session asked later :=
  { kept with
    left := fun closed => (kept.left closed).imp_right fun ⟨quits, plain⟩ =>
      ⟨implies quits, plain⟩ }

/-- Whatever happens to the session. -/
theorem turn (kept : connection.Kept session asked dismissed) (site : Site)
    (happening : Happening) :
    connection.Kept (happening.turn (site, session)).2 asked dismissed := by
  obtain ⟨grows, frozen⟩ := session.happening_outbox site happening
  refine { kept with
    shut := fun closed => (kept.shut closed).turn site happening
    released := fun gone task present => ?_
    written := kept.written.trans (grows.map _)
    finished := fun finished => ?_ }
  · obtain ⟨earlier, stored, same⟩ :=
      (kept.shut (isOpen_of_gone gone)).turn_tasks site happening task present
    exact same ▸ kept.released gone earlier stored
  · obtain ⟨gone, idle, complete⟩ := kept.finished finished
    have shut := kept.shut (isOpen_of_gone gone)
    refine ⟨gone, List.eq_nil_iff_forall_not_mem.mpr fun task present => ?_, ?_⟩
    · obtain ⟨earlier, stored, _⟩ := shut.turn_tasks site happening task present
      exact List.not_mem_nil (idle ▸ stored)
    · rw [frozen shut.cancelled]
      exact complete

/-- The reader takes what came in next. -/
theorem heard_next {input : Input}
    (next : connection.received[connection.taken]? = some input) :
    { connection with taken := connection.taken + 1 }.heard = connection.heard ++ [input] := by
  unfold heard
  rw [List.take_add_one, next]
  rfl

theorem handed_next {input : Input}
    (next : connection.received[connection.taken]? = some input) :
    { connection with taken := connection.taken + 1 }.handed =
      connection.handed ++ input.text?.toList := by
  unfold handed
  rw [heard_next next, List.filterMap_append]
  cases text : input.text? <;> simp [text]

theorem bound_next {input : Input}
    (next : connection.received[connection.taken]? = some input) :
    connection.taken + 1 ≤ connection.received.length :=
  (List.getElem?_eq_some_iff.mp next).1

/-- The writer does not finish before the reader. -/
theorem unfinished (kept : connection.Kept session asked dismissed)
    (busy : connection.reader ≠ .gone) : connection.writer ≠ .finished :=
  fun finished => busy (kept.finished finished).1

theorem ne_gone (reads : connection.isOpen = true) : connection.reader ≠ .gone :=
  fun gone => Bool.false_ne_true ((isOpen_of_gone gone).symm.trans reads)

theorem closing_of_isOpen (reads : connection.isOpen = true) : connection.closing = [] :=
  if_pos reads

theorem receives (kept : connection.Kept session asked dismissed) (input : Input) :
    { connection with received := connection.received ++ [input] }.Kept session asked
      dismissed := by
  have heard : { connection with received := connection.received ++ [input] }.heard =
      connection.heard :=
    List.take_append_of_le_length kept.bound
  refine { kept with
    bound := Nat.le_trans kept.bound (by simp)
    asks := ?_
    reads := fun reads => heard ▸ kept.reads reads
    left := fun closed => ?_ }
  · unfold handed
    rw [heard]
    exact kept.asks
  · unfold Stopped
    rw [heard]
    exact kept.left closed

theorem takes (kept : connection.Kept session asked dismissed) {input : Input}
    (reads : connection.isOpen = true)
    (next : connection.received[connection.taken]? = some input) (plain : input.isLast = false) :
    { connection with taken := connection.taken + 1 }.Kept session
      (asked ++ (input.text?.map (Event.handleText connection.session)).toList) dismissed := by
  have heard := heard_next next
  have still : { connection with taken := connection.taken + 1 }.closing = [] :=
    closing_of_isOpen reads
  refine { kept with
    bound := bound_next next
    asks := ?_
    reads := fun _ => ?_
    left := fun closed => absurd (closed.symm.trans reads) Bool.false_ne_true }
  · rw [handed_next next, still, kept.asks, closing_of_isOpen reads]
    cases input.text? <;> simp
  · rw [heard]
    exact List.forall_mem_append.mpr ⟨kept.reads reads, by simpa using plain⟩

/-- The reader stops at an input, and closes the session. -/
theorem stops (kept : connection.Kept session asked dismissed) {input : Input}
    (reads : connection.isOpen = true)
    (next : connection.received[connection.taken]? = some input) (last : input.isLast = true)
    (shut : session.Shut) (before : Session) :
    ({ connection with taken := connection.taken + 1 }.leave before).1.Kept session
      (asked ++ [Event.markClosed connection.session]) dismissed := by
  have heard : ({ connection with taken := connection.taken + 1 }.leave before).1.heard =
      connection.heard ++ [input] :=
    heard_next next
  refine { kept with
    bound := bound_next next
    asks := ?_
    reads := nofun
    left := fun _ => .inl ⟨connection.heard, input, heard, last, kept.reads reads⟩
    shut := fun _ => shut
    released := nofun
    finished := fun finished => absurd finished (kept.unfinished (ne_gone reads)) }
  have handed : ({ connection with taken := connection.taken + 1 }.leave before).1.handed =
      connection.handed := by
    refine (handed_next next).trans ?_
    rw [Input.text?_of_isLast last, Option.toList_none, List.append_nil]
  rw [handed, kept.asks, closing_of_isOpen reads, List.append_nil]
  rfl

/-- The reader closes a session that was cancelled. -/
theorem quits (kept : connection.Kept session asked dismissed) (reads : connection.isOpen = true)
    (cancelled : dismissed) (shut : session.Shut) (before : Session) :
    (connection.leave before).1.Kept session (asked ++ [Event.markClosed connection.session])
      dismissed := by
  refine { kept with
    asks := ?_
    reads := nofun
    left := fun _ => .inr ⟨cancelled, kept.reads reads⟩
    shut := fun _ => shut
    released := nofun
    finished := fun finished => absurd finished (kept.unfinished (ne_gone reads)) }
  rw [kept.asks, closing_of_isOpen reads, List.append_nil]
  rfl

theorem releases (kept : connection.Kept session asked dismissed)
    (closing : connection.reader = .closing)
    (ended : ∀ task ∈ session.tasks, task.generation ∉ connection.awaited) :
    { connection with reader := .gone }.Kept session asked dismissed := by
  have closed : connection.isOpen = false := by simp [isOpen, closing]
  have still : { connection with reader := .gone }.closing = connection.closing := by
    simp [Connection.closing, isOpen, closing]
  exact { kept with
    asks := still ▸ kept.asks
    reads := nofun
    left := fun _ => kept.left closed
    shut := fun _ => kept.shut closed
    released := fun _ => ended
    finished := fun finished => absurd finished (kept.unfinished (by simp [closing])) }

theorem writes (kept : connection.Kept session asked dismissed) {message : Message}
    (writing : connection.writer = .writing) (next : connection.next? session = some message) :
    { connection with written := connection.written ++ [message] }.Kept session asked
      dismissed := by
  obtain ⟨rest, outbox⟩ := kept.written
  refine { kept with
    written := ?_
    finished := fun finished => by cases writing.symm.trans finished }
  unfold Connection.next? at next
  rw [← outbox, List.getElem?_append_right (Nat.le_refl _), Nat.sub_self] at next
  cases rest with
  | nil => cases next
  | cons first rest =>
      cases next
      exact ⟨rest, by rw [← outbox, List.append_assoc]; rfl⟩

theorem fails (kept : connection.Kept session asked dismissed) :
    { connection with writer := .broken }.Kept session asked dismissed :=
  { kept with finished := nofun }

theorem finishes (kept : connection.Kept session asked dismissed)
    (gone : connection.reader = .gone) (idle : session.tasks = [])
    (done : connection.next? session = none) :
    { connection with writer := .finished }.Kept session asked dismissed :=
  { kept with
    finished := fun _ => ⟨gone, idle,
      kept.written.eq_of_length_le (List.getElem?_eq_none_iff.mp done)⟩ }

/-- Whatever the connection does.  `after` is the session when that is done. -/
theorem change {move : Move} {result : Connection × List Event}
    (kept : connection.Kept after asked dismissed) (change : connection.Change session move result)
    (same : result.2 = [] → after = session)
    (sends : result.2 = [.receive connection.session 1] → after.outbox = session.outbox)
    (closes : result.2 = [.markClosed connection.session] → after.Shut)
    (implies : dismissed → later)
    (quits : move = .notice → connection.isOpen = true → session.isCancelled = true → later) :
    result.1.Kept after (asked ++ result.2.filter (Event.isAimedAt connection.session)) later := by
  replace kept := kept.mono implies
  have closed : [Event.markClosed connection.session].filter
      (Event.isAimedAt connection.session) = [.markClosed connection.session] := by
    simp [Event.isAimedAt]
  cases change with
  | rests => exact (List.append_nil asked).symm ▸ kept
  | receives input => exact (List.append_nil asked).symm ▸ kept.receives input
  | takes input reads next plain =>
      have texts : (input.text?.map (Event.handleText connection.session)).toList.filter
          (Event.isAimedAt connection.session) =
          (input.text?.map (Event.handleText connection.session)).toList := by
        cases input.text? <;> simp [Event.isAimedAt]
      rw [texts]
      exact kept.takes reads next plain
  | stops input reads next last =>
      exact closed.symm ▸ kept.stops reads next last (closes rfl) session
  | quits reads cancelled =>
      exact closed.symm ▸ kept.quits reads (quits rfl reads cancelled) (closes rfl) session
  | releases closing ended =>
      rw [same rfl] at kept ⊢
      exact (List.append_nil asked).symm ▸ kept.releases closing ended
  | writes message writing next =>
      unfold Connection.next? at next
      rw [← sends rfl] at next
      exact (List.append_nil asked).symm ▸ kept.writes writing next
  | fails writing => exact (List.append_nil asked).symm ▸ kept.fails
  | finishes gone idle done =>
      rw [same rfl] at kept ⊢
      exact (List.append_nil asked).symm ▸ kept.finishes gone idle done

end Kept
end Connection
end Server
end KubeLens
