import KubeLens.Proofs.Switchboard.Coherence

/-!
# Chronicles of a switchboard

Four things change a switchboard: a context is connected to, or dialled in vain, or removed, or
cleared.  A chronicle lists the changes, oldest first.  In a careful one a context is dialled only
while it is idle, neither active nor barred; so it is not dialled twice without a reason in
between.
-/

namespace KubeLens
namespace Switchboard

/-- Something that changes a switchboard. -/
inductive Change
  | connected (context : String)
  /-- A context was dialled in vain. -/
  | refused (context : String)
  | removed (context : String)
  | cleared (context : String)
  deriving DecidableEq, Repr

/-- The context that is dialled with a change. -/
def Change.dialled? : Change → Option String
  | connected context | refused context => some context
  | removed _ | cleared _ => none

/-- The switchboard after a change. -/
def change (board : Switchboard) : Change → Switchboard
  | .connected context => board.switchTo context { context }
  | .refused context => board.bar context
  | .removed context => board.forget context
  | .cleared context => board.unbar context

/-- The switchboard at the end of a chronicle. -/
def after (board : Switchboard) (changes : List Change) : Switchboard :=
  changes.foldl change board

@[simp] theorem after_nil (board : Switchboard) : board.after [] = board := rfl

@[simp] theorem after_cons (board : Switchboard) (first : Change) (rest : List Change) :
    board.after (first :: rest) = (board.change first).after rest := rfl

theorem after_append (board : Switchboard) (earlier later : List Change) :
    board.after (earlier ++ later) = (board.after earlier).after later :=
  List.foldl_append

/-- Whether a context is neither active nor barred. -/
structure Idle (board : Switchboard) (context : String) : Prop where
  inactive : board.current ≠ some context
  unbarred : context ∉ board.failed

/-- Whether every context is dialled only while it is idle. -/
def Careful (board : Switchboard) : List Change → Prop
  | [] => True
  | first :: rest =>
    (∀ context, first.dialled? = some context → board.Idle context) ∧
      (board.change first).Careful rest

namespace Careful

variable {board : Switchboard} {changes earlier later : List Change} {context : String}

theorem append (careful : board.Careful earlier)
    (further : (board.after earlier).Careful later) : board.Careful (earlier ++ later) := by
  induction earlier generalizing board with
  | nil => exact further
  | cons first rest ih => exact ⟨careful.1, ih careful.2 further⟩

/-- What follows in a careful chronicle is careful. -/
theorem of_append (careful : board.Careful (earlier ++ later)) :
    (board.after earlier).Careful later := by
  induction earlier generalizing board with
  | nil => exact careful
  | cons first rest ih => exact ih careful.2

/-- A context is idle where it is dialled. -/
theorem idle {change : Change} (careful : board.Careful (earlier ++ change :: later))
    (dialled : change.dialled? = some context) : (board.after earlier).Idle context :=
  careful.of_append.1 context dialled

theorem coherent (careful : board.Careful changes) (coherent : board.Coherent) :
    (board.after changes).Coherent := by
  induction changes generalizing board with
  | nil => exact coherent
  | cons first rest ih =>
      refine ih careful.2 ?_
      cases first with
      | connected context => exact .switchTo board { context }
      | refused context => exact coherent.bar (careful.1 context rfl).inactive
      | removed context => exact coherent.forget context
      | cleared context => exact coherent.unbar context

end Careful

/-! ## Contexts that are dialled again -/

variable {board : Switchboard} {changes earlier between later : List Change} {context : String}

/-- The active context stays active until it is removed or another one is connected to. -/
theorem current_after (active : board.current = some context)
    (kept : .removed context ∉ changes)
    (alone : ∀ other, .connected other ∈ changes → other = context) :
    (board.after changes).current = some context := by
  induction changes generalizing board with
  | nil => exact active
  | cons first rest ih =>
      refine ih ?_ (fun present => kept (List.mem_cons_of_mem _ present))
        fun other present => alone other (List.mem_cons_of_mem _ present)
      cases first with
      | connected other => rw [alone other List.mem_cons_self]; rfl
      | refused other => rwa [change, bar_current]
      | removed other =>
          refine forget_current.mpr ⟨active, ?_⟩
          rintro rfl
          exact kept List.mem_cons_self
      | cleared other => exact active

namespace Careful

/-- Between two connections to a context, it was removed or another one was connected to. -/
theorem reconnected (careful : board.Careful
      (earlier ++ .connected context :: (between ++ .connected context :: later))) :
    .removed context ∈ between ∨ ∃ other, other ≠ context ∧ .connected other ∈ between := by
  refine Classical.or_iff_not_imp_left.mpr fun kept => Classical.byContradiction fun none => ?_
  have alone : ∀ other, .connected other ∈ between → other = context :=
    fun other present => Classical.byContradiction fun different =>
      none ⟨other, different, present⟩
  have active : (((board.after earlier).change (.connected context)).after between).current =
      some context := current_after rfl kept alone
  exact (careful.of_append.2.idle rfl).inactive active

/-- When nothing but one context is ever dialled, it is dialled once. -/
theorem once (careful : board.Careful changes)
    (alone : ∀ change ∈ changes, change.dialled? = some context) :
    changes.filterMap Change.dialled? = [] ∨
      changes.filterMap Change.dialled? = [context] := by
  match changes with
  | [] => exact .inl rfl
  | [change] => exact .inr (by simp [alone change List.mem_cons_self])
  | first :: second :: rest =>
      have idle := careful.2.1 context (alone second (by simp))
      cases first with
      | connected other =>
          obtain rfl : other = context := Option.some.inj (alone _ List.mem_cons_self)
          exact absurd rfl idle.inactive
      | refused other =>
          obtain rfl : other = context := Option.some.inj (alone _ List.mem_cons_self)
          exact absurd (mem_bar.mpr (.inr rfl)) idle.unbarred
      | removed => cases alone _ List.mem_cons_self
      | cleared => cases alone _ List.mem_cons_self

end Careful
end Switchboard
end KubeLens
