import KubeLens.Switchboard

/-!
# Coherent switchboards

A switchboard is coherent when its two halves of the active connection agree and the active
context is not barred.  Each operation on a switchboard is described by what it does to the
active context and to the barred ones, and each of them keeps coherence.
-/

namespace KubeLens
namespace Switchboard

/-! ## Parts after each operation -/

@[simp] theorem unbar_current (board : Switchboard) (target : String) :
    (board.unbar target).current = board.current := rfl

@[simp] theorem unbar_client (board : Switchboard) (target : String) :
    (board.unbar target).client = board.client := rfl

@[simp] theorem mem_unbar {board : Switchboard} {target name : String} :
    name ∈ (board.unbar target).failed ↔ name ∈ board.failed ∧ name ≠ target := by
  simp [unbar]

@[simp] theorem bar_current (board : Switchboard) (target : String) :
    (board.bar target).current = board.current := by
  unfold bar
  split <;> rfl

@[simp] theorem bar_client (board : Switchboard) (target : String) :
    (board.bar target).client = board.client := by
  unfold bar
  split <;> rfl

@[simp] theorem mem_bar {board : Switchboard} {target name : String} :
    name ∈ (board.bar target).failed ↔ name ∈ board.failed ∨ name = target := by
  unfold bar isBarred
  split
  · rename_i barred
    have member : target ∈ board.failed := by simpa using barred
    constructor
    · exact Or.inl
    · rintro (present | rfl)
      · exact present
      · exact member
  · simp

@[simp] theorem switchTo_current (board : Switchboard) (target : String) (client : Client) :
    (board.switchTo target client).current = some target := rfl

@[simp] theorem switchTo_client (board : Switchboard) (target : String) (client : Client) :
    (board.switchTo target client).client = some client := rfl

@[simp] theorem mem_switchTo {board : Switchboard} {target name : String} {client : Client} :
    name ∈ (board.switchTo target client).failed ↔ name ∈ board.failed ∧ name ≠ target :=
  mem_unbar

@[simp] theorem disconnect_current (board : Switchboard) :
    board.disconnect.current = none := rfl

@[simp] theorem disconnect_client (board : Switchboard) :
    board.disconnect.client = none := rfl

@[simp] theorem disconnect_failed (board : Switchboard) :
    board.disconnect.failed = board.failed := rfl

theorem isBarred_iff {board : Switchboard} {target : String} :
    board.isBarred target = true ↔ target ∈ board.failed := by
  simp [isBarred]

/-- The switchboard after a context was dropped from the stored document: it is not barred any
more, and not active. -/
def forget (board : Switchboard) (name : String) : Switchboard :=
  if board.current = some name then (board.unbar name).disconnect else board.unbar name

@[simp] theorem mem_forget {board : Switchboard} {name other : String} :
    other ∈ (board.forget name).failed ↔ other ∈ board.failed ∧ other ≠ name := by
  unfold forget
  split <;> simp

theorem forget_current {board : Switchboard} {name other : String} :
    (board.forget name).current = some other ↔ board.current = some other ∧ other ≠ name := by
  unfold forget
  split
  · rename_i active
    rw [active]
    simp [eq_comm]
  · rename_i inactive
    constructor
    · intro active
      refine ⟨active, ?_⟩
      rintro rfl
      exact inactive active
    · exact And.left

/-! ## Coherence -/

/-- The active context and the client for it agree, and the active context is not barred. -/
structure Coherent (board : Switchboard) : Prop where
  current_isSome : board.current.isSome = board.client.isSome
  client_context : ∀ client, board.client = some client → board.current = some client.context
  current_not_failed : ∀ name, board.current = some name → name ∉ board.failed

namespace Coherent

variable {board : Switchboard}

/-- Nothing is active and nothing is barred. -/
theorem empty : Coherent {} :=
  ⟨rfl, nofun, nofun⟩

theorem unbar (coherent : board.Coherent) (target : String) :
    (board.unbar target).Coherent := by
  refine ⟨coherent.current_isSome, coherent.client_context, ?_⟩
  intro name active barred
  exact coherent.current_not_failed name active (mem_unbar.mp barred).1

theorem disconnect (board : Switchboard) : board.disconnect.Coherent :=
  ⟨rfl, nofun, nofun⟩

theorem forget (coherent : board.Coherent) (name : String) :
    (board.forget name).Coherent := by
  unfold Switchboard.forget
  split
  · exact disconnect _
  · exact coherent.unbar name

/-- A context that is not active may be barred. -/
theorem bar (coherent : board.Coherent) {target : String}
    (inactive : board.current ≠ some target) : (board.bar target).Coherent := by
  refine ⟨?_, ?_, ?_⟩
  · simpa using coherent.current_isSome
  · simpa using coherent.client_context
  · intro name active barred
    rw [bar_current] at active
    rcases mem_bar.mp barred with before | rfl
    · exact coherent.current_not_failed name active before
    · exact inactive active

/-- Whatever was active, the new connection agrees with itself. -/
theorem switchTo (board : Switchboard) (client : Client) :
    (board.switchTo client.context client).Coherent := by
  refine ⟨rfl, ?_, ?_⟩
  · rintro other ⟨⟩
    rfl
  · rintro name ⟨⟩ barred
    exact (mem_switchTo.mp barred).2 rfl

/-- In a coherent switchboard a context is active as soon as it is the current one. -/
theorem active?_eq_none_iff (coherent : board.Coherent) {target : String} :
    board.active? target = none ↔ board.current ≠ some target := by
  unfold Switchboard.active? Switchboard.handle?
  by_cases active : board.current = some target
  · obtain ⟨client, present⟩ : ∃ client, board.client = some client := by
      have both := coherent.current_isSome
      rw [active] at both
      exact Option.isSome_iff_exists.mp both.symm
    simp [active, present]
  · simp [active]

theorem handle?_eq_none_iff (coherent : board.Coherent) :
    board.handle? = none ↔ board.current = none := by
  have both := coherent.current_isSome
  unfold Switchboard.handle?
  cases active : board.current with
  | none => simp
  | some name =>
      rw [active] at both
      obtain ⟨client, present⟩ := Option.isSome_iff_exists.mp both.symm
      simp [present]

end Coherent
end Switchboard
end KubeLens
