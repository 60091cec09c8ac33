import KubeLens.Watch.Hub

/-!
# What schedules keep

`settle` and `advance` choose who goes on.  Whatever the choice, a property that every reply of a
session, every step and every later read of a task keeps holds when they are done.
-/

namespace KubeLens
namespace Watch
namespace Hub

variable {P : Site → Hub → Prop}

/-- A property that the replies of sessions keep which need not wait. -/
def KeptByReplies (P : Site → Hub → Prop) : Prop :=
  ∀ site hub id, hub.answering? = some id → P site hub →
    P site (hub.put id (hub.session id).reply)

/-- A property that the steps of tasks keep which need not wait. -/
def KeptBySteps (P : Site → Hub → Prop) : Prop :=
  ∀ now site hub id generation, ready? site hub = some (id, generation) → P site hub →
    P (stepTask now site hub id generation).1 (stepTask now site hub id generation).2

/-- A property that the later reads of tasks keep. -/
def KeptByTicks (P : Site → Hub → Prop) : Prop :=
  ∀ period site hub id generation, P site hub →
    P (runTask site hub id generation fun task turn => task.tick period turn).1
      (runTask site hub id generation fun task turn => task.tick period turn).2

theorem run_keeps (replies : KeptByReplies P) (steps : KeptBySteps P) (now fuel : Nat)
    (site : Site) (hub : Hub) (initial : P site hub) : P (run now fuel site hub).1 (run now fuel site hub).2 := by
  induction fuel generalizing site hub with
  | zero => exact initial
  | succ fuel ih =>
      unfold run
      split
      · rename_i _ _ id owing
        exact ih _ _ (replies site hub id owing initial)
      · rename_i id generation _ ready
        exact ih _ _ (steps now site hub id generation ready initial)
      · exact initial

theorem settle_keeps (replies : KeptByReplies P) (steps : KeptBySteps P) (hub : Hub) (now : Nat)
    (site : Site) (initial : P site hub) : P (hub.settle now site).1 (hub.settle now site).2 :=
  run_keeps replies steps now (stepBound site hub) site hub initial

theorem tickAll_keeps (ticks : KeptByTicks P) (now : Nat) (site : Site) (hub : Hub)
    (initial : P site hub) : P (tickAll now site hub).1 (tickAll now site hub).2 := by
  unfold tickAll
  refine List.foldlRecOn (motive := fun state : Site × Hub => P state.1 state.2) _ _ initial ?_
  intro state holds place _
  exact ticks hub.period state.1 state.2 place.1 place.2 holds

theorem passTo_keeps (replies : KeptByReplies P) (steps : KeptBySteps P)
    (ticks : KeptByTicks P) (goal fuel : Nat) (site : Site) (hub : Hub) (initial : P site hub) :
    P (passTo goal fuel site hub).1 (passTo goal fuel site hub).2 := by
  induction fuel generalizing site hub with
  | zero => exact initial
  | succ fuel ih =>
      unfold passTo
      split
      · exact initial
      · rename_i due _
        split
        · have ticked := tickAll_keeps ticks due site hub initial
          exact ih _ _ (settle_keeps replies steps _ due _ ticked)
        · exact initial

theorem advance_keeps (replies : KeptByReplies P) (steps : KeptBySteps P)
    (ticks : KeptByTicks P) (hub : Hub) (now span : Nat) (site : Site) (initial : P site hub) :
    P (hub.advance now span site).1 (hub.advance now span site).2 :=
  passTo_keeps replies steps ticks _ _ site hub initial

end Hub
end Watch
end KubeLens
