import KubeLens.Proofs.Watch.Moves

/-!
# Laws of hubs

A law holds of a site and a hub, and is kept by every elementary change: clusters are asked, a
peer speaks, a task takes a turn, a session is opened.  Every move is one of these changes, so a
law is kept by all moves.
-/

namespace KubeLens
namespace Watch
namespace Hub

/-- A property of sites and hubs that every elementary change keeps. -/
structure Law (P : Site → Hub → Prop) : Prop where
  serve : ∀ {site after hub}, site.fleet.SameOpen after.fleet → P site hub → P after hub
  speak : ∀ {site hub id after}, id < hub.sessions.length → (hub.session id).Speaks after →
    P site hub → P site (hub.put id after)
  turn : ∀ {site hub id task after}, id < hub.sessions.length → task ∈ (hub.session id).tasks →
    task.Change (site, hub.session id) after → P site hub → P after.1 (hub.put id after.2)
  openSession : ∀ {site hub} context?, P site hub → P site (hub.openSession context?).2
  cancel : ∀ {site hub}, P site hub → P site { hub with isCancelled := true }

namespace Law

variable {P : Site → Hub → Prop} {permits : Nat → Happening → Prop} {before after : Site × Hub}

theorem happen (law : Law P) {site : Site} {hub : Hub} (id : Nat) (happening : Happening)
    (holds : P site hub) :
    P (hub.happen site id happening).1 (hub.happen site id happening).2 := by
  by_cases inside : id < hub.sessions.length
  · unfold Hub.happen
    have deed := happening.deed (site, hub.session id)
    generalize happening.turn (site, hub.session id) = turn at deed ⊢
    cases deed with
    | asks active? control => exact law.speak inside (Session.handle_speaks _ _ _) holds
    | owes messages => exact law.speak inside (Session.owe_speaks _ _) holds
    | replies => exact law.speak inside (Session.reply_speaks _) holds
    | receives count => exact law.speak inside (Session.receive_speaks _ _) holds
    | hangsUp => exact law.speak inside (Session.hangUp_speaks _) holds
    | closes => exact law.speak inside (Session.close_speaks _) holds
    | steps task present able due => exact law.turn inside present (task.step_change due _) holds
    | ticks task present period => exact law.turn inside present (task.tick_change period _) holds
    | rests =>
        dsimp only
        rwa [put_session]
  · rwa [happen_outside inside]

/-- A law is kept by every move. -/
theorem move (law : Law P) (move : Move permits before after) (holds : P before.1 before.2) :
    P after.1 after.2 := by
  cases move with
  | serves hub steady => exact law.serve steady.sameOpen holds
  | happens site hub id happening => exact law.happen id happening holds
  | opens site hub context? => exact law.openSession context? holds
  | cancels => exact law.cancel holds

theorem moves (law : Law P) (moves : Moves permits before after) (holds : P before.1 before.2) :
    P after.1 after.2 := by
  induction moves with
  | refl => exact holds
  | tail _ last ih => exact law.move last ih

end Law
end Hub
end Watch
end KubeLens
