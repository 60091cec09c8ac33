import KubeLens.Proofs.Lens.Usable
import KubeLens.Proofs.Site.Orderly

/-!
# Order in every run

Whatever is asked of the service, only what a name can mean becomes active.
-/

namespace KubeLens

theorem Site.Outcome.keepsOrder {site after : Site} {event : Event}
    (outcome : site.Outcome event after) : site.KeepsOrder after := by
  have inCluster := outcome.inCluster
  cases outcome with
  | attempts attempts => exact attempts.keepsOrder
  | surroundings same =>
      exact .of_current inCluster (same.board ▸ id) fun name active => same.board ▸ active
  | added => exact .of_current inCluster id fun _ => id
  | cleared => exact .of_current inCluster (·.unbar _) fun _ => id
  | @removed name left host _ dropped promoted =>
      rw [promoted.host] at inCluster
      have forgets : site.KeepsOrder { site with host, board := site.board.forget name } :=
        .of_current inCluster (·.forget name) fun _ active =>
          (Switchboard.forget_current.mp active).1
      exact forgets.trans promoted.keepsOrder

namespace Lens

theorem act_keepsOrder (lens : Lens) (event : Event) :
    lens.site.KeepsOrder (lens.act event).site :=
  (lens.act_outcome event).keepsOrder

theorem run_orderly (settings : Settings) (host : Host) (events : List Event) :
    ((onHost settings host).run events).site.Orderly :=
  run_induction (P := fun lens => lens.site.Orderly) (onHost settings host) events
    ⟨.empty, nofun, nofun⟩ fun before event _ => (before.act_keepsOrder event).orderly

theorem run_isNamed (settings : Settings) (host : Host) (events : List Event) :
    ((onHost settings host).run events).site.IsNamed :=
  (run_orderly settings host events).isNamed

end Lens
end KubeLens
