import KubeLens.Proofs.Site.Attempts

/-!
# Orderly sites

Only what a name can mean becomes active: never the empty name, and inside a cluster nothing but
the mounted credentials.  Attempts to connect keep this, and keep the switchboard coherent.
-/

namespace KubeLens

/-! ## Names that stand for themselves -/

namespace Switchboard

/-- A context that is meant by some name is meant by its own. -/
theorem target_target (host : Host) (name : String) :
    target host (target host name) = target host name := by
  unfold target
  split <;> rfl

/-- What a name means depends only on whether there are mounted credentials. -/
theorem target_congr {host other : Host} (same : other.inCluster = host.inCluster) :
    target other = target host := by
  unfold target
  rw [same]

theorem target_inside {host : Host} (inside : host.inCluster = true) (name : String) :
    target host name = inClusterContext := by
  simp [target, inside]

/-- What can be described is not meant by the empty name alone. -/
theorem target_ne_blank {settings : Settings} {host : Host} {name : String}
    (described : describes settings host name = .ok ()) : target host name ≠ "" := by
  intro blank
  cases inside : host.inCluster with
  | true =>
      rw [target_inside inside] at blank
      exact absurd blank (by decide)
  | false =>
      simp only [target, describes, inside, Bool.false_eq_true, if_false] at blank described
      rw [blank] at described
      cases described

end Switchboard

namespace Site

/-- Whether the active context is meant by its own name. -/
def IsNamed (site : Site) : Prop :=
  ∀ name, site.board.current = some name → Switchboard.target site.host name = name

variable {before after : Site}

theorem Attempts.isNamed (attempts : before.Attempts after) (named : before.IsNamed) :
    after.IsNamed := by
  induction attempts with
  | refl => exact named
  | @tail middle _ _ attempt ih =>
      cases attempt with
      | rest same =>
          unfold IsNamed
          rw [same.board, same.host]
          exact ih
      | dial name =>
          intro active current
          rcases middle.dial_cases (Switchboard.target middle.host name) with
            ⟨_, switched⟩ | ⟨_, barred⟩
          · rw [switched] at current
            rw [← Option.some.inj current]
            exact Switchboard.target_target middle.host name
          · rw [barred, Switchboard.bar_current] at current
            exact ih active current

theorem Attempts.current_ne_blank (attempts : before.Attempts after)
    (named : before.board.current ≠ some "") : after.board.current ≠ some "" := by
  induction attempts with
  | refl => exact named
  | @tail middle _ _ attempt ih =>
      cases attempt with
      | rest same => rwa [same.board]
      | dial name _ _ described =>
          rcases middle.dial_cases (Switchboard.target middle.host name) with
            ⟨_, switched⟩ | ⟨_, barred⟩
          · rw [switched]
            exact fun current => Switchboard.target_ne_blank described (Option.some.inj current)
          · rwa [barred, Switchboard.bar_current]

/-! ## Order -/

/-- Whether the active connection is one that a name can mean. -/
structure Orderly (site : Site) : Prop where
  coherent : site.board.Coherent
  isNamed : site.IsNamed
  current_ne_blank : site.board.current ≠ some ""

/-- What requests leave of the order of a site. -/
structure KeepsOrder (before after : Site) : Prop where
  inCluster : after.host.inCluster = before.host.inCluster
  orderly : before.Orderly → after.Orderly

namespace KeepsOrder

theorem refl (site : Site) : site.KeepsOrder site :=
  ⟨rfl, id⟩

theorem trans {first second third : Site} (earlier : first.KeepsOrder second)
    (later : second.KeepsOrder third) : first.KeepsOrder third :=
  ⟨later.inCluster.trans earlier.inCluster, fun orderly => later.orderly (earlier.orderly orderly)⟩

/-- A change that makes nothing active. -/
theorem of_current (inCluster : after.host.inCluster = before.host.inCluster)
    (coherent : before.board.Coherent → after.board.Coherent)
    (current : ∀ name, after.board.current = some name → before.board.current = some name) :
    before.KeepsOrder after := by
  refine ⟨inCluster, fun orderly => ⟨coherent orderly.coherent, fun name active => ?_, fun blank =>
    orderly.current_ne_blank (current "" blank)⟩⟩
  rw [Switchboard.target_congr inCluster]
  exact orderly.isNamed name (current name active)

end KeepsOrder

theorem Attempts.keepsOrder (attempts : before.Attempts after) : before.KeepsOrder after :=
  ⟨by rw [attempts.host], fun orderly => ⟨attempts.coherent orderly.coherent,
    attempts.isNamed orderly.isNamed, attempts.current_ne_blank orderly.current_ne_blank⟩⟩

end Site
end KubeLens
