import KubeLens.Proofs.Lens.Outcome

/-!
# The switchboard and the stored document

Whatever happens to the service, its switchboard is coherent and mentions known contexts only:
those of the stored document, or the mounted credentials inside a cluster.  This holds as long
as nobody else writes the kubeconfig file.
-/

namespace KubeLens

/-- Whether a context is stored; inside a cluster, whether it is the mounted credentials. -/
def Host.Knows (settings : Settings) (host : Host) (name : String) : Prop :=
  if host.inCluster then name = inClusterContext
  else ∃ document, host.load settings = .ok document ∧ name ∈ document.contextNames

/-- The active context or a barred one. -/
def Switchboard.Mentions (board : Switchboard) (name : String) : Prop :=
  board.current = some name ∨ name ∈ board.failed

/-- A coherent switchboard that mentions known contexts only. -/
structure Site.Linked (site : Site) : Prop where
  coherent : site.board.Coherent
  known : ∀ name, site.board.Mentions name → site.host.Knows site.settings name

/-! ## Stored documents -/

namespace Kubeconfig

theorem hasContext_iff {document : Kubeconfig} {name : String} :
    document.hasContext name = true ↔ name ∈ document.contextNames := by
  simp [hasContext, contextNames]

/-- Merging keeps every context. -/
theorem mem_merge_contextNames {document : Kubeconfig} (incoming : Kubeconfig) {name : String}
    (present : name ∈ document.contextNames) :
    name ∈ (document.merge incoming).contextNames := by
  simp only [contextNames, merge, List.map_append, List.mem_append]
  exact .inl present

/-- Removing a context keeps those with other names. -/
theorem mem_removeContext_contextNames {document left : Kubeconfig} {removed name : String}
    (taken : document.removeContext removed = some left) (different : name ≠ removed)
    (present : name ∈ document.contextNames) : name ∈ left.contextNames := by
  obtain ⟨entry, _, rfl⟩ := Option.map_eq_some_iff.mp taken
  obtain ⟨kept, stored, rfl⟩ := List.mem_map.mp present
  refine List.mem_map.mpr ⟨kept, ?_, rfl⟩
  exact (List.mem_eraseP_of_neg (by simpa using different)).mpr stored

end Kubeconfig

namespace Host

variable {settings : Settings} {host : Host}

theorem knows_of_inCluster (inside : host.inCluster = true) {name : String} :
    host.Knows settings name ↔ name = inClusterContext := by
  simp [Knows, inside]

theorem knows_of_outside (outside : host.inCluster = false) {name : String} :
    host.Knows settings name ↔
      ∃ document, host.load settings = .ok document ∧ name ∈ document.contextNames := by
  simp [Knows, outside]

/-- What is known depends on the file, and on whether credentials are mounted. -/
theorem knows_congr {other : Host} (inCluster : other.inCluster = host.inCluster)
    (file : other.kubeconfig = host.kubeconfig) {name : String} :
    other.Knows settings name ↔ host.Knows settings name := by
  unfold Knows
  rw [inCluster, load_congr file]

/-- A context is known when it is in the document that was stored last. -/
theorem knows_of_saved {document : Kubeconfig} {after : Host} {name : String}
    (outside : host.inCluster = false) (saved : host.save document = (.ok (), after))
    (present : name ∈ document.contextNames) : after.Knows settings name := by
  rw [save_eq_ok saved]
  have stillOutside : ({ host with kubeconfig := .saved document } : Host).inCluster = false :=
    outside
  exact (knows_of_outside stillOutside).mpr ⟨document.reread, rfl, present⟩

end Host

/-! ## Adding and dropping contexts -/

namespace Switchboard

variable {settings : Settings} {host : Host}

/-- Only a known context is described. -/
theorem knows_of_describes {name : String} (described : describes settings host name = .ok ()) :
    host.Knows settings (target host name) := by
  unfold describes at described
  unfold target
  cases inside : host.inCluster with
  | true => exact (Host.knows_of_inCluster inside).mpr rfl
  | false =>
      rw [Host.knows_of_outside inside]
      simp only [inside, Bool.false_eq_true, if_false] at described ⊢
      split at described
      · cases described
      · split at described
        · cases described
        · rename_i document loaded
          split at described
          · rename_i present
            exact ⟨document, loaded, Kubeconfig.hasContext_iff.mp present⟩
          · cases described

/-- Adding contexts keeps those that are known. -/
theorem knows_of_addContexts {raw name : String} {names : List String} {after : Host}
    (stored : addContexts settings host raw = (.ok names, after))
    (known : host.Knows settings name) : after.Knows settings name := by
  obtain ⟨outside, document, incoming, loaded, saved⟩ := addContexts_eq_ok stored
  obtain ⟨before, readable, present⟩ := (Host.knows_of_outside outside).mp known
  rw [Host.loadOrBlank_of_load readable] at loaded
  cases loaded
  exact Host.knows_of_saved outside saved (Kubeconfig.mem_merge_contextNames incoming present)

/-- Dropping a context keeps the other ones known. -/
theorem knows_of_dropContext {removed name : String} {left : Kubeconfig} {after : Host}
    (dropped : dropContext settings host removed = (.ok left, after))
    (different : name ≠ removed) (known : host.Knows settings name) :
    after.Knows settings name := by
  obtain ⟨outside, document, loaded, taken, saved⟩ := dropContext_eq_ok dropped
  obtain ⟨before, readable, present⟩ := (Host.knows_of_outside outside).mp known
  rw [readable] at loaded
  cases loaded
  exact Host.knows_of_saved outside saved
    (Kubeconfig.mem_removeContext_contextNames taken different present)

end Switchboard

/-! ## Runs -/

namespace Site

/-- Dialling a context mentions no other one that was not mentioned before. -/
theorem mentions_of_dial {site : Site} {target name : String}
    (mentioned : (site.dial target).board.Mentions name) :
    site.board.Mentions name ∨ name = target := by
  rcases site.dial_cases target with ⟨_, switched⟩ | ⟨_, barred⟩
  · rw [switched] at mentioned
    rcases mentioned with active | stillBarred
    · exact .inr (Option.some.inj active).symm
    · exact .inl (.inr (Switchboard.mem_switchTo.mp stillBarred).1)
  · rw [barred] at mentioned
    rcases mentioned with active | nowBarred
    · exact .inl (.inl (by simpa using active))
    · exact (Switchboard.mem_bar.mp nowBarred).imp_left .inr

/-- Attempts to connect keep a site linked, since they look a context up before they dial. -/
theorem Attempts.linked {before after : Site} (attempts : before.Attempts after)
    (linked : before.Linked) : after.Linked := by
  induction attempts with
  | refl => exact linked
  | @tail middle _ _ attempt ih =>
      cases attempt with
      | rest same =>
          refine ⟨same.board ▸ ih.coherent, ?_⟩
          intro name mentioned
          rw [same.host, same.settings]
          exact ih.known name (same.board ▸ mentioned)
      | dial name inactive unbarred described =>
          refine ⟨dial_coherent ih.coherent inactive, ?_⟩
          intro other mentioned
          rcases mentions_of_dial mentioned with before | rfl
          · exact ih.known other before
          · exact Switchboard.knows_of_describes described

/-- Every event keeps a site linked unless somebody else writes the kubeconfig file. -/
theorem Outcome.linked {site after : Site} {event : Event} (outcome : site.Outcome event after)
    (unwritten : event.writesFile = false) (linked : site.Linked) : after.Linked := by
  cases outcome with
  | attempts attempts => exact attempts.linked linked
  | surroundings same file =>
      refine ⟨same.board ▸ linked.coherent, ?_⟩
      intro name mentioned
      rw [same.settings, Host.knows_congr same.inCluster (file unwritten)]
      exact linked.known name (same.board ▸ mentioned)
  | added raw stored =>
      refine ⟨linked.coherent, ?_⟩
      intro name mentioned
      exact Switchboard.knows_of_addContexts stored (linked.known name mentioned)
  | cleared name =>
      refine ⟨linked.coherent.unbar _, ?_⟩
      intro other mentioned
      exact linked.known other (mentioned.imp_right fun barred =>
        (Switchboard.mem_unbar.mp barred).1)
  | @removed name left host _ dropped promoted =>
      refine promoted.linked ⟨linked.coherent.forget name, fun other mentioned => ?_⟩
      have before : site.board.Mentions other ∧ other ≠ name := by
        rcases mentioned with active | barred
        · exact (Switchboard.forget_current.mp active).imp_left .inl
        · exact (Switchboard.mem_forget.mp barred).imp_left .inr
      exact Switchboard.knows_of_dropContext dropped before.2 (linked.known other before.1)

end Site

namespace Lens

/-- The switchboard is coherent and mentions known contexts only, whatever happened. -/
theorem run_linked (settings : Settings) (host : Host) (events : List Event)
    (unwritten : ∀ event ∈ events, event.writesFile = false) :
    ((onHost settings host).run events).site.Linked := by
  refine run_induction (P := fun lens => lens.site.Linked) (onHost settings host) events ?_ ?_
  · refine ⟨.empty, ?_⟩
    intro name mentioned
    rcases mentioned with active | barred
    · cases active
    · cases barred
  · intro before event present linked
    exact (before.act_outcome event).linked (unwritten event present) linked

/-- Two contexts are active one after the other while a third one is barred; the one that was
active last is removed. -/
theorem run_linked_removed :
    let events : List Event :=
      [.isolate ["prod"], .setContext "dev", .setContext "prod", .check (some "qa"),
        .setContext "qa", .removeContext "qa"]
    let lens := (onHost (.defaults none) (.storing ["dev", "prod", "qa"])).run events
    (∀ event ∈ events, event.writesFile = false) ∧ lens.site.Linked ∧
      lens.site.board.failed = ["prod"] ∧ lens.site.board.current = some "dev" :=
  ⟨by decide, run_linked _ _ _ (by decide), by decide, by decide⟩

end Lens
end KubeLens
