import KubeLens.Proofs.Kubeconfig.Fitting
import KubeLens.Proofs.Lens.Barred
import KubeLens.Proofs.Lens.Linked
import Mathlib.Data.List.Infix

/-!
# A store that stays usable

Activating a context needs a stored document that describes clients as a whole.  Contexts are
added as they are written, whether clients can be made from them or not: adding them leaves the
store usable exactly when all that is added fits, and nothing else that the service does makes the
store unusable.  This holds as long as nobody else writes the kubeconfig file.
-/

namespace KubeLens

/-- Whether the store lets a context be activated. -/
def Site.Describes (site : Site) (name : String) : Prop :=
  Switchboard.describes site.settings site.host name = .ok ()

theorem Site.describes_iff_isOk {site : Site} {name : String} :
    site.Describes name ↔
      (Switchboard.describes site.settings site.host name).isOk = true := by
  unfold Site.Describes
  cases Switchboard.describes site.settings site.host name <;> simp [Except.isOk, Except.toBool]

instance (site : Site) (name : String) : Decidable (site.Describes name) :=
  decidable_of_iff _ Site.describes_iff_isOk.symm

/-- Out of cluster, the store lets the contexts be activated that it knows, if it is usable. -/
theorem Site.describes_iff {site : Site} (outside : site.host.inCluster = false) {name : String} :
    site.Describes name ↔
      name ≠ "" ∧ site.host.Knows site.settings name ∧ site.host.Usable site.settings := by
  constructor
  · intro described
    have known := Switchboard.knows_of_describes described
    rw [Switchboard.target, outside] at known
    unfold Site.Describes Switchboard.describes at described
    simp only [outside, Bool.false_eq_true, if_false] at described
    split at described
    · cases described
    · rename_i named
      refine ⟨by simpa [String.isEmpty_iff] using named, known, ?_⟩
      split at described
      · cases described
      · rename_i document loaded
        split at described
        · cases converted : document.clientConfig with
          | error error =>
              rw [converted] at described
              cases described
          | ok config => exact ⟨document, config, loaded, converted⟩
        · cases described
  · rintro ⟨named, known, document, config, loaded, converted⟩
    obtain ⟨stored, readable, present⟩ := (Host.knows_of_outside outside).mp known
    obtain rfl : document = stored := Except.ok.inj (loaded.symm.trans readable)
    have offered : site.Offers name :=
      .inr ⟨document, config, loaded, Kubeconfig.hasContext_iff.mpr present, converted⟩
    exact Site.describes_of_offers offered named (by simp [Switchboard.target, outside])

/-- Whether a store is usable depends on the file alone. -/
theorem Host.usable_congr {settings : Settings} {host other : Host}
    (same : other.kubeconfig = host.kubeconfig) :
    other.Usable settings ↔ host.Usable settings := by
  unfold Usable
  rw [load_congr same]

/-! ## Adding contexts -/

namespace Switchboard

variable {settings : Settings} {host : Host} {document : Kubeconfig}

/-- Where a document can be loaded, adding contexts fails and would add nothing, or stores what
it adds together with the document. -/
theorem addContexts_additions? (loaded : host.load settings = .ok document) (raw : String) :
    (∃ error, addContexts settings host raw = (.error error, host) ∧
      host.additions? settings raw = none) ∨
    ∃ incoming, addContexts settings host raw =
        (.ok (document.addedContexts incoming),
          { host with kubeconfig := .saved (document.merge incoming) }) ∧
      host.additions? settings raw = some (document.additions incoming) := by
  unfold Host.additions?
  cases inside : host.inCluster with
  | true =>
      refine .inl ⟨.contextsFixed "add", ?_, rfl⟩
      unfold addContexts
      rw [inside]
      rfl
  | false =>
      cases read : Kubeconfig.parse raw with
      | error error =>
          refine .inl ⟨error, ?_, by simp [loaded]⟩
          unfold addContexts
          rw [inside, read]
          rfl
      | ok incoming =>
          rw [addContexts_of_loadOrBlank inside (Host.loadOrBlank_of_load loaded) read]
          by_cases faultless : host.faults = []
          · exact .inr ⟨incoming, if_pos faultless, by simp [faultless, loaded]⟩
          · exact .inl ⟨.file, if_neg faultless, by simp [faultless]⟩

end Switchboard

/-! ## One event -/

namespace Lens

/-- What an event adds to the stored document. -/
def adds? (lens : Lens) : Event → Option Kubeconfig
  | .addContexts raw => lens.site.host.additions? lens.site.settings raw
  | _ => none

/-- Whether clients can be made from all that an event adds to the stored document. -/
def AddsFitting (lens : Lens) (event : Event) : Prop :=
  ∀ added ∈ lens.adds? event, added.Fits

instance (lens : Lens) (event : Event) : Decidable (lens.AddsFitting event) :=
  inferInstanceAs (Decidable (∀ added ∈ lens.adds? event, added.Fits))

/-- Whether an event removes a context with success. -/
def removes (lens : Lens) (name : String) : Event → Bool
  | .removeContext removed => removed == name && (lens.removeContext removed).1.isOk
  | _ => false

/-- Adding contexts to a usable store leaves it usable exactly when what is added fits. -/
theorem addContexts_usable_iff {lens : Lens} {raw : String}
    (usable : lens.site.host.Usable lens.site.settings) :
    (lens.addContexts raw).2.site.host.Usable lens.site.settings ↔
      lens.AddsFitting (.addContexts raw) := by
  obtain ⟨document, config, loaded, converted⟩ := id usable
  have adds : lens.adds? (.addContexts raw) =
      lens.site.host.additions? lens.site.settings raw := rfl
  rw [AddsFitting, adds]
  rcases Switchboard.addContexts_additions? loaded raw with
    ⟨error, refused, nothing⟩ | ⟨incoming, stored, added⟩
  · have unchanged : (lens.addContexts raw).2 = lens := by simp [addContexts, refused]
    rw [unchanged, nothing]
    exact iff_of_true usable nofun
  · have fits : document.Fits := (Host.usable_iff_of_load loaded).mp usable
    have reloaded : (lens.addContexts raw).2.site.host.load lens.site.settings =
        .ok (document.merge incoming).reread := by
      simp [addContexts, stored, Host.load]
    rw [Host.usable_iff_of_load reloaded, added]
    simp [Kubeconfig.fits_merge_iff, fits]

end Lens

/-- Whatever else happens, a usable store stays usable. -/
theorem Site.Outcome.usable {site after : Site} {event : Event}
    (outcome : site.Outcome event after) (unwritten : event.writesFile = false)
    (noAdding : ∀ raw, event ≠ .addContexts raw) (usable : site.host.Usable site.settings) :
    after.host.Usable after.settings := by
  cases outcome with
  | attempts attempts => rwa [attempts.host, attempts.settings]
  | surroundings same file => rwa [same.settings, Host.usable_congr (file unwritten)]
  | added raw => exact absurd rfl (noAdding raw)
  | cleared => exact usable
  | @removed name left host _ dropped promoted =>
      obtain ⟨_, document, loaded, taken, saved⟩ := Switchboard.dropContext_eq_ok dropped
      have fits : document.Fits := (Host.usable_iff_of_load loaded).mp usable
      rw [promoted.host, promoted.settings, Host.save_eq_ok saved]
      exact (Host.usable_iff_of_load rfl).mpr
        (Kubeconfig.fits_reread_iff.mpr (fits.removeContext taken))

/-- Nothing changes whether there are mounted credentials. -/
theorem Site.Outcome.inCluster {site after : Site} {event : Event}
    (outcome : site.Outcome event after) : after.host.inCluster = site.host.inCluster := by
  cases outcome with
  | attempts attempts => rw [attempts.host]
  | surroundings same => exact same.inCluster
  | added raw stored =>
      obtain ⟨_, _, _, _, saved⟩ := Switchboard.addContexts_eq_ok stored
      rw [Host.save_eq_ok saved]
      rfl
  | cleared => rfl
  | removed name dropped promoted =>
      obtain ⟨_, _, _, _, saved⟩ := Switchboard.dropContext_eq_ok dropped
      rw [promoted.host, Host.save_eq_ok saved]
      rfl

namespace Lens

/-- An event leaves a usable store usable exactly when all that it adds to it fits. -/
theorem act_usable_iff {lens : Lens} {event : Event} (unwritten : event.writesFile = false)
    (usable : lens.site.host.Usable lens.site.settings) :
    (lens.act event).site.host.Usable (lens.act event).site.settings ↔
      lens.AddsFitting event := by
  have outcome := lens.act_outcome event
  cases event with
  | addContexts raw =>
      rw [outcome.settings]
      exact addContexts_usable_iff usable
  | _ => exact iff_of_true (outcome.usable unwritten nofun usable) nofun

/-- An event that does not remove a context keeps it known. -/
theorem act_knows {lens : Lens} {event : Event} {name : String}
    (unwritten : event.writesFile = false) (kept : lens.removes name event = false)
    (known : lens.site.host.Knows lens.site.settings name) :
    (lens.act event).site.host.Knows (lens.act event).site.settings name := by
  have outcome := lens.act_outcome event
  generalize (lens.act event).site = after at outcome ⊢
  cases outcome with
  | attempts attempts => rwa [attempts.host, attempts.settings]
  | surroundings same file =>
      rwa [same.settings, Host.knows_congr same.inCluster (file unwritten)]
  | added raw stored => exact Switchboard.knows_of_addContexts stored known
  | cleared => exact known
  | removed removed dropped promoted =>
      have different : name ≠ removed := by
        rintro rfl
        have succeeded : (lens.removeContext name).1.isOk = true := by
          rw [lens.removeContext_isOk, dropped]
          rfl
        simp [removes, succeeded] at kept
      rw [promoted.host, promoted.settings]
      exact Switchboard.knows_of_dropContext dropped different known

/-! ## Runs -/

/-- Whether every event of a run is as `P` says in the state that it meets. -/
def Throughout (P : Lens → Event → Prop) (lens : Lens) : List Event → Prop
  | [] => True
  | event :: rest => P lens event ∧ (lens.act event).Throughout P rest

instance decidableThroughout (P : Lens → Event → Prop)
    [∀ lens event, Decidable (P lens event)] (lens : Lens) :
    (events : List Event) → Decidable (lens.Throughout P events)
  | [] => inferInstanceAs (Decidable True)
  | event :: rest =>
    have := decidableThroughout P (lens.act event) rest
    inferInstanceAs (Decidable (P lens event ∧ (lens.act event).Throughout P rest))

theorem run_usable_iff {lens : Lens} {events : List Event}
    (unwritten : ∀ event ∈ events, event.writesFile = false)
    (usable : lens.site.host.Usable lens.site.settings) :
    (∀ earlier, earlier <+: events →
        (lens.run earlier).site.host.Usable (lens.run earlier).site.settings) ↔
      lens.Throughout AddsFitting events := by
  induction events generalizing lens with
  | nil =>
      refine iff_of_true (fun earlier start => ?_) trivial
      rwa [List.prefix_nil.mp start, run_nil]
  | cons event rest ih =>
      have first := act_usable_iff (unwritten event List.mem_cons_self) usable
      have others : ∀ event ∈ rest, event.writesFile = false :=
        fun event present => unwritten event (List.mem_cons_of_mem _ present)
      constructor
      · intro everywhere
        have now := everywhere [event] (List.prefix_append [event] rest)
        refine ⟨first.mp now, (ih others now).mp fun earlier start => ?_⟩
        exact everywhere (event :: earlier) (List.cons_prefix_cons.mpr ⟨rfl, start⟩)
      · rintro ⟨now, later⟩ earlier start
        rcases List.prefix_cons_iff.mp start with rfl | ⟨earlierRest, rfl, startRest⟩
        · exact usable
        · exact (ih others (first.mpr now)).mpr later earlierRest startRest

theorem run_knows {lens : Lens} {events : List Event} {name : String}
    (unwritten : ∀ event ∈ events, event.writesFile = false)
    (kept : lens.Throughout (fun lens event => lens.removes name event = false) events)
    (known : lens.site.host.Knows lens.site.settings name) :
    (lens.run events).site.host.Knows (lens.run events).site.settings name := by
  induction events generalizing lens with
  | nil => exact known
  | cons event rest ih =>
      refine ih (fun event present => unwritten event (List.mem_cons_of_mem _ present)) kept.2 ?_
      exact act_knows (unwritten event List.mem_cons_self) kept.1 known

theorem run_inCluster (lens : Lens) (events : List Event) :
    (lens.run events).site.host.inCluster = lens.site.host.inCluster :=
  run_induction (P := fun later => later.site.host.inCluster = lens.site.host.inCluster)
    lens events rfl fun before event _ same => (before.act_outcome event).inCluster.trans same

/-- From a usable store on, the store is usable after every event exactly when all that is added
to it fits.  Then a context that the store let be activated at first, and that is not removed,
can still be activated. -/
theorem run_usable (lens : Lens) (events : List Event)
    (unwritten : ∀ event ∈ events, event.writesFile = false)
    (usable : lens.site.host.Usable lens.site.settings) :
    ((∀ earlier, earlier <+: events →
        (lens.run earlier).site.host.Usable (lens.run earlier).site.settings) ↔
      lens.Throughout AddsFitting events) ∧
    (lens.Throughout AddsFitting events → ∀ name, lens.site.Describes name →
      lens.Throughout (fun lens event => lens.removes name event = false) events →
      (lens.run events).site.Describes name) := by
  have usableIff := run_usable_iff unwritten usable
  refine ⟨usableIff, fun fitting name described kept => ?_⟩
  cases inside : lens.site.host.inCluster with
  | true =>
      have stillInside := (lens.run_inCluster events).trans inside
      unfold Site.Describes Switchboard.describes
      rw [stillInside]
      rfl
  | false =>
      have stillOutside := (lens.run_inCluster events).trans inside
      obtain ⟨named, known, _⟩ := (Site.describes_iff inside).mp described
      exact (Site.describes_iff stillOutside).mpr ⟨named, run_knows unwritten kept known,
        usableIff.mpr fitting events (List.prefix_refl events)⟩

/-- A context that fits is added, and another one is removed. -/
theorem run_usable_replaced :
    let lens := onHost (.defaults none)
      { kubeconfig := .text "contexts: [{name: a}, {name: b}]" }
    let events : List Event :=
      [.addContexts "contexts: [{name: d, context: [c, u, n, []]}]", .removeContext "a"]
    (∀ event ∈ events, event.writesFile = false) ∧ lens.Throughout AddsFitting events ∧
      (∀ earlier, earlier <+: events →
        (lens.run earlier).site.host.Usable (lens.run earlier).site.settings) ∧
      lens.site.Describes "b" ∧ (lens.run events).site.Describes "b" := by
  intro lens events
  have unwritten : ∀ event ∈ events, event.writesFile = false := by decide
  have usable : lens.site.host.Usable lens.site.settings := by decide +kernel
  have fitting : lens.Throughout AddsFitting events := by decide +kernel
  have described : lens.site.Describes "b" := by decide +kernel
  obtain ⟨usableIff, describes⟩ := run_usable lens events unwritten usable
  exact ⟨unwritten, fitting, usableIff.mpr fitting, described,
    describes fitting "b" described (by decide +kernel)⟩

/-- A context without a cluster can be added, and then no context can be activated any more. -/
theorem addContexts_unusable :
    let lens := onHost (.defaults none)
      { kubeconfig := .text "contexts: [{name: a}]" }
    let after := lens.run [.addContexts "contexts: [{name: b, context: {}}]"]
    lens.site.host.Usable lens.site.settings ∧ lens.site.Describes "a" ∧
      ¬ after.site.host.Usable after.site.settings ∧ ¬ after.site.Describes "a" := by
  decide +kernel

end Lens
end KubeLens
