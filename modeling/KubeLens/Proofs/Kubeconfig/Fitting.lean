import KubeLens.Kubeconfig.Edit
import KubeLens.Kubeconfig.Store

/-!
# Documents that describe clients

The reader of documents asks little of an entry, but a client can only be made from a document
whose parts all fit.  One entry that does not fit spoils the document for every context.  Removing
a context never spoils a document, and merging spoils it only by what it adds.
-/

namespace KubeLens
namespace Kubeconfig

open ClientConfig

/-- A document whose parts fit. -/
structure Fits (document : Kubeconfig) : Prop where
  extra : ∀ field ∈ extraFields, ∀ value, document.extra.get? field.key = some value →
    field.shape value = true
  clusters : ∀ entry ∈ document.clusters, sectionFits "cluster" clusterFields entry = true
  contexts : ∀ entry ∈ document.contexts, sectionFits "context" contextFields entry = true
  users : ∀ entry ∈ document.users, sectionFits "user" userFields entry = true

theorem accepts_iff_fits {document : Kubeconfig} : accepts document = true ↔ document.Fits := by
  simp only [accepts, Bool.and_eq_true, List.all_eq_true (l := extraFields),
    List.all_eq_true (l := document.clusters), List.all_eq_true (l := document.contexts),
    List.all_eq_true (l := document.users)]
  constructor
  · rintro ⟨⟨⟨extra, clusters⟩, contexts⟩, users⟩
    refine ⟨fun field listed value found => ?_, clusters, contexts, users⟩
    have accepted := extra field listed
    rwa [found] at accepted
  · intro fits
    refine ⟨⟨⟨fun field listed => ?_, fits.clusters⟩, fits.contexts⟩, fits.users⟩
    split
    · exact fits.extra field listed _ ‹_›
    · rfl

instance (document : Kubeconfig) : Decidable document.Fits :=
  decidable_of_iff _ accepts_iff_fits

/-- A client can be made from a document exactly when its parts fit. -/
theorem clientConfig_isOk_iff {document : Kubeconfig} :
    (∃ config, document.clientConfig = .ok config) ↔ document.Fits := by
  rw [← accepts_iff_fits]
  unfold clientConfig ofDocument?
  cases accepts document <;> simp

/-- Whether a document fits does not depend on its current context. -/
@[simp] theorem fits_reread_iff {document : Kubeconfig} : document.reread.Fits ↔ document.Fits :=
  ⟨fun fits => ⟨fits.extra, fits.clusters, fits.contexts, fits.users⟩,
    fun fits => ⟨fits.extra, fits.clusters, fits.contexts, fits.users⟩⟩

/-! ## Merging -/

/-- What merging adds to a document: the entries with new names, and nothing else. -/
def additions (document incoming : Kubeconfig) : Kubeconfig where
  clusters := newEntries document.clusters incoming.clusters
  contexts := newEntries document.contexts incoming.contexts
  users := newEntries document.users incoming.users

/-- A merged document fits when the stored one does and what is added to it. -/
theorem fits_merge_iff {document incoming : Kubeconfig} :
    (document.merge incoming).Fits ↔ document.Fits ∧ (document.additions incoming).Fits := by
  constructor
  · intro fits
    refine ⟨⟨fits.extra, ?_, ?_, ?_⟩, ⟨nofun, ?_, ?_, ?_⟩⟩
    · exact fun entry present => fits.clusters entry (List.mem_append_left _ present)
    · exact fun entry present => fits.contexts entry (List.mem_append_left _ present)
    · exact fun entry present => fits.users entry (List.mem_append_left _ present)
    · exact fun entry present => fits.clusters entry (List.mem_append_right _ present)
    · exact fun entry present => fits.contexts entry (List.mem_append_right _ present)
    · exact fun entry present => fits.users entry (List.mem_append_right _ present)
  · rintro ⟨stored, added⟩
    refine ⟨stored.extra, fun entry present => ?_, fun entry present => ?_,
      fun entry present => ?_⟩
    · exact (List.mem_append.mp present).elim (stored.clusters entry) (added.clusters entry)
    · exact (List.mem_append.mp present).elim (stored.contexts entry) (added.contexts entry)
    · exact (List.mem_append.mp present).elim (stored.users entry) (added.users entry)

/-! ## Removing -/

theorem dropUnreferenced_sublist (reference : Entry → Option String) (contexts : List Entry)
    (name : Option String) (entries : List Entry) :
    (dropUnreferenced reference contexts name entries).Sublist entries := by
  unfold dropUnreferenced
  split
  · exact List.Sublist.refl entries
  · split
    · exact List.Sublist.refl entries
    · exact List.filter_sublist

/-- What is left of a document that fits, after a context was removed, fits. -/
theorem Fits.removeContext {document left : Kubeconfig} {name : String} (fits : document.Fits)
    (taken : document.removeContext name = some left) : left.Fits := by
  obtain ⟨entry, _, rfl⟩ := Option.map_eq_some_iff.mp taken
  refine ⟨fits.extra, fun entry present => ?_, fun entry present => ?_, fun entry present => ?_⟩
  · exact fits.clusters entry ((dropUnreferenced_sublist _ _ _ _).subset present)
  · exact fits.contexts entry (List.eraseP_subset present)
  · exact fits.users entry ((dropUnreferenced_sublist _ _ _ _).subset present)

end Kubeconfig

/-! ## Stored documents -/

namespace Host

/-- Whether the stored document can be loaded, and clients can be made from it. -/
def Usable (settings : Settings) (host : Host) : Prop :=
  ∃ document config, host.load settings = .ok document ∧ document.clientConfig = .ok config

theorem usable_iff_of_load {settings : Settings} {host : Host} {document : Kubeconfig}
    (loaded : host.load settings = .ok document) :
    host.Usable settings ↔ document.Fits := by
  simp [Usable, loaded, Kubeconfig.clientConfig_isOk_iff]

theorem usable_iff {settings : Settings} {host : Host} :
    host.Usable settings ↔ (host.load settings).toOption.any ClientConfig.accepts = true := by
  cases loaded : host.load settings with
  | error error => simp [Usable, loaded, Except.toOption]
  | ok document =>
      rw [usable_iff_of_load loaded, ← Kubeconfig.accepts_iff_fits]
      rfl

instance (settings : Settings) (host : Host) : Decidable (host.Usable settings) :=
  decidable_of_iff _ usable_iff.symm

/-- What a text would add to the stored document, if it can be read and may be added. -/
def additions? (settings : Settings) (host : Host) (raw : String) : Option Kubeconfig :=
  if host.inCluster || !host.faults.isEmpty then none
  else
    match host.load settings, Kubeconfig.parse raw with
    | .ok document, .ok incoming => some (document.additions incoming)
    | _, _ => none

end Host
end KubeLens
