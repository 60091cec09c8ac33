import KubeLens.Proofs.Kubeconfig.Fitting

/-!
# The entries of a document

Merging appends entries to each of the three lists of a document, and removing a context drops
some.  Neither changes an entry, or what the document says besides its lists.
-/

namespace KubeLens
namespace Kubeconfig

/-- The lists of a document. -/
inductive Part
  | clusters
  | contexts
  | users
  deriving DecidableEq, Repr

/-- The entries of one of the lists. -/
def entries (document : Kubeconfig) : Part → List Entry
  | .clusters => document.clusters
  | .contexts => document.contexts
  | .users => document.users

variable {document left : Kubeconfig} {name : String}

@[simp] theorem entries_reread (document : Kubeconfig) (part : Part) :
    document.reread.entries part = document.entries part := by
  cases part <;> rfl

/-! ## Merging and removing -/

theorem entries_merge (document incoming : Kubeconfig) (part : Part) :
    (document.merge incoming).entries part =
      document.entries part ++ (document.additions incoming).entries part := by
  cases part <;> rfl

theorem entries_removeContext (taken : document.removeContext name = some left) (part : Part) :
    (left.entries part).Sublist (document.entries part) := by
  obtain ⟨entry, _, rfl⟩ := Option.map_eq_some_iff.mp taken
  cases part with
  | clusters => exact dropUnreferenced_sublist _ _ _ _
  | contexts => exact List.eraseP_sublist
  | users => exact dropUnreferenced_sublist _ _ _ _

theorem removeContext_extra (taken : document.removeContext name = some left) :
    left.extra = document.extra := by
  obtain ⟨entry, _, rfl⟩ := Option.map_eq_some_iff.mp taken
  rfl

/-- The current context is replaced only when it is removed. -/
theorem removeContext_current (taken : document.removeContext name = some left)
    (other : document.current ≠ some name) : left.current = document.current := by
  obtain ⟨entry, _, rfl⟩ := Option.map_eq_some_iff.mp taken
  simp [other]

/-! ## Reading -/

theorem readCurrent_filter {fields : List (String × Yaml.Tree)} {current : Option String}
    (read : readCurrent fields = some current) : current.filter (!·.isEmpty) = current := by
  unfold readCurrent at read
  obtain ⟨field?, _, read⟩ := Option.bind_eq_some_iff.mp read
  cases field? with
  | none =>
      cases read
      rfl
  | some tree =>
      obtain ⟨tree?, _, read⟩ := Option.bind_eq_some_iff.mp read
      cases tree? with
      | none =>
          cases read
          rfl
      | some inner =>
          obtain ⟨text, _, rfl⟩ := Option.map_eq_some_iff.mp read
          by_cases empty : text.isEmpty = true <;> simp [empty, Option.filter]

/-- A document that is read proposes no context with an empty name. -/
theorem reread_of_read? {text : String} (read : read? text = some document) :
    document.reread = document := by
  unfold read? at read
  split at read
  · cases read
    rfl
  · split at read
    · cases read
    · cases read
      rfl
    · unfold ofTree? at read
      obtain ⟨fields, _, read⟩ := Option.bind_eq_some_iff.mp read
      obtain ⟨clusters, _, read⟩ := Option.bind_eq_some_iff.mp read
      obtain ⟨contexts, _, read⟩ := Option.bind_eq_some_iff.mp read
      obtain ⟨users, _, read⟩ := Option.bind_eq_some_iff.mp read
      obtain ⟨current, readCurrent, read⟩ := Option.bind_eq_some_iff.mp read
      obtain ⟨extra, _, read⟩ := Option.bind_eq_some_iff.mp read
      cases read
      simp [reread, readCurrent_filter readCurrent]

end Kubeconfig

namespace Host

variable {settings : Settings} {host : Host} {document : Kubeconfig}

/-- Storing a document that was loaded, and loading it again, gives the same document. -/
theorem reread_of_load (loaded : host.load settings = .ok document) :
    document.reread = document := by
  unfold load at loaded
  split at loaded
  · cases loaded
  · cases loaded
  · cases loaded
  · rename_i raw _
    unfold Kubeconfig.parse at loaded
    split at loaded
    · cases loaded
      exact Kubeconfig.reread_of_read? ‹_›
    · cases loaded
  · cases loaded
    simp [Kubeconfig.reread, Option.filter_filter]

theorem reread_of_loadOrBlank (loaded : host.loadOrBlank settings = .ok document) :
    document.reread = document := by
  unfold loadOrBlank at loaded
  split at loaded
  · exact reread_of_load loaded
  · cases loaded
    rfl

end Host
end KubeLens
