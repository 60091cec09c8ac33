import KubeLens.Switchboard

/-!
# Storing documents

A document is stored as a whole or not at all.  Adding and dropping contexts store one document at
most, after everything that may be refused, so that what is refused leaves the file as it was.
-/

namespace KubeLens

namespace Host

variable {settings : Settings} {host : Host}

/-- A document is stored, and everything else on the host stays, or nothing changes. -/
theorem save_cases (host : Host) (document : Kubeconfig) :
    host.save document = (.ok (), { host with kubeconfig := .saved document }) ∨
      host.save document = (.error .file, host) := by
  unfold save
  dsimp only
  split
  · exact .inr rfl
  · split
    · exact .inr rfl
    · exact .inl rfl

theorem save_eq_ok {document : Kubeconfig} {after : Host}
    (saved : host.save document = (.ok (), after)) :
    after = { host with kubeconfig := .saved document } := by
  rcases host.save_cases document with stored | failed
  · exact congrArg Prod.snd (saved.symm.trans stored)
  · cases saved.symm.trans failed

/-- Where a document can be loaded, or there is none, any document can be stored unless a step of
storing fails. -/
theorem save_of_loadOrBlank {document : Kubeconfig}
    (loaded : host.loadOrBlank settings = .ok document) (other : Kubeconfig) :
    host.save other =
      if host.faults = [] then (.ok (), { host with kubeconfig := .saved other })
      else (.error .file, host) := by
  by_cases faultless : host.faults = []
  · rw [if_pos faultless]
    unfold save
    simp only [faultless, List.contains_nil, Bool.or_self, Bool.false_eq_true, if_false]
    split
    · rename_i directory
      simp [loadOrBlank, isOccupied, load, directory] at loaded
    · rfl
  · obtain ⟨step, present⟩ := List.exists_mem_of_ne_nil _ faultless
    rw [if_neg faultless]
    unfold save
    cases step <;> simp [present]

/-- Where there is a document, contexts are added to it. -/
theorem loadOrBlank_of_load {document : Kubeconfig} (loaded : host.load settings = .ok document) :
    host.loadOrBlank settings = .ok document := by
  have occupied : host.isOccupied = true := by
    unfold isOccupied
    unfold load at loaded
    split at loaded <;> simp_all
  simp [loadOrBlank, occupied, loaded]

/-- What can be loaded depends on the file alone. -/
theorem load_congr {other : Host} (same : other.kubeconfig = host.kubeconfig) :
    other.load settings = host.load settings := by
  unfold load
  rw [same]

theorem loadOrBlank_congr {other : Host} (same : other.kubeconfig = host.kubeconfig) :
    other.loadOrBlank settings = host.loadOrBlank settings := by
  unfold loadOrBlank isOccupied
  rw [load_congr same, same]

end Host

namespace Switchboard

variable {settings : Settings} {host : Host}

/-- Adding contexts is refused and changes nothing, or needs a document that can be loaded, and
stores that document merged. -/
theorem addContexts_cases (settings : Settings) (host : Host) (raw : String) :
    (∃ error, addContexts settings host raw = (.error error, host)) ∨
      ∃ document incoming after, host.inCluster = false ∧ Kubeconfig.parse raw = .ok incoming ∧
        host.loadOrBlank settings = .ok document ∧
        host.save (document.merge incoming) = (.ok (), after) ∧
        addContexts settings host raw = (.ok (document.addedContexts incoming), after) := by
  unfold addContexts
  split
  · exact .inl ⟨_, rfl⟩
  · rename_i outside
    split
    · exact .inl ⟨_, rfl⟩
    · exact .inl ⟨_, rfl⟩
    · rename_i incoming document read loaded
      rcases host.save_cases (document.merge incoming) with stored | failed
      -- The document that was stored can be read again.
      · rw [stored]
        exact .inr ⟨document, incoming, _, by simpa using outside, read, loaded, stored, rfl⟩
      · rw [failed]
        exact .inl ⟨_, rfl⟩

/-- Outside a cluster a text that can be read is merged into the stored document, or into the
blank one, unless a step of storing fails. -/
theorem addContexts_of_loadOrBlank {document incoming : Kubeconfig} {raw : String}
    (outside : host.inCluster = false) (loaded : host.loadOrBlank settings = .ok document)
    (read : Kubeconfig.parse raw = .ok incoming) :
    addContexts settings host raw =
      if host.faults = [] then
        (.ok (document.addedContexts incoming),
          { host with kubeconfig := .saved (document.merge incoming) })
      else (.error .file, host) := by
  unfold addContexts
  simp only [outside, Bool.false_eq_true, if_false, read, loaded, Host.save_of_loadOrBlank loaded]
  by_cases faultless : host.faults = []
  · simp only [faultless, if_true]
    rfl
  · simp only [faultless, if_false]

theorem addContexts_eq_ok {raw : String} {names : List String} {after : Host}
    (stored : addContexts settings host raw = (.ok names, after)) :
    host.inCluster = false ∧ ∃ document incoming,
      host.loadOrBlank settings = .ok document ∧
      host.save (document.merge incoming) = (.ok (), after) := by
  rcases addContexts_cases settings host raw with
    ⟨_, refused⟩ | ⟨document, incoming, _, outside, _, loaded, saved, added⟩
  · cases stored.symm.trans refused
  · cases stored.symm.trans added
    exact ⟨outside, document, incoming, loaded, saved⟩

/-- Dropping a context is refused and changes nothing, or needs a document that has it, and stores
what is left. -/
theorem dropContext_cases (settings : Settings) (host : Host) (name : String) :
    (∃ error, dropContext settings host name = (.error error, host)) ∨
      ∃ document left after, host.inCluster = false ∧ host.load settings = .ok document ∧
        document.removeContext name = some left ∧ host.save left = (.ok (), after) ∧
        dropContext settings host name = (.ok left, after) := by
  unfold dropContext
  split
  · exact .inl ⟨_, rfl⟩
  · rename_i outside
    split
    · exact .inl ⟨_, rfl⟩
    · rename_i document loaded
      split
      · exact .inl ⟨_, rfl⟩
      · rename_i left taken
        rcases host.save_cases left with stored | failed
        · rw [stored]
          exact .inr ⟨document, left, _, by simpa using outside, loaded, taken, stored, rfl⟩
        · rw [failed]
          exact .inl ⟨_, rfl⟩

theorem dropContext_eq_ok {name : String} {left : Kubeconfig} {after : Host}
    (dropped : dropContext settings host name = (.ok left, after)) :
    host.inCluster = false ∧ ∃ document,
      host.load settings = .ok document ∧ document.removeContext name = some left ∧
      host.save left = (.ok (), after) := by
  rcases dropContext_cases settings host name with
    ⟨_, refused⟩ | ⟨document, _, _, outside, loaded, taken, saved, left⟩
  · cases dropped.symm.trans refused
  · cases dropped.symm.trans left
    exact ⟨outside, document, loaded, taken, saved⟩

end Switchboard
end KubeLens
