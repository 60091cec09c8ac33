import KubeLens.Proofs.Kubeconfig.Entries

/-!
# Laws of merging

Merging appends, to each list of a document, the first incoming entry of each new name.  A second
merge of the same document changes nothing, and it does not matter in which grouping documents are
merged: an entry is looked up by its name among all that came before, and nothing else counts.
-/

namespace KubeLens
namespace Kubeconfig

/-- The incoming entries whose names are neither stored nor on an incoming entry in front of them,
in their order. -/
def firstEntries (stored incoming : List Entry) : List Entry :=
  (incoming.zipIdx.filter fun (entry, place) =>
    entry.name ∉ (stored ++ incoming.take place).map (·.name)).map (·.1)

variable {stored other incoming rest : List Entry} {entry : Entry}

/-! ## New entries -/

theorem newEntries_cons_of_mem (present : entry.name ∈ stored.map (·.name)) :
    newEntries stored (entry :: rest) = newEntries stored rest := by
  have found : stored.any (·.name == entry.name) = true := by simpa using present
  rw [newEntries, if_pos found]

theorem newEntries_cons_of_not_mem (absent : entry.name ∉ stored.map (·.name)) :
    newEntries stored (entry :: rest) = entry :: newEntries (stored ++ [entry]) rest := by
  have unfound : ¬ stored.any (·.name == entry.name) = true := by simpa using absent
  rw [newEntries, if_neg unfound]

/-- Of the stored entries only the names count. -/
theorem newEntries_congr
    (same : ∀ name, name ∈ stored.map (·.name) ↔ name ∈ other.map (·.name)) :
    newEntries stored incoming = newEntries other incoming := by
  induction incoming generalizing stored other with
  | nil => rfl
  | cons entry rest ih =>
      by_cases present : entry.name ∈ stored.map (·.name)
      · rw [newEntries_cons_of_mem present, newEntries_cons_of_mem ((same _).mp present), ih same]
      · rw [newEntries_cons_of_not_mem present,
          newEntries_cons_of_not_mem (present ∘ (same _).mpr), ih fun name => ?_]
        simp only [List.map_append, List.mem_append, same name]

/-- Behind an entry its name is taken, whether the entry is new or not. -/
theorem newEntries_cons (stored : List Entry) (entry : Entry) (rest : List Entry) :
    newEntries stored (entry :: rest) =
      (if entry.name ∈ stored.map (·.name) then [] else [entry]) ++
        newEntries (stored ++ [entry]) rest := by
  split
  · rename_i present
    rw [newEntries_cons_of_mem present, List.nil_append]
    refine newEntries_congr fun name => ?_
    rw [List.map_append, List.mem_append, List.map_singleton, List.mem_singleton, iff_self_or]
    rintro rfl
    exact present
  · rename_i absent
    rw [newEntries_cons_of_not_mem absent, List.singleton_append]

theorem firstEntries_cons :
    firstEntries stored (entry :: rest) =
      (if entry.name ∈ stored.map (·.name) then [] else [entry]) ++
        firstEntries (stored ++ [entry]) rest := by
  unfold firstEntries
  rw [List.zipIdx_cons, List.zipIdx_succ, List.filter_cons, List.filter_map]
  by_cases present : entry.name ∈ stored.map (·.name) <;>
    simp [present, Function.comp_def]

/-- The new entries are those that are the first to have their names. -/
theorem newEntries_eq_firstEntries (stored incoming : List Entry) :
    newEntries stored incoming = firstEntries stored incoming := by
  induction incoming generalizing stored with
  | nil => rfl
  | cons entry rest ih => rw [newEntries_cons, firstEntries_cons, ih]

theorem newEntries_append (first second : List Entry) :
    newEntries stored (first ++ second) =
      newEntries stored first ++ newEntries (stored ++ first) second := by
  induction first generalizing stored with
  | nil => simp [newEntries]
  | cons entry rest ih =>
      rw [List.cons_append, newEntries_cons, ih, newEntries_cons stored entry rest, List.append_assoc,
        List.append_assoc, List.singleton_append]

/-- The names that are added are the incoming ones that are not stored. -/
theorem mem_map_newEntries {name : String} :
    name ∈ (newEntries stored incoming).map (·.name) ↔
      name ∈ incoming.map (·.name) ∧ name ∉ stored.map (·.name) := by
  induction incoming generalizing stored with
  | nil => simp [newEntries]
  | cons entry rest ih =>
      rw [newEntries_cons, List.map_append, List.mem_append, ih, List.map_cons, List.mem_cons,
        List.map_append, List.mem_append, List.map_singleton, List.mem_singleton]
      by_cases same : name = entry.name
      · subst same
        by_cases present : entry.name ∈ stored.map (·.name) <;> simp [present]
      · by_cases present : entry.name ∈ stored.map (·.name) <;> simp [present, same]

/-- No name is added twice. -/
theorem nodup_map_newEntries (stored incoming : List Entry) :
    ((newEntries stored incoming).map (·.name)).Nodup := by
  induction incoming generalizing stored with
  | nil => exact List.nodup_nil
  | cons entry rest ih =>
      by_cases present : entry.name ∈ stored.map (·.name)
      · rw [newEntries_cons_of_mem present]
        exact ih stored
      · rw [newEntries_cons_of_not_mem present, List.map_cons, List.nodup_cons, mem_map_newEntries]
        exact ⟨fun ⟨_, absent⟩ => absent (by simp), ih _⟩

/-- Nothing is new when every name is stored. -/
theorem newEntries_eq_nil (known : incoming.map (·.name) ⊆ stored.map (·.name)) :
    newEntries stored incoming = [] := by
  refine List.eq_nil_iff_forall_not_mem.mpr fun entry added => ?_
  obtain ⟨listed, absent⟩ := mem_map_newEntries.mp (List.mem_map_of_mem (f := (·.name)) added)
  exact absent (known listed)

/-- Leaving out what is stored anyway does not change what is new. -/
theorem newEntries_newEntries (known : other.map (·.name) ⊆ stored.map (·.name)) :
    newEntries stored (newEntries other incoming) = newEntries stored incoming := by
  induction incoming generalizing stored other with
  | nil => rfl
  | cons entry rest ih =>
      by_cases present : entry.name ∈ other.map (·.name)
      · rw [newEntries_cons_of_mem present, newEntries_cons_of_mem (known present), ih known]
      · rw [newEntries_cons_of_not_mem present, newEntries_cons, newEntries_cons stored entry rest, ih]
        rw [List.map_append, List.map_append]
        exact List.append_subset.mpr
          ⟨List.Subset.trans known (List.subset_append_left _ _), List.subset_append_right _ _⟩

/-- A name is stored after merging when it was stored before or is incoming. -/
theorem mem_map_append_newEntries {name : String} :
    name ∈ (stored ++ newEntries stored incoming).map (·.name) ↔
      name ∈ (stored ++ incoming).map (·.name) := by
  rw [List.map_append, List.map_append, List.mem_append, List.mem_append, mem_map_newEntries]
  by_cases present : name ∈ stored.map (·.name) <;> simp [present]

theorem newEntries_again (stored incoming : List Entry) :
    newEntries (stored ++ newEntries stored incoming) incoming = [] := by
  refine newEntries_eq_nil fun name listed => ?_
  rw [mem_map_append_newEntries, List.map_append]
  exact List.mem_append_right _ listed

/-- What is new in a second document is new whether the first one was merged in before, or is merged
in together with it. -/
theorem newEntries_assoc (stored first second : List Entry) :
    newEntries stored (first ++ newEntries first second) =
      newEntries stored first ++ newEntries (stored ++ newEntries stored first) second := by
  rw [newEntries_append, newEntries_congr fun _ => mem_map_append_newEntries,
    newEntries_newEntries]
  rw [List.map_append]
  exact List.subset_append_right _ _

/-! ## Documents -/

/-- A document is what its lists, its current context and the rest of it are. -/
theorem eq_of_entries {document other : Kubeconfig}
    (entries : ∀ part, document.entries part = other.entries part)
    (current : document.current = other.current) (extra : document.extra = other.extra) :
    document = other := by
  obtain ⟨clusters, contexts, users, _, _⟩ := document
  cases entries .clusters
  cases entries .contexts
  cases entries .users
  cases current
  cases extra
  rfl

theorem entries_additions (document incoming : Kubeconfig) (part : Part) :
    (document.additions incoming).entries part =
      newEntries (document.entries part) (incoming.entries part) := by
  cases part <;> rfl

/-- A second merge of a document adds nothing. -/
theorem merge_merge_self (document incoming : Kubeconfig) :
    (document.merge incoming).merge incoming = document.merge incoming := by
  refine eq_of_entries (fun part => ?_) rfl rfl
  simp only [entries_merge, entries_additions]
  rw [newEntries_again, List.append_nil]

theorem merge_assoc (first second third : Kubeconfig) :
    (first.merge second).merge third = first.merge (second.merge third) := by
  refine eq_of_entries (fun part => ?_) rfl rfl
  simp only [entries_merge, entries_additions]
  rw [newEntries_assoc, List.append_assoc]

/-- Merging keeps a document as it is and appends to each list, in their order, the incoming entries
that are the first to have their names.  It tells the names of the contexts that it appended, each
once.  Merging the same document again changes nothing, and merging one document after the other is
merging them together. -/
theorem merge_laws (first second third : Kubeconfig) :
    ((first.merge second).current = first.current ∧ (first.merge second).extra = first.extra ∧
      ∀ part, (first.merge second).entries part =
        first.entries part ++ firstEntries (first.entries part) (second.entries part)) ∧
    (first.addedContexts second =
        (firstEntries first.contexts second.contexts).map (·.name) ∧
      (first.addedContexts second).Nodup) ∧
    ((first.merge second).merge second = first.merge second ∧
      (first.merge second).addedContexts second = []) ∧
    ((first.merge second).merge third = first.merge (second.merge third) ∧
      first.addedContexts (second.merge third) =
        first.addedContexts second ++ (first.merge second).addedContexts third) := by
  refine ⟨⟨rfl, rfl, fun part => ?_⟩, ⟨?_, nodup_map_newEntries _ _⟩,
    ⟨first.merge_merge_self second, ?_⟩, first.merge_assoc second third, ?_⟩
  · rw [entries_merge, entries_additions, newEntries_eq_firstEntries]
  · rw [addedContexts, newEntries_eq_firstEntries]
  · exact congrArg (List.map (·.name)) (newEntries_again _ _)
  · unfold addedContexts merge
    dsimp only
    rw [newEntries_assoc, List.map_append]

end Kubeconfig
end KubeLens
