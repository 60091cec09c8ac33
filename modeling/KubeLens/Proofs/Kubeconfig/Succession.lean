import KubeLens.Proofs.Lens.Linked

/-!
# Documents without one of their contexts

Where names are distinct, removing a context leaves exactly the contexts with other names, in their
order.  Another one may have to take its place: the context that the document proposes, as long as
it is left, or else the first one that is.
-/

namespace KubeLens
namespace Kubeconfig

variable {document left : Kubeconfig} {name : String}

/-- The contexts with other names. -/
def otherContexts (document : Kubeconfig) (name : String) : List Entry :=
  document.contexts.filter (·.name != name)

/-- The names of the other contexts. -/
def otherNames (document : Kubeconfig) (name : String) : List String :=
  (document.otherContexts name).map (·.name)

/-- The context that follows a removed one: the one that the document proposes, if it is among the
others, or else the first of them. -/
def successor? (document : Kubeconfig) (name : String) : Option String :=
  (document.current.filter (document.otherNames name).contains).or (document.otherNames name).head?

theorem mem_otherNames {other : String} :
    other ∈ document.otherNames name ↔ other ∈ document.contextNames ∧ other ≠ name := by
  unfold otherNames otherContexts contextNames
  simp only [List.mem_map, List.mem_filter, bne_iff_ne]
  constructor
  · rintro ⟨entry, ⟨present, different⟩, rfl⟩
    exact ⟨⟨entry, present, rfl⟩, different⟩
  · rintro ⟨⟨entry, present, rfl⟩, different⟩
    exact ⟨entry, ⟨present, different⟩, rfl⟩

theorem removeContext_isSome_iff :
    (document.removeContext name).isSome = true ↔ name ∈ document.contextNames := by
  unfold removeContext context?
  rw [Option.isSome_map, List.find?_isSome]
  simp [contextNames]

/-- Where names are distinct, dropping the first entry of a name drops all of them. -/
theorem eraseP_eq_filter {entries : List Entry} (distinct : (entries.map (·.name)).Nodup)
    (name : String) : entries.eraseP (·.name == name) = entries.filter (·.name != name) := by
  induction entries with
  | nil => rfl
  | cons first rest ih =>
      obtain ⟨fresh, distinctRest⟩ := List.nodup_cons.mp distinct
      by_cases same : first.name = name
      · subst same
        have kept : rest.filter (·.name != first.name) = rest := by
          refine List.filter_eq_self.mpr fun other present => ?_
          have different : other.name ≠ first.name := fun equal =>
            fresh (List.mem_map.mpr ⟨other, present, equal⟩)
          simpa using different
        simp [kept]
      · simp [same, ih distinctRest]

section Removal

variable (distinct : document.contextNames.Nodup) (taken : document.removeContext name = some left)

include distinct taken

theorem removeContext_contexts : left.contexts = document.otherContexts name := by
  obtain ⟨entry, _, rfl⟩ := Option.map_eq_some_iff.mp taken
  exact eraseP_eq_filter distinct name

/-- What is left of a document promotes the successor of the context that was removed. -/
theorem promoted?_removeContext : Switchboard.promoted? left = document.successor? name := by
  have names : left.contextNames = document.otherNames name := by
    unfold contextNames otherNames
    rw [removeContext_contexts distinct taken]
  have has : left.hasContext = (document.otherNames name).contains := by
    funext other
    rw [Bool.eq_iff_iff, hasContext_iff, names, List.contains_iff_mem]
  unfold Switchboard.promoted? successor?
  rw [names, has]
  by_cases proposed : document.current = some name
  -- The document proposed the removed context, and proposes the first one that is left now.
  · have current : left.current = (document.otherNames name).head? := by
      rw [← names]
      obtain ⟨entry, _, rfl⟩ := Option.map_eq_some_iff.mp taken
      simp [proposed, contextNames]
    have gone : name ∉ document.otherNames name := fun present => (mem_otherNames.mp present).2 rfl
    rw [current, proposed]
    cases others : document.otherNames name with
    | nil => rfl
    | cons first rest =>
        rw [others] at gone
        simp [Option.filter, gone]
  · have current : left.current = document.current := by
      obtain ⟨entry, _, rfl⟩ := Option.map_eq_some_iff.mp taken
      simp [proposed]
    rw [current]

end Removal

theorem mem_otherNames_of_successor? {next : String}
    (follows : document.successor? name = some next) :
    next ∈ document.otherNames name := by
  unfold successor? at follows
  rcases Option.or_eq_some_iff.mp follows with proposed | ⟨_, first⟩
  · simpa using (Option.filter_eq_some_iff.mp proposed).2
  · exact List.mem_of_head? first

theorem ne_of_successor? {next : String} (follows : document.successor? name = some next) :
    next ≠ name :=
  (mem_otherNames.mp (mem_otherNames_of_successor? follows)).2

end Kubeconfig
end KubeLens
