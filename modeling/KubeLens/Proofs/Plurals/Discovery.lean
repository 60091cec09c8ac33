import KubeLens.Plurals
import KubeLens.Proofs.Managed.Aggregation

/-!
# What discovery finds

Discovery finds a plural that some definition of the cluster declares for the kind, when there is
such a definition, and nothing otherwise.
-/

namespace KubeLens

open Managed

namespace Plurals

/-- Whether a definition declares a plural, which is not empty, for a kind of a group. -/
structure Declares (definition : Json) (group kind plural : String) : Prop where
  declared : ∃ spec names,
    definition.member? "spec" = some spec ∧ spec.member? "names" = some names ∧
    spec.member? "group" = some (.str group) ∧ names.member? "kind" = some (.str kind) ∧
    names.member? "plural" = some (.str plural)
  filled : plural ≠ ""

/-- The plural that is read from a definition is the one that it declares. -/
theorem declared?_eq_some_iff {group kind plural : String} {definition : Json} :
    declared? group kind definition = some plural ↔ Declares definition group kind plural := by
  unfold declared?
  simp only [Option.bind_eq_bind, Option.bind_eq_some_iff, memberStr?_eq_some]
  constructor
  · rintro ⟨spec, foundSpec, itsGroup, foundGroup, names, foundNames, itsKind, foundKind, itsPlural,
      foundPlural, made⟩
    split at made
    · rename_i fits
      cases made
      simp only [Bool.and_eq_true, decide_eq_true_eq, Bool.not_eq_true', String.isEmpty_eq_false_iff]
        at fits
      obtain ⟨⟨rfl, rfl⟩, filled⟩ := fits
      exact ⟨⟨spec, names, foundSpec, foundNames, foundGroup, foundKind, foundPlural⟩, filled⟩
    · cases made
  · rintro ⟨⟨spec, names, foundSpec, foundNames, foundGroup, foundKind, foundPlural⟩, filled⟩
    refine ⟨spec, foundSpec, group, foundGroup, names, foundNames, kind, foundKind, plural,
      foundPlural, ?_⟩
    simp [filled]

/-! ## Discovery -/

/-- The plural that the definitions of a cluster declare first. -/
def declaredOn? (client : Client) (fleet : Fleet) (gv : GroupVersion) (kind : String) :
    Option String :=
  (sources gv).findSome? fun source => search gv.group kind (client.documents fleet source)

/-- Whether a definition of the cluster declares a plural. -/
def DeclaredOn (client : Client) (fleet : Fleet) (gv : GroupVersion) (kind plural : String) :
    Prop :=
  ∃ source ∈ sources gv, ∃ definition ∈ client.documents fleet source,
    Declares definition gv.group kind plural

theorem declaredOn_of_declaredOn? {client : Client} {fleet : Fleet} {gv : GroupVersion}
    {kind plural : String} (found : declaredOn? client fleet gv kind = some plural) :
    DeclaredOn client fleet gv kind plural := by
  obtain ⟨source, listed, searched⟩ := List.exists_of_findSome?_eq_some found
  obtain ⟨definition, present, declared⟩ := List.exists_of_findSome?_eq_some searched
  exact ⟨source, listed, definition, present, declared?_eq_some_iff.mp declared⟩

theorem declaredOn?_eq_none_iff {client : Client} {fleet : Fleet} {gv : GroupVersion}
    {kind : String} :
    declaredOn? client fleet gv kind = none ↔
      ∀ plural, ¬DeclaredOn client fleet gv kind plural := by
  constructor
  · rintro nothing plural ⟨source, listed, definition, present, declares⟩
    have missing := List.findSome?_eq_none_iff.mp nothing source listed
    have silent := List.findSome?_eq_none_iff.mp missing definition present
    rw [declared?_eq_some_iff.mpr declares] at silent
    cases silent
  · intro undeclared
    cases found : declaredOn? client fleet gv kind with
    | none => rfl
    | some plural => exact absurd (declaredOn_of_declaredOn? found) (undeclared plural)

/-- A cluster that answers fewer or more calls later declares the same. -/
theorem declaredOn?_of_sameContents {before after : Fleet} (same : before.SameContents after)
    (client : Client) (gv : GroupVersion) (kind : String) :
    declaredOn? client after gv kind = declaredOn? client before gv kind := by
  unfold declaredOn?
  simp only [same.documents]

/-- Looking through sources one after the other finds what they declare at the start, since lists
change nothing. -/
theorem discover_fst (client : Client) (gv : GroupVersion) (kind : String)
    (sources : List ResourceType) (fleet : Fleet) :
    (discover client gv kind sources fleet).1 =
      sources.findSome? fun source => search gv.group kind (client.documents fleet source) := by
  induction sources generalizing fleet with
  | nil => rfl
  | cons source rest ih =>
      have answer := client.list_eq_listing fleet source
      have same : fleet.SameContents (client.list fleet source none {}).2 :=
        (client.list_asked fleet source none {}).cluster
      have later := ih (client.list fleet source none {}).2
      simp only [same.documents] at later
      rw [List.findSome?_cons]
      unfold discover Client.documents
      dsimp only
      rw [answer]
      cases client.listing fleet source with
      | error error => exact later
      | ok documents =>
          simp only [Except.map, Except.toOption, Option.getD_some]
          cases search gv.group kind documents with
          | some plural => rfl
          | none => exact later

theorem discover_sources (client : Client) (fleet : Fleet) (gv : GroupVersion) (kind : String) :
    (discover client gv kind (sources gv) fleet).1 = declaredOn? client fleet gv kind :=
  discover_fst client gv kind (sources gv) fleet

/-! ## Calls -/

/-- The sources that are looked through: all up to the first one that declares the kind. -/
def visited (client : Client) (fleet : Fleet) (gv : GroupVersion) (kind : String) :
    List ResourceType → List ResourceType
  | [] => []
  | source :: rest =>
    match search gv.group kind (client.documents fleet source) with
    | some _ => [source]
    | none => source :: visited client fleet gv kind rest

/-- The plurals of some types whose lists reach the cluster. -/
def asked (client : Client) (fleet : Fleet) (types : List ResourceType) : List String :=
  (types.filter fun type => (client.refusal? fleet .list type.plural).isNone).map (·.plural)

theorem list_lists (client : Client) (fleet : Fleet) (type : ResourceType) (space : Option String)
    (query : ListQuery) :
    (client.cluster (client.list fleet type space query).2).calls.lists =
      (client.cluster fleet).calls.lists ++ asked client fleet [type] := by
  unfold Client.list asked
  cases refusal : client.refusal? fleet .list type.plural with
  | some error => simp [refusal]
  | none => simp [refusal, Client.cluster, Cluster.list]

section SameContents

variable {before after : Fleet} (same : before.SameContents after)
include same

theorem visited_of_sameContents (client : Client) (gv : GroupVersion) (kind : String)
    (sources : List ResourceType) :
    visited client after gv kind sources = visited client before gv kind sources := by
  induction sources with
  | nil => rfl
  | cons source rest ih =>
      unfold visited
      rw [same.documents, ih]

theorem asked_of_sameContents (client : Client) (types : List ResourceType) :
    asked client after types = asked client before types := by
  obtain ⟨calls, cluster⟩ := same client.context
  unfold asked Client.refusal? Client.cluster
  rw [cluster]

end SameContents

/-- Discovery lists the sources in order, and stops after the one that declares the kind. -/
theorem discover_lists (client : Client) (gv : GroupVersion) (kind : String)
    (sources : List ResourceType) (fleet : Fleet) :
    (client.cluster (discover client gv kind sources fleet).2).calls.lists =
      (client.cluster fleet).calls.lists ++
        asked client fleet (visited client fleet gv kind sources) := by
  induction sources generalizing fleet with
  | nil => simp [discover, visited, asked]
  | cons source rest ih =>
      have answer := client.list_eq_listing fleet source
      have listed := list_lists client fleet source none {}
      have same : fleet.SameContents (client.list fleet source none {}).2 :=
        (client.list_asked fleet source none {}).cluster
      have later := ih (client.list fleet source none {}).2
      rw [visited_of_sameContents same, asked_of_sameContents same, listed,
        List.append_assoc] at later
      have split : ∀ types, asked client fleet (source :: types) =
          asked client fleet [source] ++ asked client fleet types := by
        intro types
        unfold asked
        rw [← List.map_append, ← List.filter_append, List.singleton_append]
      rw [← split] at later
      unfold discover visited Client.documents
      dsimp only
      rw [answer]
      cases client.listing fleet source with
      | error error => exact later
      | ok documents =>
          dsimp only [Except.map, Except.toOption, Option.getD_some]
          cases search gv.group kind documents with
          | some plural => exact listed
          | none => exact later

end Plurals
end KubeLens
