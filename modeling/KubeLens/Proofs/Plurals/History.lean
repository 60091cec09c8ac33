import KubeLens.Proofs.Api.GroupVersion
import KubeLens.Proofs.Plurals.Discovery
import Mathlib.Data.List.Induction

/-!
# Plurals over a history of look-ups

What is known about a kind after some look-ups is what the first of them that discovered anything
about it discovered.  Clients and clusters may be others each time.  This holds for kinds whose
names tell them apart: their groups and versions were read, and they hold no slash.
-/

namespace KubeLens
namespace Plurals

/-! ## Keys -/

/-- Whether the name of a kind can be told apart from those of other kinds. -/
structure IsNamed (gv : GroupVersion) (kind : String) : Prop where
  read : ∃ raw, GroupVersion.parseAllowCore raw = .ok gv
  whole : '/' ∉ kind.toList

/-- A key belongs to one kind. -/
theorem IsNamed.key_inj {gv other : GroupVersion} {kind name : String} (named : IsNamed gv kind)
    (alsoNamed : IsNamed other name) : key gv kind = key other name ↔ gv = other ∧ kind = name := by
  constructor
  · intro same
    have chars := congrArg String.toList same
    simp only [key, String.toList_append, List.append_assoc] at chars
    obtain ⟨versions, kinds⟩ :=
      (Text.append_separator_inj_last named.whole alsoNamed.whole).mp chars
    obtain ⟨raw, read⟩ := named.read
    obtain ⟨text, alsoRead⟩ := alsoNamed.read
    exact ⟨(GroupVersion.isPlain_of_parseAllowCore read).apiVersion_inj
      (GroupVersion.isPlain_of_parseAllowCore alsoRead) (String.toList_inj.mp versions),
      String.toList_inj.mp kinds⟩
  · rintro ⟨rfl, rfl⟩
    rfl

/-! ## One look-up -/

section Resolve

variable {plurals : Plurals} {gv : GroupVersion} {kind : String}

theorem resolve_of_found {plural : String} (found : plurals.found? gv kind = some plural)
    (client : Client) (fleet : Fleet) :
    plurals.resolve client fleet gv kind = (plural, plurals, fleet) := by
  unfold resolve
  rw [found]

theorem resolve_of_declared {client : Client} {fleet : Fleet} {plural : String}
    (unknown : plurals.found? gv kind = none)
    (declared : declaredOn? client fleet gv kind = some plural) :
    plurals.resolve client fleet gv kind =
      (plural, plurals.keep gv kind plural, (discover client gv kind (sources gv) fleet).2) := by
  have first := discover_sources client fleet gv kind
  rw [declared] at first
  unfold resolve
  rw [unknown]
  generalize discover client gv kind (sources gv) fleet = discovered at first ⊢
  obtain ⟨answer, after⟩ := discovered
  cases first
  rfl

theorem resolve_of_undeclared {client : Client} {fleet : Fleet}
    (unknown : plurals.found? gv kind = none)
    (undeclared : declaredOn? client fleet gv kind = none) :
    plurals.resolve client fleet gv kind =
      (naive kind, plurals, (discover client gv kind (sources gv) fleet).2) := by
  have first := discover_sources client fleet gv kind
  rw [undeclared] at first
  unfold resolve
  rw [unknown]
  generalize discover client gv kind (sources gv) fleet = discovered at first ⊢
  obtain ⟨answer, after⟩ := discovered
  cases first
  rfl

/-- A look-up adds what it discovers, under its own key and only if nothing was known. -/
theorem found?_resolve (plurals : Plurals) (client : Client) (fleet : Fleet) (gv other : GroupVersion)
    (kind name : String) :
    (plurals.resolve client fleet gv kind).2.1.found? other name =
      (plurals.found? other name).or
        (if key gv kind = key other name then declaredOn? client fleet gv kind else none) := by
  by_cases same : key gv kind = key other name
  · have alike : plurals.found? other name = plurals.found? gv kind := by
      unfold found?
      rw [same]
    rw [if_pos same, alike]
    cases known : plurals.found? gv kind with
    | some plural => rw [resolve_of_found known, alike, known, Option.some_or]
    | none =>
        cases declared : declaredOn? client fleet gv kind with
        | some plural =>
            rw [resolve_of_declared known declared, Option.none_or]
            unfold keep found?
            rw [← same, Assoc.get?_put_self]
        | none => rw [resolve_of_undeclared known declared, alike, known, Option.none_or]
  · rw [if_neg same, Option.or_none]
    cases known : plurals.found? gv kind with
    | some plural => rw [resolve_of_found known]
    | none =>
        cases declared : declaredOn? client fleet gv kind with
        | some plural =>
            rw [resolve_of_declared known declared]
            exact Assoc.get?_put_of_ne _ _ same
        | none => rw [resolve_of_undeclared known declared]

/-- What is kept was kept before, or is declared by a definition and was not known. -/
theorem mem_known_resolve {client : Client} {fleet : Fleet} {entry : String × String}
    (kept : entry ∈ (plurals.resolve client fleet gv kind).2.1.known) :
    entry ∈ plurals.known ∨
      entry.1 = key gv kind ∧ plurals.found? gv kind = none ∧
        DeclaredOn client fleet gv kind entry.2 := by
  cases known : plurals.found? gv kind with
  | some plural =>
      rw [resolve_of_found known] at kept
      exact .inl kept
  | none =>
      cases declared : declaredOn? client fleet gv kind with
      | some plural =>
          rw [resolve_of_declared known declared] at kept
          rcases Assoc.mem_put kept with rfl | before
          · exact .inr ⟨rfl, rfl, declaredOn_of_declaredOn? declared⟩
          · exact .inl before
      | none =>
          rw [resolve_of_undeclared known declared] at kept
          exact .inl kept

/-- The answer depends on what is known and on what the cluster declares. -/
theorem resolve_fst (plurals : Plurals) (client : Client) (fleet : Fleet) (gv : GroupVersion)
    (kind : String) :
    (plurals.resolve client fleet gv kind).1 =
      ((plurals.found? gv kind).or (declaredOn? client fleet gv kind)).getD (naive kind) := by
  cases known : plurals.found? gv kind with
  | some plural => rw [resolve_of_found known, Option.some_or, Option.getD_some]
  | none =>
      cases declared : declaredOn? client fleet gv kind with
      | some plural => rw [resolve_of_declared known declared, Option.none_or, Option.getD_some]
      | none => rw [resolve_of_undeclared known declared, Option.none_or, Option.getD_none]

/-- Calls that a cluster recorded do not change the answer. -/
theorem resolve_fst_of_sameContents (plurals : Plurals) {before after : Fleet}
    (same : before.SameContents after) (client : Client) (gv : GroupVersion) (kind : String) :
    (plurals.resolve client after gv kind).1 = (plurals.resolve client before gv kind).1 := by
  rw [resolve_fst, resolve_fst, declaredOn?_of_sameContents same]

/-- Nothing is looked through for a kind of the core group. -/
theorem resolve_fleet_of_isCore (plurals : Plurals) (client : Client) (fleet : Fleet) (kind : String)
    (core : gv.isCore = true) : (plurals.resolve client fleet gv kind).2.2 = fleet := by
  have nowhere : sources gv = [] := by
    unfold sources
    rw [if_pos core]
  unfold resolve
  rw [nowhere]
  split <;> rfl

end Resolve

/-! ## Histories -/

/-- A look-up of a plural: who is asked, what the clusters hold by then, and about which kind. -/
structure Lookup where
  client : Client
  fleet : Fleet
  gv : GroupVersion
  kind : String

namespace Lookup

/-- What discovery finds in a look-up, if it has to look. -/
def declared? (lookup : Lookup) : Option String :=
  declaredOn? lookup.client lookup.fleet lookup.gv lookup.kind

/-- What a look-up can contribute to what is known about a kind. -/
def declaredFor? (gv : GroupVersion) (kind : String) (lookup : Lookup) : Option String :=
  if lookup.gv = gv ∧ lookup.kind = kind then lookup.declared? else none

end Lookup

/-- What is known after a look-up. -/
def look (plurals : Plurals) (lookup : Lookup) : Plurals :=
  (plurals.resolve lookup.client lookup.fleet lookup.gv lookup.kind).2.1

/-- What is known after some look-ups, when nothing was known before. -/
def after (lookups : List Lookup) : Plurals :=
  lookups.foldl look {}

theorem after_append_singleton (lookups : List Lookup) (lookup : Lookup) :
    after (lookups ++ [lookup]) = (after lookups).look lookup := by
  unfold after
  rw [List.foldl_append, List.foldl_cons, List.foldl_nil]

/-- What is known is what the first look-up found that found anything. -/
theorem found?_after {lookups : List Lookup} {gv : GroupVersion} {kind : String}
    (named : IsNamed gv kind) (allNamed : ∀ lookup ∈ lookups, IsNamed lookup.gv lookup.kind) :
    (after lookups).found? gv kind = lookups.findSome? (Lookup.declaredFor? gv kind) := by
  induction lookups using List.reverseRecOn with
  | nil => rfl
  | append_singleton lookups last ih =>
      have lastNamed := allNamed last (List.mem_append_right _ List.mem_cons_self)
      rw [after_append_singleton, look, found?_resolve,
        ih fun lookup present => allNamed lookup (List.mem_append_left _ present),
        List.findSome?_append, List.findSome?_singleton]
      congr 1
      unfold Lookup.declaredFor?
      simp only [lastNamed.key_inj named]
      rfl

/-- Every plural that is kept was declared when it was kept, and was not known before. -/
theorem mem_known_after {lookups : List Lookup} {entry : String × String}
    (kept : entry ∈ (after lookups).known) :
    ∃ earlier finder later, lookups = earlier ++ finder :: later ∧
      entry.1 = key finder.gv finder.kind ∧
      (after earlier).found? finder.gv finder.kind = none ∧
      DeclaredOn finder.client finder.fleet finder.gv finder.kind entry.2 := by
  induction lookups using List.reverseRecOn with
  | nil => cases kept
  | append_singleton lookups last ih =>
      rw [after_append_singleton, look] at kept
      rcases mem_known_resolve kept with before | now
      · obtain ⟨earlier, finder, later, rfl, found⟩ := ih before
        exact ⟨earlier, finder, later ++ [last], by simp, found⟩
      · exact ⟨lookups, last, [], rfl, now⟩

/-- A plural that a look-up discovered stays the answer, and no cluster is asked for it again. -/
theorem resolve_of_discovered {earlier later : List Lookup} {finder : Lookup} {plural : String}
    (named : ∀ lookup ∈ earlier ++ finder :: later, IsNamed lookup.gv lookup.kind)
    (unknown : (after earlier).found? finder.gv finder.kind = none)
    (declared : finder.declared? = some plural) (client : Client) (fleet : Fleet) :
    (after (earlier ++ finder :: later)).resolve client fleet finder.gv finder.kind =
      (plural, after (earlier ++ finder :: later), fleet) := by
  have finderNamed := named finder (List.mem_append_right _ List.mem_cons_self)
  rw [found?_after finderNamed fun lookup present => named lookup (List.mem_append_left _ present)]
    at unknown
  have contributes : Lookup.declaredFor? finder.gv finder.kind finder = some plural := by
    unfold Lookup.declaredFor?
    rw [if_pos ⟨rfl, rfl⟩, declared]
  refine resolve_of_found ?_ client fleet
  rw [found?_after finderNamed named, List.findSome?_append, unknown, Option.none_or,
    List.findSome?_cons, contributes]

/-- What a look-up adds is not about another kind. -/
theorem resolve_of_other (plurals : Plurals) {other : Lookup} {gv : GroupVersion} {kind : String}
    (named : IsNamed gv kind) (otherNamed : IsNamed other.gv other.kind)
    (different : ¬(other.gv = gv ∧ other.kind = kind)) (client : Client) (fleet : Fleet) :
    ((plurals.look other).resolve client fleet gv kind).1 =
      (plurals.resolve client fleet gv kind).1 := by
  rw [resolve_fst, resolve_fst, look, found?_resolve,
    if_neg (mt (otherNamed.key_inj named).mp different), Option.or_none]

/-- After any look-ups at any clusters, a plural that was discovered for a kind is the answer for
good, whoever is asked, and no cluster is.  As long as nothing was discovered, each look-up lists
the definitions anew: it answers what they declare, and keeps that; or, if they declare nothing, it
answers the lower-case name with an `s`, and keeps nothing.  Everything that is kept was declared
by a definition when it was kept.  A look-up does not change the answer for another kind, neither
by what it keeps nor by what it does to the cluster, and one for a kind of the core group asks
nobody. -/
theorem resolve_sticky (lookups : List Lookup) (gv : GroupVersion) (kind : String)
    (named : IsNamed gv kind) (allNamed : ∀ lookup ∈ lookups, IsNamed lookup.gv lookup.kind) :
    let plurals := after lookups
    (∀ earlier finder later plural, lookups = earlier ++ finder :: later →
      finder.gv = gv → finder.kind = kind → (after earlier).found? gv kind = none →
      finder.declared? = some plural →
      ∀ client fleet, plurals.resolve client fleet gv kind = (plural, plurals, fleet)) ∧
    ((∀ lookup ∈ lookups, lookup.gv = gv → lookup.kind = kind → lookup.declared? = none) →
      ∀ client fleet,
        let (answer, kept, asking) := plurals.resolve client fleet gv kind
        (client.cluster asking).calls.lists = (client.cluster fleet).calls.lists ++
          asked client fleet (visited client fleet gv kind (sources gv)) ∧
        ((∃ plural, DeclaredOn client fleet gv kind plural) →
          DeclaredOn client fleet gv kind answer ∧ kept = plurals.keep gv kind answer) ∧
        ((¬∃ plural, DeclaredOn client fleet gv kind plural) →
          answer = Text.lowercase kind ++ "s" ∧ kept = plurals)) ∧
    (∀ entry ∈ plurals.known, ∃ earlier finder later, lookups = earlier ++ finder :: later ∧
      entry.1 = key finder.gv finder.kind ∧
      (after earlier).found? finder.gv finder.kind = none ∧
      DeclaredOn finder.client finder.fleet finder.gv finder.kind entry.2) ∧
    (∀ other : Lookup, IsNamed other.gv other.kind → ¬(other.gv = gv ∧ other.kind = kind) →
      let (_, kept, asking) := plurals.resolve other.client other.fleet other.gv other.kind
      ∀ client,
        (∀ fleet, (kept.resolve client fleet gv kind).1 =
          (plurals.resolve client fleet gv kind).1) ∧
        (kept.resolve client asking gv kind).1 =
          (plurals.resolve client other.fleet gv kind).1) ∧
    (gv.isCore = true →
      ∀ client fleet, (plurals.resolve client fleet gv kind).2.2 = fleet) := by
  intro plurals
  refine ⟨?_, ?_, fun entry kept => mem_known_after kept, ?_, ?_⟩
  · rintro earlier finder later plural rfl rfl rfl unknown declared
    exact resolve_of_discovered allNamed unknown declared
  · intro undiscovered client fleet
    have unknown : plurals.found? gv kind = none := by
      rw [found?_after named allNamed, List.findSome?_eq_none_iff]
      intro lookup present
      unfold Lookup.declaredFor?
      split
      · rename_i same
        exact undiscovered lookup present same.1 same.2
      · rfl
    have lists := discover_lists client gv kind (sources gv) fleet
    cases declared : declaredOn? client fleet gv kind with
    | some plural =>
        have declares := declaredOn_of_declaredOn? declared
        rw [resolve_of_declared unknown declared]
        exact ⟨lists, fun _ => ⟨declares, rfl⟩, fun none => absurd ⟨plural, declares⟩ none⟩
    | none =>
        rw [resolve_of_undeclared unknown declared]
        refine ⟨lists, fun ⟨plural, declares⟩ => ?_, fun _ => ⟨rfl, rfl⟩⟩
        exact absurd declares (declaredOn?_eq_none_iff.mp declared plural)
  · intro other otherNamed different client
    have same := (plurals.resolve_asked other.client other.fleet other.gv other.kind).cluster
    have unchanged := plurals.resolve_of_other named otherNamed different client
    exact ⟨unchanged, (unchanged _).trans (plurals.resolve_fst_of_sameContents same client gv kind)⟩
  · intro core client fleet
    exact plurals.resolve_fleet_of_isCore client fleet kind core

/-- A look-up on `dev`, where no widgets are defined. -/
def widgetsUnknown : Lookup :=
  { client := { context := "dev" }, fleet := {}, gv := ⟨"example.org", "v1"⟩, kind := "Widget" }

/-- A cluster whose definitions declare widgets. -/
def widgetCluster : Cluster :=
  ({} : Cluster).insert .customResourceDefinitions
    (.obj [("spec", .obj [("group", .str "example.org"),
      ("names", .obj [("kind", .str "Widget"), ("plural", .str "widgetry")])])])

/-- A look-up on `prod`, where widgets are defined. -/
def widgetsDefined : Lookup :=
  { widgetsUnknown with
    client := { context := "prod" }, fleet := { clusters := [("prod", widgetCluster)] } }

/-- Widgets are first looked up where they are not defined, and then where they are; from then on
they are known everywhere. -/
theorem resolve_sticky_widgets :
    let gv : GroupVersion := ⟨"example.org", "v1"⟩
    let lookups := [widgetsUnknown, widgetsDefined]
    IsNamed gv "Widget" ∧ (∀ lookup ∈ lookups, IsNamed lookup.gv lookup.kind) ∧
      (({} : Plurals).resolve widgetsUnknown.client widgetsUnknown.fleet gv "Widget").1 =
        "widgets" ∧
      (after [widgetsUnknown]).known = [] ∧
      ∀ client fleet,
        (after lookups).resolve client fleet gv "Widget" = ("widgetry", after lookups, fleet) := by
  intro gv lookups
  have named : IsNamed gv "Widget" := ⟨⟨"example.org/v1", by decide⟩, by decide⟩
  have allNamed : ∀ lookup ∈ lookups, IsNamed lookup.gv lookup.kind := by
    intro lookup present
    rcases List.mem_cons.mp present with rfl | later
    · exact named
    · rw [List.mem_singleton.mp later]
      exact named
  obtain ⟨sticky, _⟩ := resolve_sticky lookups gv "Widget" named allNamed
  refine ⟨named, allNamed, by decide +kernel, by decide +kernel, ?_⟩
  exact sticky [widgetsUnknown] widgetsDefined [] "widgetry" rfl rfl rfl (by decide +kernel)
    (by decide +kernel)

end Plurals
end KubeLens
