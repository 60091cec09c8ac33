import KubeLens.Proofs.Plurals.History

/-!
# Which declaration counts

A kind may be declared more than once.  The declaration that counts is the first one in the order
in which the definitions are listed, and nothing is listed after it.  To see what is listed, and
when, look-ups are made here by any means of listing, one of which notes what it is asked for.
-/

namespace KubeLens
namespace Plurals

/-! ## Look-ups by any means -/

/-- A means of listing all objects of a type: its answer, and its state afterwards. -/
abbrev Lister (State : Type) :=
  State → ResourceType → Except ClusterError ObjectPage × State

/-- A client lists the objects of all namespaces. -/
def listerOf (client : Client) : Lister Fleet :=
  fun fleet type => client.list fleet type none {}

variable {State : Type}

/-- Also notes every type that it is asked for, the last one at the end. -/
def Lister.noting (list : Lister State) : Lister (State × List ResourceType) :=
  fun (state, noted) type => ((list state type).1, (list state type).2, noted ++ [type])

/-- Lists definitions until one declares the kind. -/
def discoverBy (list : Lister State) (gv : GroupVersion) (kind : String) :
    List ResourceType → State → Option String × State
  | [], state => (none, state)
  | source :: rest, state =>
    match list state source with
    | (.error _, state) => discoverBy list gv kind rest state
    | (.ok page, state) =>
      match search gv.group kind page.items with
      | some plural => (some plural, state)
      | none => discoverBy list gv kind rest state

/-- The plural of a kind. -/
def resolveBy (list : Lister State) (plurals : Plurals) (gv : GroupVersion) (kind : String)
    (state : State) : String × Plurals × State :=
  match plurals.found? gv kind with
  | some plural => (plural, plurals, state)
  | none =>
    match discoverBy list gv kind (sources gv) state with
    | (some plural, state) => (plural, plurals.keep gv kind plural, state)
    | (none, state) => (naive kind, plurals, state)

/-- Clients are one means of listing. -/
theorem discover_eq_discoverBy (client : Client) (gv : GroupVersion) (kind : String)
    (sources : List ResourceType) (fleet : Fleet) :
    discover client gv kind sources fleet =
      discoverBy (listerOf client) gv kind sources fleet := by
  induction sources generalizing fleet with
  | nil => rfl
  | cons source rest ih =>
      unfold discover discoverBy listerOf
      obtain ⟨answer, after⟩ := client.list fleet source none {}
      cases answer with
      | error error => exact ih after
      | ok page =>
          dsimp only
          cases search gv.group kind page.items with
          | some plural => rfl
          | none => exact ih after

theorem resolve_eq_resolveBy (plurals : Plurals) (client : Client) (fleet : Fleet)
    (gv : GroupVersion) (kind : String) :
    plurals.resolve client fleet gv kind =
      plurals.resolveBy (listerOf client) gv kind fleet := by
  unfold resolve resolveBy
  rw [discover_eq_discoverBy]
  obtain ⟨found?, after⟩ := discoverBy (listerOf client) gv kind (sources gv) fleet
  cases plurals.found? gv kind <;> cases found? <;> rfl

/-- What is noted are the sources that are looked through, and noting does not change what is
found. -/
theorem discoverBy_noting (client : Client) (gv : GroupVersion) (kind : String)
    (sources : List ResourceType) (fleet : Fleet) (noted : List ResourceType) :
    discoverBy (listerOf client).noting gv kind sources (fleet, noted) =
      ((discover client gv kind sources fleet).1, (discover client gv kind sources fleet).2,
        noted ++ visited client fleet gv kind sources) := by
  induction sources generalizing fleet noted with
  | nil => simp [discoverBy, discover, visited]
  | cons source rest ih =>
      have answer := client.list_eq_listing fleet source
      have same : fleet.SameContents (client.list fleet source none {}).2 :=
        (client.list_asked fleet source none {}).cluster
      have later := ih (client.list fleet source none {}).2 (noted ++ [source])
      rw [visited_of_sameContents same, List.append_assoc, List.singleton_append] at later
      unfold discoverBy discover visited Client.documents Lister.noting listerOf
      dsimp only
      rw [answer]
      cases client.listing fleet source with
      | error error => exact later
      | ok documents =>
          dsimp only [Except.map, Except.toOption, Option.getD_some]
          cases search gv.group kind documents with
          | some plural => rfl
          | none => exact later

/-! ## The first declaration -/

/-- Whether no definition in a list declares a plural for a kind. -/
def Silent (definitions : List Json) (group kind : String) : Prop :=
  ∀ definition ∈ definitions, ∀ plural, ¬Declares definition group kind plural

theorem search_eq_none_iff {group kind : String} {definitions : List Json} :
    search group kind definitions = none ↔ Silent definitions group kind := by
  unfold search Silent
  rw [List.findSome?_eq_none_iff]
  refine forall₂_congr fun definition _ => ?_
  rw [Option.eq_none_iff_forall_ne_some]
  exact forall_congr' fun plural => not_congr declared?_eq_some_iff

/-- What is found in a list is what the first definition declares that declares anything. -/
theorem search_of_first {group kind plural : String} {earlier later : List Json}
    {definition : Json} (silent : Silent earlier group kind)
    (declares : Declares definition group kind plural) :
    search group kind (earlier ++ definition :: later) = some plural := by
  have nothing : search group kind earlier = none := search_eq_none_iff.mpr silent
  unfold search at nothing ⊢
  rw [List.findSome?_append, nothing, Option.none_or, List.findSome?_cons,
    declared?_eq_some_iff.mpr declares]

section Sources

variable {client : Client} {fleet : Fleet} {gv : GroupVersion} {kind : String}
  {earlier later : List ResourceType}
  (silent : ∀ source ∈ earlier, Silent (client.documents fleet source) gv.group kind)

include silent

/-- Sources in which nothing declares the kind are looked through, and then the others are. -/
theorem visited_append :
    visited client fleet gv kind (earlier ++ later) =
      earlier ++ visited client fleet gv kind later := by
  induction earlier with
  | nil => rfl
  | cons source rest ih =>
      have nothing := search_eq_none_iff.mpr (silent source List.mem_cons_self)
      rw [List.cons_append, visited, nothing]
      exact congrArg (source :: ·)
        (ih fun other present => silent other (List.mem_cons_of_mem _ present))

theorem findSome?_search_append :
    ((earlier ++ later).findSome? fun source =>
        search gv.group kind (client.documents fleet source)) =
      later.findSome? fun source =>
        search gv.group kind (client.documents fleet source) := by
  rw [List.findSome?_append, List.findSome?_eq_none_iff.mpr fun source present =>
    search_eq_none_iff.mpr (silent source present), Option.none_or]

end Sources

/-! ## Look-ups of a kind that is not known -/

/-- A look-up of a kind that is not known discovers it, in as many lists as it takes. -/
theorem resolveBy_noting {plurals : Plurals} {gv : GroupVersion} {kind : String}
    (unknown : plurals.found? gv kind = none) (client : Client) (fleet : Fleet) :
    plurals.resolveBy (listerOf client).noting gv kind (fleet, []) =
      ((plurals.resolve client fleet gv kind).1, (plurals.resolve client fleet gv kind).2.1,
        (plurals.resolve client fleet gv kind).2.2,
        visited client fleet gv kind (sources gv)) := by
  unfold resolveBy resolve
  rw [unknown, discoverBy_noting, List.nil_append]
  obtain ⟨found?, after⟩ := discover client gv kind (sources gv) fleet
  cases found? <;> rfl

theorem resolve_fleet_of_unknown {plurals : Plurals} {gv : GroupVersion} {kind : String}
    (unknown : plurals.found? gv kind = none) (client : Client) (fleet : Fleet) :
    (plurals.resolve client fleet gv kind).2.2 =
      (discover client gv kind (sources gv) fleet).2 := by
  unfold resolve
  rw [unknown]
  obtain ⟨found?, after⟩ := discover client gv kind (sources gv) fleet
  cases found? <;> rfl

/-- The types of definitions that may declare the kinds of a group, in the order in which they are
listed. -/
def declaring (group : String) : List ResourceType :=
  .customResourceDefinitions ::
    if Crossplane.isOwnGroup group then
      [Crossplane.compositeDefinitions "v2", Crossplane.compositeDefinitions "v1"]
    else []

theorem sources_of_not_isCore {gv : GroupVersion} (declarable : gv.isCore = false) :
    sources gv = declaring gv.group := by
  unfold sources declaring
  rw [declarable]
  rfl

/-- A kind that is not known, and not of the core group, has the plural that its first declaration
gives it: first in the order of the lists, and within a list in its order.  A definition that does
not name the group and the kind, or gives no plural, is passed over, and a list that fails counts
as empty.  The plural is kept, and no list is asked for after the one with the declaration.  When
there is no declaration, all lists are asked for, the answer is the lower-case name with an `s`, and
nothing is kept. -/
theorem resolve_first (plurals : Plurals) (client : Client) (fleet : Fleet) (gv : GroupVersion)
    (kind : String) (declarable : gv.isCore = false) (unknown : plurals.found? gv kind = none) :
    let (answer, kept, after, listed) :=
      plurals.resolveBy (listerOf client).noting gv kind (fleet, [])
    plurals.resolve client fleet gv kind = plurals.resolveBy (listerOf client) gv kind fleet ∧
    plurals.resolve client fleet gv kind = (answer, kept, after) ∧
    (∀ earlier source later first definition rest plural,
      declaring gv.group = earlier ++ source :: later →
      (∀ other ∈ earlier, Silent (client.documents fleet other) gv.group kind) →
      client.documents fleet source = first ++ definition :: rest →
      Silent first gv.group kind → Declares definition gv.group kind plural →
      answer = plural ∧ kept = plurals.keep gv kind plural ∧ listed = earlier ++ [source]) ∧
    ((∀ source ∈ declaring gv.group, Silent (client.documents fleet source) gv.group kind) →
      answer = Text.lowercase kind ++ "s" ∧ kept = plurals ∧ listed = declaring gv.group) ∧
    (client.cluster after).calls.lists =
      (client.cluster fleet).calls.lists ++ asked client fleet listed := by
  rw [resolveBy_noting unknown client fleet]
  have places := sources_of_not_isCore declarable
  refine ⟨plurals.resolve_eq_resolveBy client fleet gv kind, rfl, ?_, ?_, ?_⟩
  · intro earlier source later first definition rest plural order silent documents before declares
    have hit : search gv.group kind (client.documents fleet source) = some plural := by
      rw [documents]
      exact search_of_first before declares
    have declared : declaredOn? client fleet gv kind = some plural := by
      unfold declaredOn?
      rw [places, order, findSome?_search_append silent, List.findSome?_cons, hit]
    rw [resolve_of_declared unknown declared, places, order, visited_append silent]
    unfold visited
    rw [hit]
    exact ⟨rfl, rfl, rfl⟩
  · intro silent
    have undeclared : declaredOn? client fleet gv kind = none := by
      unfold declaredOn?
      rw [places, List.findSome?_eq_none_iff]
      exact fun source present => search_eq_none_iff.mpr (silent source present)
    have all : visited client fleet gv kind (declaring gv.group ++ []) =
        declaring gv.group ++ [] :=
      visited_append silent
    rw [List.append_nil] at all
    rw [resolve_of_undeclared unknown undeclared, places, all]
    exact ⟨rfl, rfl, rfl⟩
  · rw [resolve_fleet_of_unknown unknown]
    exact discover_lists client gv kind (sources gv) fleet

/-- A definition of buckets. -/
def bucketDefinition (name plural : String) : Json :=
  .obj [("metadata", .obj [("name", .str name)]),
    ("spec", .obj [("group", .str "s3.crossplane.io"),
      ("names", .obj [("kind", .str "Bucket"), ("plural", .str plural)])])]

/-- A cluster that does not list custom resource definitions.  It has three composite definitions
of buckets; the first one gives no plural. -/
def bucketCluster : Cluster :=
  { ((({} : Cluster).insert (Crossplane.compositeDefinitions "v2") (bucketDefinition "a" "")).insert
      (Crossplane.compositeDefinitions "v1") (bucketDefinition "b" "bucketry")).insert
      (Crossplane.compositeDefinitions "v1") (bucketDefinition "c" "pails") with
    listFailures := [("customresourcedefinitions", "down")] }

theorem resolve_first_buckets :
    let client : Client := { context := "dev" }
    let fleet : Fleet := { clusters := [("dev", bucketCluster)] }
    let gv : GroupVersion := ⟨"s3.crossplane.io", "v1"⟩
    gv.isCore = false ∧ ({} : Plurals).found? gv "Bucket" = none ∧
      (({} : Plurals).resolve client fleet gv "Bucket").1 = "bucketry" ∧
      (({} : Plurals).resolveBy (listerOf client).noting gv "Bucket" (fleet, [])).2.2.2 =
        [.customResourceDefinitions, Crossplane.compositeDefinitions "v2",
          Crossplane.compositeDefinitions "v1"] := by
  intro client fleet gv
  obtain ⟨_, same, first, _⟩ :=
    resolve_first {} client fleet gv "Bucket" (by decide) (by decide)
  have silent : ∀ other ∈ [.customResourceDefinitions, Crossplane.compositeDefinitions "v2"],
      Silent (client.documents fleet other) "s3.crossplane.io" "Bucket" := fun other listed =>
    search_eq_none_iff.mp (by revert other; decide +kernel)
  obtain ⟨answer, _, listed⟩ := first _ (Crossplane.compositeDefinitions "v1") [] []
    (bucketDefinition "b" "bucketry") [bucketDefinition "c" "pails"] "bucketry" (by decide +kernel)
    silent rfl (List.forall_mem_nil _) (declared?_eq_some_iff.mp (by decide +kernel))
  exact ⟨by decide, by decide, (congrArg Prod.fst same).trans answer, listed⟩

end Plurals
end KubeLens
