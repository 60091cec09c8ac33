import Mathlib.Logic.Relation
import KubeLens.Managed.Cache
import KubeLens.Read.Events
import KubeLens.Read.Get

/-!
# How requests change a site

A request changes a site by moves of two kinds.  Clusters are asked, which they only record,
and plurals become known; or a context that is neither active nor barred is dialled.  Every
operation of a site is shown here to be a chain of such moves, so that what the moves preserve
need not be looked for in the operations again.
-/

namespace KubeLens

/-! ## Calls -/

namespace Fleet

/-- A fleet before and after some calls.  Clusters differ at most in the calls that they
recorded, and nobody was connected to. -/
structure Asked (before after : Fleet) : Prop where
  cluster : ∀ context, ∃ calls, after.cluster context = { before.cluster context with calls }
  keys_nodup : (Assoc.keys before.clusters).Nodup → (Assoc.keys after.clusters).Nodup
  unreachable : after.unreachable = before.unreachable
  connects : after.connects = before.connects

namespace Asked

theorem refl (fleet : Fleet) : fleet.Asked fleet :=
  ⟨fun _ => ⟨_, rfl⟩, id, rfl, rfl⟩

theorem trans {first second third : Fleet}
    (earlier : first.Asked second) (later : second.Asked third) :
    first.Asked third := by
  refine ⟨fun context => ?_, later.keys_nodup ∘ earlier.keys_nodup,
    later.unreachable.trans earlier.unreachable, later.connects.trans earlier.connects⟩
  obtain ⟨_, middle⟩ := earlier.cluster context
  obtain ⟨calls, last⟩ := later.cluster context
  exact ⟨calls, by rw [last, middle]⟩

/-- Recording a call in one cluster. -/
theorem record (fleet : Fleet) (context : String) (calls : CallLog) :
    fleet.Asked (fleet.put context { fleet.cluster context with calls }) := by
  refine ⟨fun other => ?_, Assoc.keys_put_nodup _ _ _, rfl, rfl⟩
  by_cases same : context = other
  · subst same
    exact ⟨calls, by rw [cluster_put_self]⟩
  · exact ⟨(fleet.cluster other).calls, by rw [cluster_put_of_ne _ _ same]⟩

end Asked

/-- Two fleets whose clusters differ at most in the calls that they recorded. -/
def SameContents (before after : Fleet) : Prop :=
  ∀ context, ∃ calls, after.cluster context = { before.cluster context with calls }

namespace SameContents

theorem refl (fleet : Fleet) : fleet.SameContents fleet :=
  fun _ => ⟨_, rfl⟩

theorem trans {first second third : Fleet} (earlier : first.SameContents second)
    (later : second.SameContents third) : first.SameContents third := by
  intro context
  obtain ⟨_, middle⟩ := earlier context
  obtain ⟨calls, last⟩ := later context
  exact ⟨calls, by rw [last, middle]⟩

end SameContents

/-- A fleet before and after requests, which change no cluster but for the calls that it
recorded. -/
structure Steady (before after : Fleet) : Prop where
  contents : before.SameContents after
  keys_nodup : (Assoc.keys before.clusters).Nodup → (Assoc.keys after.clusters).Nodup

namespace Steady

theorem refl (fleet : Fleet) : fleet.Steady fleet :=
  ⟨.refl fleet, id⟩

theorem trans {first second third : Fleet} (earlier : first.Steady second)
    (later : second.Steady third) : first.Steady third :=
  ⟨earlier.contents.trans later.contents, later.keys_nodup ∘ earlier.keys_nodup⟩

end Steady

theorem Asked.steady {before after : Fleet} (asked : before.Asked after) : before.Steady after :=
  ⟨asked.cluster, asked.keys_nodup⟩

end Fleet

namespace Client

theorem list_asked (client : Client) (fleet : Fleet) (type : ResourceType)
    (space : Option String) (query : ListQuery) :
    fleet.Asked (client.list fleet type space query).2 := by
  unfold Client.list
  split
  · exact .refl fleet
  · exact .record fleet client.context _

theorem get_asked (client : Client) (fleet : Fleet) (type : ResourceType)
    (space : Option String) (name : String) :
    fleet.Asked (client.get fleet type space name).2 := by
  unfold Client.get
  split
  · exact .refl fleet
  · exact .record fleet client.context _

theorem getBuiltin_asked (client : Client) (fleet : Fleet) (kind : BuiltinKind)
    (space : Option String) (name : String) :
    fleet.Asked (client.getBuiltin fleet kind space name).2 := by
  unfold Client.getBuiltin
  split
  · exact .refl fleet
  · exact .record fleet client.context _

theorem probe_asked (client : Client) (fleet : Fleet) :
    fleet.Asked (client.probe fleet).2 := by
  unfold Client.probe
  split
  · exact .refl fleet
  · exact .record fleet client.context _

end Client

namespace Plurals

theorem discover_asked (client : Client) (gv : GroupVersion) (kind : String)
    (sources : List ResourceType) (fleet : Fleet) :
    fleet.Asked (discover client gv kind sources fleet).2 := by
  induction sources generalizing fleet with
  | nil => exact .refl fleet
  | cons source rest ih =>
      have listed := client.list_asked fleet source none {}
      unfold discover
      dsimp only
      split
      · exact listed.trans (ih _)
      · split
        · exact listed
        · exact listed.trans (ih _)

theorem resolve_asked (plurals : Plurals) (client : Client) (fleet : Fleet)
    (gv : GroupVersion) (kind : String) :
    fleet.Asked (plurals.resolve client fleet gv kind).2.2 := by
  have discovered := discover_asked client gv kind (sources gv) fleet
  unfold Plurals.resolve
  split
  · exact .refl fleet
  · split <;> simp_all

end Plurals

/-! ## Moves -/

namespace Site

/-- Dials a context whatever is known about it. -/
def dial (site : Site) (target : String) : Site :=
  let (_, board, fleet) := site.board.dial site.fleet target
  { site with board, fleet }

/-- Dialling leaves all clusters as they are. -/
theorem dial_fleet (site : Site) (target : String) :
    (site.dial target).fleet =
      { site.fleet with connects := site.fleet.connects ++ [target] } := by
  unfold Site.dial Switchboard.dial Fleet.connect
  by_cases unreachable : target ∈ site.fleet.unreachable <;> simp [unreachable]

/-- Makes a context active, while nothing else changes the switchboard. -/
def activate (site : Site) (name : String) : Except ServiceError Handle × Site :=
  let (answer, board, fleet) := site.board.activate site.settings site.host site.fleet name
  (answer, { site with board, fleet })

/-- What a request does to a site at once. -/
inductive Move : Site → Site → Prop
  /-- Clusters are asked, and plurals become known. -/
  | ask (site : Site) {fleet : Fleet} (plurals : Plurals) (asked : site.fleet.Asked fleet) :
      Move site { site with fleet, plurals }
  /-- A context that is neither active nor barred is dialled. -/
  | dial (site : Site) (name : String)
      (inactive : site.board.active? (Switchboard.target site.host name) = none)
      (unbarred : site.board.isBarred (Switchboard.target site.host name) = false)
      (described : Switchboard.describes site.settings site.host name = .ok ()) :
      Move site (site.dial (Switchboard.target site.host name))

/-- What requests do to a site. -/
abbrev Evolves : Site → Site → Prop :=
  Relation.ReflTransGen Move

namespace Evolves

theorem refl (site : Site) : site.Evolves site :=
  Relation.ReflTransGen.refl

theorem ask (site : Site) {fleet : Fleet} (plurals : Plurals)
    (asked : site.fleet.Asked fleet) :
    site.Evolves { site with fleet, plurals } :=
  .single (.ask site plurals asked)

/-- Requests change no cluster but for the calls that it recorded. -/
theorem steady {before after : Site} (evolves : before.Evolves after) :
    before.fleet.Steady after.fleet := by
  induction evolves with
  | refl => exact .refl before.fleet
  | @tail middle _ _ move ih =>
      cases move with
      | ask plurals asked => exact ih.trans asked.steady
      | dial name =>
          rw [middle.dial_fleet]
          exact ih.trans ⟨fun _ => ⟨_, rfl⟩, id⟩

theorem sameContents {before after : Site} (evolves : before.Evolves after) :
    before.fleet.SameContents after.fleet :=
  evolves.steady.contents

end Evolves

/-! ## Connections -/

theorem activate_evolves (site : Site) (name : String) :
    site.Evolves (site.activate name).2 := by
  unfold Site.activate Switchboard.activate
  dsimp only
  split
  · exact .refl site
  · rename_i inactive
    split
    · exact .refl site
    · rename_i free
      split
      · exact .refl site
      · rename_i described
        exact .single (.dial site name inactive (by simpa using free) described)

/-- Making a context active is nothing, or an activation under the lock. -/
theorem ensureActive_evolves (site : Site) (name : String) :
    site.Evolves
      { site with
        board := (site.board.ensureActive site.settings site.host site.fleet name).2.1
        fleet := (site.board.ensureActive site.settings site.host site.fleet name).2.2 } := by
  unfold Switchboard.ensureActive
  split
  · exact .refl site
  · exact site.activate_evolves name

theorem setActive_evolves (site : Site) (name : String) :
    site.Evolves (site.setActive name).2 :=
  site.ensureActive_evolves name

theorem resolve_evolves (site : Site) (context? : Option String) :
    site.Evolves (site.resolve context?).2 := by
  unfold Site.resolve Switchboard.resolve
  dsimp only
  split
  · exact site.ensureActive_evolves _
  · split
    · exact .refl site
    · exact site.ensureActive_evolves ""

/-! ## Calls over a connection -/

theorem pluralOf_evolves (site : Site) (client : Client) (gv : GroupVersion) (kind : String)
    (given : Option String) : site.Evolves (site.pluralOf client gv kind given).2 := by
  unfold Site.pluralOf
  split
  · exact .refl site
  · exact .ask site _ (site.plurals.resolve_asked client site.fleet gv kind)

theorem listWith_evolves (site : Site) (client : Client) (type : ResourceType)
    (space : Option String) (query : ListQuery) :
    site.Evolves (site.listWith client type space query).2 :=
  .ask site site.plurals (client.list_asked site.fleet type space query)

theorem getWith_evolves (site : Site) (client : Client) (type : ResourceType)
    (space : Option String) (name : String) :
    site.Evolves (site.getWith client type space name).2 :=
  .ask site site.plurals (client.get_asked site.fleet type space name)

theorem getBuiltinWith_evolves (site : Site) (client : Client) (kind : BuiltinKind)
    (space : Option String) (name : String) :
    site.Evolves (site.getBuiltinWith client kind space name).2 :=
  .ask site site.plurals (client.getBuiltin_asked site.fleet kind space name)

theorem listOn_evolves (site : Site) (handle : Handle) (gv : GroupVersion) (kind : String)
    (space plural? : Option String) (query : ListQuery) :
    site.Evolves (site.listOn handle gv kind space plural? query).2 := by
  have named := site.pluralOf_evolves handle.client gv kind plural?
  unfold Site.listOn
  dsimp only
  split <;> exact named.trans (listWith_evolves _ _ _ _ _)

/-! ## Reads -/

theorem list_evolves (site : Site) (request : ListRequest) :
    site.Evolves (site.list request).2 := by
  have resolved := site.resolve_evolves request.context?
  unfold Site.list
  split
  · exact .refl site
  · split
    · simp_all
    · simp_all only
      exact resolved.trans (listOn_evolves _ _ _ _ _ _ _)

theorem getGeneric_evolves (site : Site) (client : Client) (request : GetRequest) :
    site.Evolves (site.getGeneric client request).2 := by
  unfold Site.getGeneric
  split
  · exact .refl site
  · exact (site.pluralOf_evolves client _ request.kind request.plural?).trans
      (getWith_evolves _ _ _ _ _)

theorem get_evolves (site : Site) (request : GetRequest) :
    site.Evolves (site.get request).2 := by
  have resolved := site.resolve_evolves request.context?
  unfold Site.get
  split
  · exact .refl site
  · split
    · simp_all
    · simp_all only
      split
      · exact resolved.trans (getBuiltinWith_evolves _ _ _ _ _)
      · exact resolved.trans (getGeneric_evolves _ _ _)

theorem eventCandidates_evolves (site : Site) (client : Client) (kind name space : String) :
    site.Evolves (site.eventCandidates client kind name space).2 := by
  have narrow := site.listWith_evolves client .events (some space)
    (.ofSelector (EventLookup.narrowSelector kind name space))
  unfold Site.eventCandidates
  split
  · simp_all
  · rename_i afterNarrow first
    have wide := afterNarrow.listWith_evolves client .events (some space)
      (.ofSelector (EventLookup.wideSelector kind name))
    rw [first] at narrow
    split <;> simp_all only <;> exact narrow.trans wide

theorem events_evolves (site : Site) (kind name : String) (rawSpace? context? : Option String) :
    site.Evolves (site.events kind name rawSpace? context?).2 := by
  have resolved := site.resolve_evolves context?
  unfold Site.events
  split
  · exact .refl site
  · split
    · simp_all
    · simp_all only
      exact resolved.trans (eventCandidates_evolves _ _ _ _ _)

/-! ## Managed objects -/

theorem managedBatch_evolves (site : Site) (handle : Handle) (type : ResourceType) :
    site.Evolves (site.managedBatch handle type).2 := by
  have listed := site.listOn_evolves handle type.groupVersion type.kind none (some type.plural) {}
  unfold Site.managedBatch
  split <;> simp_all

theorem managedBatches_evolves (handle : Handle) (types : List ResourceType) (site : Site) :
    site.Evolves (managedBatches handle types site).2 := by
  induction types generalizing site with
  | nil => exact .refl site
  | cons type rest ih => exact (site.managedBatch_evolves handle type).trans (ih _)

theorem listPackages_evolves (site : Site) (handle : Handle) (type : ResourceType) :
    site.Evolves (site.listPackages handle type).2 :=
  site.listOn_evolves handle type.groupVersion type.kind none (some type.plural) {}

theorem listDefinitions_evolves (site : Site) (handle : Handle) :
    site.Evolves (site.listDefinitions handle).2 :=
  site.listWith_evolves handle.client .customResourceDefinitions none {}

theorem managedTypes_evolves (site : Site) (handle : Handle) :
    site.Evolves (site.managedTypes handle).2 := by
  have providers := site.listPackages_evolves handle Crossplane.providers
  unfold Site.managedTypes
  split
  · simp_all
  · rename_i afterProviders firstAnswer
    rw [firstAnswer] at providers
    have revisions := afterProviders.listPackages_evolves handle Crossplane.providerRevisions
    split
    · simp_all only
      exact providers.trans revisions
    · rename_i afterRevisions secondAnswer
      rw [secondAnswer] at revisions
      have definitions := afterRevisions.listDefinitions_evolves handle
      split <;> simp_all only <;> exact (providers.trans revisions).trans definitions

theorem collectManaged_evolves (site : Site) (handle : Handle) :
    site.Evolves (site.collectManaged handle).2 := by
  have typed := site.managedTypes_evolves handle
  unfold Site.collectManaged
  split
  · simp_all
  · simp_all only
    exact typed.trans (managedBatches_evolves _ _ _)

theorem managed_evolves (site : Site) (cache : Managed.Cache) (now : Nat)
    (context? : Option String) (force : Bool) :
    site.Evolves (site.managed cache now context? force).2.2 := by
  have resolved := site.resolve_evolves context?
  unfold Site.managed
  split
  · simp_all
  · rename_i handle afterResolve firstAnswer
    rw [firstAnswer] at resolved
    have collected := afterResolve.collectManaged_evolves handle
    dsimp only
    split
    · exact resolved
    · split <;> simp_all only <;> exact resolved.trans collected

end Site
end KubeLens
