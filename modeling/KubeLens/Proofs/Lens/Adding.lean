import KubeLens.Proofs.Kubeconfig.References
import KubeLens.Proofs.Lens.Usable

/-!
# What an added context means

A context that is added keeps the names that it refers to, but a name means one entry for all
contexts: the stored one, if there is one.  So an added context means what it meant in its own
document where nothing was stored under the names that it refers to.
-/

namespace KubeLens
namespace Kubeconfig

variable {document incoming after : Kubeconfig} {name : String}

/-- Whether a document `after` has an incoming context, added to what was stored in `document`. -/
structure Adopts (document incoming after : Kubeconfig) (name : String) (context : Entry) :
    Prop where
  named : incoming.context? name = some context
  kept : after.context? name = some context
  /-- It means what it meant where nothing was stored under the name that it refers to. -/
  own : ∀ reference : Reference, document.target? reference context = none →
    after.target? reference context = incoming.target? reference context
  /-- It means what was stored otherwise. -/
  stored : ∀ (reference : Reference) (entry : Entry),
    document.target? reference context = some entry →
      after.target? reference context = some entry

/-- Whether each of the contexts that merging adds was added to a document. -/
def AdoptsAll (document incoming after : Kubeconfig) : Prop :=
  ∀ name ∈ document.addedContexts incoming, ∃ context, Adopts document incoming after name context

theorem context?_merge_of_added (added : name ∈ document.addedContexts incoming) :
    (document.merge incoming).context? name = incoming.context? name := by
  have absent : name ∉ document.contexts.map (·.name) := (mem_map_newEntries.mp added).2
  have unstored : document.contexts.find? (·.name == name) = none := by simpa using absent
  unfold context? merge
  rw [List.find?_append, unstored, Option.none_or, find?_newEntries _ absent]

theorem merge_adoptsAll (document incoming : Kubeconfig) :
    AdoptsAll document incoming (document.merge incoming) := by
  intro name added
  obtain ⟨context, found⟩ : ∃ context, incoming.context? name = some context := by
    refine Option.isSome_iff_exists.mp (List.find?_isSome.mpr ?_)
    simpa using (mem_map_newEntries.mp added).1
  refine ⟨context, found, (context?_merge_of_added added).trans found, ?_, ?_⟩
  · intro reference unstored
    rw [target?_merge, unstored, Option.none_or]
  · intro reference entry stored
    rw [target?_merge, stored, Option.some_or]

@[simp] theorem target?_reread (document : Kubeconfig) (reference : Reference) (context : Entry) :
    document.reread.target? reference context = document.target? reference context := by
  cases reference <;> rfl

/-- Storing a document and loading it again does not change what its contexts mean. -/
theorem AdoptsAll.reread (adopts : AdoptsAll document incoming after) :
    AdoptsAll document incoming after.reread := by
  intro name added
  obtain ⟨context, adopted⟩ := adopts name added
  refine ⟨context, adopted.named, adopted.kept, fun reference unstored => ?_,
    fun reference entry stored => ?_⟩
  · rw [target?_reread]
    exact adopted.own reference unstored
  · rw [target?_reread]
    exact adopted.stored reference entry stored

end Kubeconfig

namespace Lens

open Kubeconfig (AdoptsAll)

/-- A context that merging adds refers to the names that it referred to.  It means what it meant in
the incoming document where nothing was stored under such a name, and what was stored otherwise.
Outside a cluster the service adds the contexts of a text that can be read to the document that is
stored, or to the blank one, tells their names, and has a document afterwards of which this is
true, as long as documents can be stored. -/
theorem added_adopted (document incoming : Kubeconfig) :
    AdoptsAll document incoming (document.merge incoming) ∧
    ∀ (lens : Lens) (raw : String), lens.site.host.inCluster = false →
      lens.site.host.faults = [] →
      lens.site.host.loadOrBlank lens.site.settings = .ok document →
      Kubeconfig.parse raw = .ok incoming →
      (lens.addContexts raw).1 = .ok (document.addedContexts incoming) ∧
        ∃ after, (lens.addContexts raw).2.site.host.load lens.site.settings = .ok after ∧
          AdoptsAll document incoming after := by
  have adopts := Kubeconfig.merge_adoptsAll document incoming
  refine ⟨adopts, fun lens raw outside faultless loaded read => ?_⟩
  have stored := Switchboard.addContexts_of_loadOrBlank outside loaded read
  rw [if_pos faultless] at stored
  unfold Lens.addContexts
  rw [stored]
  exact ⟨rfl, _, rfl, adopts.reread⟩

/-- The text adds a context `prod`, whose cluster is not stored, to a store that has `dev`. -/
theorem added_adopted_prod :
    let document : Kubeconfig := { contexts := [⟨"dev", []⟩] }
    let lens := onHost (.defaults none) (.storing ["dev"])
    let raw := "contexts: [{name: dev}, {name: prod, context: {cluster: c}}]\nclusters: [{name: c}]"
    lens.site.host.inCluster = false ∧ lens.site.host.faults = [] ∧
      lens.site.host.loadOrBlank lens.site.settings = .ok document ∧
      ∃ incoming after, Kubeconfig.parse raw = .ok incoming ∧
        (lens.addContexts raw).1 = .ok ["prod"] ∧
        (lens.addContexts raw).2.site.host.load lens.site.settings = .ok after ∧
        AdoptsAll document incoming after := by
  intro document lens raw
  have readable : (Kubeconfig.parse raw).toOption.map document.addedContexts = some ["prod"] := by
    decide +kernel
  cases read : Kubeconfig.parse raw with
  | error error =>
      rw [read] at readable
      cases readable
  | ok incoming =>
      rw [read] at readable
      obtain ⟨answer, after, loaded, adopts⟩ :=
        (added_adopted document incoming).2 lens raw rfl rfl rfl read
      rw [Option.some.inj readable] at answer
      exact ⟨rfl, rfl, rfl, incoming, after, rfl, answer, loaded, adopts⟩

/-- A cluster with the address of its server. -/
def servedAt (name address : String) : Entry :=
  ⟨name, [("cluster", .map [(.str "server", .str address)])]⟩

/-- The incoming context `prod` refers to a cluster `c`, which has another server where it comes
from than the one that is stored. -/
theorem added_misled :
    let document : Kubeconfig := { clusters := [servedAt "c" "https://old"] }
    let incoming : Kubeconfig :=
      { clusters := [servedAt "c" "https://new"], users := [⟨"u", []⟩]
        contexts := [.referring "prod" "c" "u"] }
    let context := Entry.referring "prod" "c" "u"
    incoming.Closed ∧ document.addedContexts incoming = ["prod"] ∧
      incoming.context? "prod" = some context ∧
      (document.merge incoming).context? "prod" = some context ∧
      ((document.merge incoming).target? .cluster context).map (·.body) ≠
        (incoming.target? .cluster context).map (·.body) := by
  intro document incoming context
  have refers : incoming.target? .cluster context = some (servedAt "c" "https://new") := by
    simp [incoming, context, Kubeconfig.target?, Reference.name?, Reference.entry?,
      Kubeconfig.cluster?, servedAt]
  have stored : document.target? .cluster context = some (servedAt "c" "https://old") := by
    simp [document, context, Kubeconfig.target?, Reference.name?, Reference.entry?,
      Kubeconfig.cluster?, servedAt]
  refine ⟨?_, rfl, rfl, rfl, ?_⟩
  · simp [incoming, Kubeconfig.Closed, Reference.forall_iff, Reference.name?, Reference.part,
      Kubeconfig.entries, servedAt]
  · rw [Kubeconfig.target?_merge, stored, refers]
    simp [servedAt]

end Lens
end KubeLens
