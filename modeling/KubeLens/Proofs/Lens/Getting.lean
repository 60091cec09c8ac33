import KubeLens.Proofs.Cluster.Builtin
import KubeLens.Proofs.Lens.Failing

/-!
# Getting what is stored

A request for an object has a type in mind: that of a builtin kind, or else the one with the plural
that is given or found.  A cluster that answers gets answers the request with the object that it
stores, or says that there is none.
-/

namespace KubeLens

/-! ## Clusters -/

/-- Whether the cluster of a client answers every get itself. -/
structure Client.Serves (client : Client) (fleet : Fleet) : Prop where
  unstalled : (client.cluster fleet).isStalled = false
  unrefused : (client.cluster fleet).refusals = []

namespace Client.Serves

variable {client : Client} {fleet : Fleet}

theorem of_sameContents {before after : Fleet} (serves : client.Serves before)
    (same : before.SameContents after) : client.Serves after := by
  obtain ⟨calls, cluster⟩ := same client.context
  have stalled := congrArg Cluster.isStalled cluster
  have refusals := congrArg Cluster.refusals cluster
  exact ⟨stalled.trans serves.unstalled, refusals.trans serves.unrefused⟩

theorem refusal?_eq_none (serves : client.Serves fleet) (call : Call) (plural : String) :
    client.refusal? fleet call plural = none := by
  unfold Client.refusal?
  rw [serves.unrefused]
  split <;> rfl

theorem get_fst (serves : client.Serves fleet) (type : ResourceType) (space : Option String)
    (name : String) :
    (client.get fleet type space name).1 =
      some ((client.cluster fleet).getAnswer type space name) := by
  unfold Client.get Cluster.get
  rw [serves.refusal?_eq_none, serves.unstalled]
  rfl

theorem getBuiltin_fst (serves : client.Serves fleet) {builtin : BuiltinKind}
    {space : Option String} (fits : builtin.isNamespaced = space.isSome) (name : String) :
    (client.getBuiltin fleet builtin space name).1 =
      (client.cluster fleet).getAnswer builtin.resourceType space name := by
  unfold Client.getBuiltin
  rw [serves.refusal?_eq_none]
  exact (client.cluster fleet).builtinAnswer_of_fits fits name

end Client.Serves

/-- What is stored does not depend on recorded calls. -/
theorem Client.object?_of_sameContents {before after : Fleet} (same : before.SameContents after)
    (client : Client) (type : ResourceType) (key : ObjectKey) :
    (client.cluster after).object? type key = (client.cluster before).object? type key := by
  obtain ⟨calls, cluster⟩ := same client.context
  have stored := congrArg (Cluster.object? · type key) cluster
  exact stored

/-! ## Requests -/

namespace GetRequest

/-- Whether the `apiVersion` of a request is accepted: it is that of the builtin kind which is
asked for, or names a group and a version. -/
def IsAccepted (request : GetRequest) : Prop :=
  request.builtin?.isSome = true ∨ ∃ gv, parseGroupVersion request.apiVersion = .ok gv

/-- The place of the object. -/
def key (request : GetRequest) : ObjectKey :=
  ⟨request.space?, request.name⟩

/-- What the caller is told when a document, or none, is stored in the place of the object. -/
def told (request : GetRequest) : Option Json → Except ServiceError Json
  | some document => .ok document
  | none => .error (.objectAbsent request.kind request.name request.space?)

theorem mapError_getAnswer (request : GetRequest) (cluster : Cluster) (type : ResourceType) :
    (cluster.getAnswer type request.space? request.name).mapError request.failure =
      request.told (cluster.object? type request.key) := by
  unfold Cluster.getAnswer key
  cases cluster.object? type ⟨request.space?, request.name⟩ with
  | some document => rfl
  | none => rfl

end GetRequest

namespace Site

/-- Whether a request asks for an object of a type.  A builtin kind has its own type, whatever
plural is given. -/
inductive Seeks (site : Site) (client : Client) (request : GetRequest) : ResourceType → Prop
  | builtin {builtin : BuiltinKind} (found : request.builtin? = some builtin) :
      Seeks site client request builtin.resourceType
  | generic {gv : GroupVersion} (foreign : request.builtin? = none)
      (read : parseGroupVersion request.apiVersion = .ok gv) :
      Seeks site client request (site.meant client gv request.kind request.plural?)

variable {site : Site} {client : Client} {request : GetRequest}

theorem Seeks.of_builtin {type : ResourceType} (seeks : site.Seeks client request type)
    {builtin : BuiltinKind} (known : request.builtin? = some builtin) :
    type = builtin.resourceType := by
  cases seeks with
  | builtin found =>
      rw [known] at found
      rw [Option.some.inj found]
  | generic foreign =>
      rw [known] at foreign
      cases foreign

theorem Seeks.of_foreign {type : ResourceType} (seeks : site.Seeks client request type)
    (foreign : request.builtin? = none) {gv : GroupVersion}
    (read : parseGroupVersion request.apiVersion = .ok gv) :
    type = site.meant client gv request.kind request.plural? := by
  cases seeks with
  | builtin found =>
      rw [foreign] at found
      cases found
  | generic _ found =>
      rw [read] at found
      rw [Except.ok.inj found]

theorem exists_seeks (accepted : request.IsAccepted) : ∃ type, site.Seeks client request type := by
  cases search : request.builtin? with
  | some builtin => exact ⟨_, .builtin search⟩
  | none =>
      rcases accepted with known | ⟨gv, read⟩
      · rw [search] at known
        cases known
      · exact ⟨_, .generic search read⟩

theorem getBuiltinWith_told (serves : client.Serves site.fleet) {builtin : BuiltinKind}
    (found : request.builtin? = some builtin) :
    (site.getBuiltinWith client builtin request.space? request.name).1.mapError request.failure =
      request.told
        ((client.cluster site.fleet).object? builtin.resourceType request.key) := by
  obtain ⟨_, _, fits⟩ := BuiltinKind.lookup_eq_some_iff.mp found
  unfold getBuiltinWith
  dsimp only
  rw [serves.getBuiltin_fst fits, request.mapError_getAnswer]

theorem getGeneric_told (serves : client.Serves site.fleet) {gv : GroupVersion}
    (read : parseGroupVersion request.apiVersion = .ok gv) :
    (site.getGeneric client request).1 = some (request.told
      ((client.cluster site.fleet).object? (site.meant client gv request.kind request.plural?)
        request.key)) := by
  have same := (site.pluralOf_evolves client gv request.kind request.plural?).sameContents
  have later := serves.of_sameContents same
  unfold getGeneric getWith
  rw [read]
  dsimp only
  rw [later.get_fst, Option.map_some, request.mapError_getAnswer,
    Client.object?_of_sameContents same]
  rfl

theorem get_of_found {handle : Handle} (filled : request.check = .ok ())
    (found : (site.resolve request.context?).1 = .ok handle) :
    (site.get request).1 =
      match request.builtin? with
      | some builtin =>
        some (((site.resolve request.context?).2.getBuiltinWith handle.client builtin
          request.space? request.name).1.mapError request.failure)
      | none => ((site.resolve request.context?).2.getGeneric handle.client request).1 := by
  unfold Site.get
  rw [filled]
  rcases resolved : site.resolve request.context? with ⟨_, after⟩
  rw [resolved] at found
  cases found
  cases request.builtin? with
  | some builtin => rfl
  | none => rfl

/-- A request that gets a connection is answered with what is stored. -/
theorem get_of_seeks {handle : Handle} {type : ResourceType} (filled : request.check = .ok ())
    (found : (site.resolve request.context?).1 = .ok handle)
    (serves : handle.client.Serves site.fleet) (seeks : site.Seeks handle.client request type) :
    (site.get request).1 = some (request.told
      ((handle.client.cluster site.fleet).object? type request.key)) := by
  have same := (site.resolve_evolves request.context?).sameContents
  have later := serves.of_sameContents same
  rw [get_of_found filled found, ← Client.object?_of_sameContents same]
  cases seeks with
  | builtin known =>
      rw [known]
      exact congrArg some (getBuiltinWith_told later known)
  | generic foreign read =>
      rw [foreign, ← meant_resolve]
      exact getGeneric_told later read

end Site

/-! ## What a request is answered with -/

namespace Lens

/-- A request for an object is answered with the document that is stored in the place of the object
among the objects of its type, or else with the error that the object is absent.  A builtin kind
that is looked up is the one that was asked for, and has the plural that would be guessed.  A
cluster that answers gets answers alike to both ways to get an object of this kind, and both send
the same request over a wire. -/
theorem get_stored :
    (∀ (lens : Lens) (request : GetRequest) (handle : Handle), request.check = .ok () →
      (lens.site.resolve request.context?).1 = .ok handle → request.IsAccepted →
      handle.client.Serves lens.site.fleet →
      ∃ type, lens.site.Seeks handle.client request type ∧
        (lens.get request).1 = some (request.told
          ((handle.client.cluster lens.site.fleet).object? type request.key))) ∧
    ∀ (apiVersion kind name : String) (space : Option String) (builtin : BuiltinKind),
      BuiltinKind.lookup apiVersion kind space.isSome = some builtin →
      (builtin.resourceType.apiVersion = apiVersion ∧ builtin.resourceType.kind = kind ∧
        builtin.resourceType.plural = Plurals.naive kind) ∧
      (∀ cluster : Cluster, cluster.isStalled = false →
        (cluster.get builtin.resourceType space name).1 =
          some (cluster.getBuiltin builtin space name).1) ∧
      ∀ link : Remote.Link,
        (link.getBuiltin builtin space name).2.wire.sent =
            link.wire.sent ++ (Remote.Request.get? builtin.resourceType space name).toList ∧
          (link.get builtin.resourceType space name).2.wire.sent =
            link.wire.sent ++ (Remote.Request.get? builtin.resourceType space name).toList := by
  constructor
  · intro lens request handle filled found accepted serves
    obtain ⟨type, seeks⟩ := Site.exists_seeks accepted
    exact ⟨type, seeks, Site.get_of_seeks filled found serves seeks⟩
  · intro apiVersion kind name space builtin found
    obtain ⟨version, named, fits⟩ := BuiltinKind.lookup_eq_some_iff.mp found
    refine ⟨⟨version, named, ?_⟩, fun cluster unstalled => ?_, fun link => ⟨?_, ?_⟩⟩
    · rw [builtin.plural_eq_naive, named]
    · exact Cluster.get_eq_getBuiltin unstalled fits name
    · exact link.getBuiltin_sent fits name
    · exact link.get_sent _ _ _

/-- A service whose only context stores one document. -/
def withStored (type : ResourceType) (key : ObjectKey) (document : Json) : Lens :=
  let cluster : Cluster :=
    { types := [type.shelfKey], shelves := [(type.shelfKey, [(key, document)])] }
  (onHost (.defaults none) (.storing ["dev"])).run [.reshape "dev" cluster]

/-- The `ConfigMap` that is stored is found, and a custom object that is not stored is absent. -/
theorem get_stored_settings :
    let document := Json.obj [("kind", .str "ConfigMap")]
    let lens := withStored BuiltinKind.configMap.resourceType ⟨some "prod", "settings"⟩ document
    let request : GetRequest :=
      { apiVersion := "v1", kind := "ConfigMap", name := "settings", rawSpace? := some "prod"
        context? := some "dev" }
    let other : GetRequest :=
      { apiVersion := "example.org/v1", kind := "Widget", name := "gear"
        rawSpace? := some "undefined", context? := some "dev", plural? := some "widgets" }
    let cluster := lens.site.fleet.cluster "dev"
    let link : Remote.Link := ⟨"dev", "https://localhost", { replies := [] }⟩
    let sent : Remote.Request := ⟨"/api/v1/namespaces/prod/configmaps/settings", []⟩
    (lens.get request).1 = some (.ok document) ∧
      (lens.get other).1 = some (.error (.notFound "Widget 'gear' not found")) ∧
      (cluster.get BuiltinKind.configMap.resourceType (some "prod") "settings").1 =
        some (cluster.getBuiltin .configMap (some "prod") "settings").1 ∧
      (link.getBuiltin .configMap (some "prod") "settings").2.wire.sent = [sent] ∧
      (link.get BuiltinKind.configMap.resourceType (some "prod") "settings").2.wire.sent =
        [sent] := by
  intro document lens request other cluster link sent
  let handle : Handle := ⟨"dev", { context := "dev" }⟩
  have serves : handle.client.Serves lens.site.fleet := ⟨rfl, rfl⟩
  have known : request.builtin? = some .configMap := by decide
  have foreign : other.builtin? = none := by decide
  have read : parseGroupVersion other.apiVersion = .ok ⟨"example.org", "v1"⟩ := by
    decide +kernel
  obtain ⟨answered, agrees⟩ := get_stored
  obtain ⟨_, seeks, answer⟩ := answered lens request handle (by decide +kernel) rfl
    (.inl (by rw [known]; rfl)) serves
  have stored : (handle.client.cluster lens.site.fleet).object?
      BuiltinKind.configMap.resourceType request.key = some document := by rfl
  rw [seeks.of_builtin known, stored] at answer
  obtain ⟨_, otherSeeks, otherAnswer⟩ := answered lens other handle (by decide +kernel) rfl
    (.inr ⟨_, read⟩) serves
  have missing : (handle.client.cluster lens.site.fleet).object?
      (lens.site.meant handle.client ⟨"example.org", "v1"⟩ "Widget" (some "widgets")) other.key =
        none := by rfl
  rw [otherSeeks.of_foreign foreign read, missing] at otherAnswer
  obtain ⟨_, alike, sends⟩ :=
    agrees "v1" "ConfigMap" "settings" (some "prod") .configMap (by decide)
  obtain ⟨builtin, generic⟩ := sends link
  have path : Remote.Request.get? BuiltinKind.configMap.resourceType (some "prod") "settings" =
      some sent := by decide +kernel
  rw [path] at builtin generic
  exact ⟨answer, otherAnswer, alike cluster rfl, builtin, generic⟩

/-- A document is kept under a plural of its own, and asked for under this plural; but it names a
builtin kind, which has another plural. -/
theorem get_overlooks_plural :
    let type : ResourceType := ⟨"apps", "v1", "Deployment", "widgets"⟩
    let document := Json.obj [("kind", .str "Deployment")]
    let lens := withStored type ⟨some "prod", "gear"⟩ document
    let request : GetRequest :=
      { apiVersion := "apps/v1", kind := "Deployment", name := "gear", rawSpace? := some "prod"
        context? := some "dev", plural? := some "widgets" }
    let handle : Handle := ⟨"dev", { context := "dev" }⟩
    request.check = .ok () ∧ (lens.site.resolve request.context?).1 = .ok handle ∧
      parseGroupVersion request.apiVersion = .ok ⟨type.group, type.version⟩ ∧
      handle.client.Serves lens.site.fleet ∧
      (handle.client.cluster lens.site.fleet).object? type request.key = some document ∧
      (lens.get request).1 =
        some (.error (.notFound "Deployment 'gear' not found in namespace 'prod'")) :=
  ⟨by decide +kernel, by rfl, by decide +kernel, ⟨rfl, rfl⟩, by rfl, by rfl⟩

end Lens
end KubeLens
