import KubeLens.Proofs.Cluster.Paging
import KubeLens.Proofs.Lens.Isolation

/-!
# Reading a list page by page

A caller who follows the tokens of the pages gets every stored object of a type once, in the order
of the keys, however few objects a page may have.  Anything may happen between two pages, as long
as the objects stay and their cluster can be reached.
-/

namespace KubeLens

/-! ## Connections that are found again -/

namespace Site

/-- A request finds the active connection, if that is the one to the context that it names. -/
theorem resolve_of_handle? {site : Site} {context? : Option String} {handle : Handle}
    (active : site.board.handle? = some handle)
    (meant : ∀ name, Switchboard.wanted? context? = some name →
      Switchboard.target site.host name = handle.context) :
    site.resolve context? = (.ok handle, site) ∧ site.aim context? = handle.context := by
  have current := (Switchboard.handle?_eq_some_iff.mp active).1
  unfold Site.resolve Switchboard.resolve Site.aim
  cases wanted : Switchboard.wanted? context? with
  | none => simp [active, current]
  | some name =>
      have same := meant name wanted
      simp [Switchboard.ensureActive, Switchboard.active?, same, current, active]

/-- What is done over the connection that a request found leaves that connection for the next
request of this kind. -/
theorem resolve_again {site after : Site} {context? : Option String} {handle : Handle}
    (coherent : site.board.Coherent) (found : (site.resolve context?).1 = .ok handle)
    (within : (site.resolve context?).2.Within handle.client.context after) :
    after.resolve context? = (.ok handle, after) ∧ after.aim context? = site.aim context? := by
  cases site.resolves coherent context? with
  | fails error answer =>
      rw [answer] at found
      cases found
  | finds client own answer active =>
      rw [answer] at found
      cases found
      have activeAfter : after.board.handle? = some ⟨site.aim context?, client⟩ := by
        rw [within.board, active]
      refine resolve_of_handle? activeAfter fun name wanted => ?_
      have host : after.host = site.host := within.host
      rw [host, Site.aim, wanted]

/-- A list with a given plural is answered by the cluster, where a type that is not known has no
objects. -/
theorem listOn_stocked {site : Site} {handle : Handle} {type : ResourceType}
    (stocked : (handle.client.cluster site.fleet).Stocked) (named : type.plural ≠ "")
    (allowed : (handle.client.cluster site.fleet).refusals.get? (.list, type.plural) = none)
    (unfailing : (handle.client.cluster site.fleet).listFailures.get? type.plural = none)
    (space : Option String) {query : ListQuery} (unselected : query.fieldSelector = none) :
    (site.listOn handle type.groupVersion type.kind space (some type.plural) query).1 =
      .ok (Cluster.page
        ((((handle.client.cluster site.fleet).shelf type).within space).map (·.2)) query) := by
  have given : site.pluralOf handle.client type.groupVersion type.kind (some type.plural) =
      (type.plural, site) := by
    simp [pluralOf, Option.filter_some, named]
  have free : handle.client.refusal? site.fleet .list type.plural = none := by
    unfold Client.refusal?
    split
    · rfl
    · exact allowed
  have asked : ResourceType.ofGroupVersion type.groupVersion type.kind type.plural = type := rfl
  unfold listOn listWith Client.list Cluster.list Cluster.listAnswer
  simp only [given, asked, free, unfailing, Cluster.rejected?, unselected, Option.bind_none]
  by_cases known : type.shelfKey ∈ (handle.client.cluster site.fleet).types
  · simp only [known, if_true, Shelf.select_none]
  · have nothing : (handle.client.cluster site.fleet).shelf type = [] := by
      by_contra occupied
      exact known (stocked.known type occupied)
    simp [known, nothing, Shelf.within, Cluster.page_nil, Cluster.typeMissing,
      ClusterError.isNotFound]

end Site

/-! ## Requests for a type -/

/-- Whether a request asks for a type that it names with its plural. -/
structure ListRequest.Names (request : ListRequest) (type : ResourceType) : Prop where
  groupVersion : request.check = .ok type.groupVersion
  kind : request.kind = type.kind
  plural : request.plural? = some type.plural
  named : type.plural ≠ ""

theorem ListRequest.Names.page {request : ListRequest} {type : ResourceType}
    (names : request.Names type) (limit? : Option Nat) (token : Option String) :
    ListRequest.Names { request with limit?, continueToken? := token } type :=
  ⟨names.groupVersion, names.kind, names.plural, names.named⟩

namespace Lens

/-- Whether requests get a connection to list a type with, and its objects are those of
`content`. -/
structure CanList (lens : Lens) (context? : Option String) (type : ResourceType)
    (content : Cluster) : Prop where
  coherent : lens.site.board.Coherent
  connects : ∃ handle, (lens.site.resolve context?).1 = .ok handle
  types : (lens.site.fleet.cluster (lens.site.aim context?)).types = content.types
  shelves : (lens.site.fleet.cluster (lens.site.aim context?)).shelves = content.shelves
  allowed : (lens.site.fleet.cluster (lens.site.aim context?)).refusals.get?
    (.list, type.plural) = none
  unfailing : (lens.site.fleet.cluster (lens.site.aim context?)).listFailures.get?
    type.plural = none

variable {lens : Lens} {request : ListRequest} {type : ResourceType} {content : Cluster}

/-- The objects that a request asks for. -/
def wanted (request : ListRequest) (type : ResourceType) (content : Cluster) : Shelf :=
  (content.shelf type).within (Namespace.normalize request.rawSpace?)

/-- A list is answered with a page of the objects, and can be asked for again afterwards. -/
theorem list_of_canList (names : request.Names type) (filled : content.Filled)
    (canList : lens.CanList request.context? type content) :
    (lens.list request).1 =
        .ok (Cluster.page ((wanted request type content).map (·.2)) request.query) ∧
      (lens.list request).2.CanList request.context? type content := by
  obtain ⟨handle, found⟩ := canList.connects
  obtain ⟨site, resolved⟩ : ∃ site, lens.site.resolve request.context? = (.ok handle, site) :=
    ⟨_, Prod.ext found rfl⟩
  have cluster := resolve_cluster canList.coherent resolved
  have listed : lens.site.list request = site.listOn handle type.groupVersion type.kind
      (Namespace.normalize request.rawSpace?) (some type.plural) request.query := by
    unfold Site.list
    rw [names.groupVersion, resolved, names.kind, names.plural]
  constructor
  · have shelf : (handle.client.cluster site.fleet).shelf type = content.shelf type := by
      rw [cluster, Cluster.shelf, Cluster.shelf, canList.shelves]
    have stocked : (handle.client.cluster site.fleet).Stocked := by
      rw [cluster]
      exact (filled.other canList.types canList.shelves).stocked
    unfold Lens.list wanted
    rw [listed, ← shelf]
    refine Site.listOn_stocked stocked names.named ?_ ?_ _ rfl
    · rw [cluster]
      exact canList.allowed
    · rw [cluster]
      exact canList.unfailing
  · have within : (lens.site.resolve request.context?).2.Within handle.client.context
        (lens.list request).2.site := by
      show Site.Within handle.client.context _ (lens.site.list request).2
      rw [listed, resolved]
      exact site.listOn_within handle _ _ _ _ _
    obtain ⟨again, aim⟩ := Site.resolve_again canList.coherent found within
    obtain ⟨calls, kept⟩ := (lens.site.list_evolves request).sameContents
      (lens.site.aim request.context?)
    have after : (lens.list request).2.site.fleet.cluster
        ((lens.list request).2.site.aim request.context?) =
          { lens.site.fleet.cluster (lens.site.aim request.context?) with calls } := by
      rw [aim]
      exact kept
    refine ⟨?_, ⟨handle, by rw [again]⟩, ?_, ?_, ?_, ?_⟩
    · exact (lens.site.list_evolves request).attempts.coherent canList.coherent
    · rw [after]
      exact canList.types
    · rw [after]
      exact canList.shelves
    · rw [after]
      exact canList.allowed
    · rw [after]
      exact canList.unfailing

/-! ## Following the tokens -/

/-- The service before the page with a number, and the token for it.  `interludes` tells what
happens after each page. -/
def walk (lens : Lens) (request : ListRequest) (interludes : Nat → List Event) :
    Nat → Lens × Option String
  | 0 => (lens, none)
  | number + 1 =>
    let (before, token) := lens.walk request interludes number
    let (answer, after) := before.list { request with continueToken? := token }
    (after.run (interludes number), answer.toOption.bind (·.continueToken))

/-- The answer to the request for the page with a number. -/
def walkAnswer (lens : Lens) (request : ListRequest) (interludes : Nat → List Event)
    (number : Nat) : Except ServiceError ObjectPage :=
  let (before, token) := lens.walk request interludes number
  (before.list { request with continueToken? := token }).1

section Walk

variable {interludes : Nat → List Event} (names : request.Names type) (filled : content.Filled)
  (canList : lens.CanList request.context? type content)
  (undisturbed : ∀ number before, Lens.CanList before request.context? type content →
    (before.run (interludes number)).CanList request.context? type content)

include names filled canList undisturbed

theorem walk_canList (number : Nat) :
    (lens.walk request interludes number).1.CanList request.context? type content := by
  induction number with
  | zero => exact canList
  | succ number ih =>
      have listed := list_of_canList
        (names.page request.limit? (lens.walk request interludes number).2) filled ih
      exact undisturbed number _ listed.2

/-- Each answer is a page of the objects, which starts where the token says. -/
theorem walkAnswer_eq (number : Nat) :
    lens.walkAnswer request interludes number =
      .ok (Cluster.page ((wanted request type content).map (·.2))
        { limit := request.limit?
          continueToken :=
            (lens.walk request interludes number).2.filter (!·.isEmpty) }) :=
  (list_of_canList (names.page request.limit? (lens.walk request interludes number).2) filled
    (walk_canList names filled canList undisturbed number)).1

/-- The token for a page is the one that the page before it came with. -/
theorem walk_token {number : Nat} {page : ObjectPage}
    (answered : lens.walkAnswer request interludes number = .ok page) :
    (lens.walk request interludes (number + 1)).2.filter (!·.isEmpty) = page.continueToken := by
  have next : (lens.walk request interludes (number + 1)).2 =
      (lens.walkAnswer request interludes number).toOption.bind (·.continueToken) := rfl
  have answer := walkAnswer_eq names filled canList undisturbed number
  rw [answered] at answer
  rw [next, answered, Except.ok.inj answer]
  exact Cluster.page_token_filter _ _

end Walk

/-- A caller who follows the tokens reaches a page without one.  The pages return what a list
without a limit does: the stored objects of the type, in the order of their keys.  Tokens are
positions that are read as machine words; no shelf has more objects than there are words. -/
theorem walk_paginates (lens : Lens) (request : ListRequest) (type : ResourceType)
    (content : Cluster) (interludes : Nat → List Event) (limit : Nat)
    (names : request.Names type) (limited : request.limit? = some limit) (positive : 1 ≤ limit)
    (filled : content.Filled) (small : (content.shelf type).length ≤ 2 ^ 64)
    (canList : lens.CanList request.context? type content)
    (undisturbed : ∀ number before, Lens.CanList before request.context? type content →
      (before.run (interludes number)).CanList request.context? type content) :
    ∃ objects : Shelf, objects.Ordered ∧
      (∀ key document, (key, document) ∈ objects ↔
        content.object? type key = some document ∧
          ∀ space, Namespace.normalize request.rawSpace? = some space → key.space = some space) ∧
      (lens.list { request with limit? := none, continueToken? := none }).1 =
        .ok { items := objects.map (·.2) } ∧
      ∃ pages, Paginates (lens.walkAnswer request interludes) 0 (objects.map (·.2)) pages := by
  have ordered := filled.stocked.ordered type
  refine ⟨wanted request type content, ordered.filter _, ?_, ?_, ?_⟩
  · intro key document
    exact Shelf.mem_within.trans (and_congr_left fun _ => ordered.mem_iff)
  · have whole := (list_of_canList (names.page none none) filled canList).1
    exact whole.trans (congrArg _ (Cluster.page_whole _))
  · have fits : ((wanted request type content).map (·.2)).length ≤ 2 ^ 64 := by
      rw [List.length_map]
      exact Nat.le_trans (List.length_filter_le _ _) small
    have answers := walkAnswer_eq names filled canList undisturbed
    rw [limited] at answers
    exact Paginates.of_positions positive fits answers
      (fun _ _ answered => walk_token names filled canList undisturbed answered) 0 (Nat.zero_le _)

/-- Three deployments of two namespaces are read two by two, while time passes in between. -/
theorem walk_paginates_deployments :
    let type := BuiltinKind.deployment.resourceType
    let named (space name : String) : Json :=
      .obj [("metadata", .obj [("namespace", .str space), ("name", .str name)])]
    let content := ((({} : Cluster).insert type (named "b" "x")).insert type (named "a" "z")).insert
      type (named "a" "y")
    let lens := (onHost (.defaults none) (.storing ["dev"])).run [.reshape "dev" content]
    let request : ListRequest :=
      { apiVersion := "apps/v1", kind := "Deployment", context? := some "dev"
        plural? := some "deployments", limit? := some 2 }
    request.Names type ∧ content.Filled ∧ lens.CanList request.context? type content ∧
      ∃ objects : Shelf, objects.Ordered ∧ objects.length = 3 ∧
        ∃ pages, Paginates (lens.walkAnswer request fun _ => [.wait 1]) 0
          (objects.map (·.2)) pages := by
  intro type named content lens request
  have names : request.Names type := ⟨by decide, rfl, rfl, by decide⟩
  have filled : content.Filled := ((Cluster.Filled.empty.insert _ _).insert _ _).insert _ _
  have canList : lens.CanList request.context? type content :=
    ⟨(run_sound (onHost_sound _ _) _).coherent, ⟨_, rfl⟩, rfl, rfl, rfl, rfl⟩
  obtain ⟨objects, ordered, _, whole, paginates⟩ :=
    walk_paginates lens request type content (fun _ => [.wait 1]) 2 names rfl (by decide) filled
      (by decide) canList
      fun _ _ before => ⟨before.coherent, before.connects, before.types, before.shelves,
        before.allowed, before.unfailing⟩
  have count : (lens.list { request with limit? := none, continueToken? := none }).1.toOption.map
      (·.items.length) = some 3 := by decide
  rw [whole] at count
  refine ⟨names, filled, canList, objects, ordered, ?_, paginates⟩
  rw [← List.length_map (·.2)]
  exact Option.some.inj count

end Lens
end KubeLens
