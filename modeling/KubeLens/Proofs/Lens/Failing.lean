import KubeLens.Proofs.Lens.Collecting
import KubeLens.Proofs.Lens.Confined
import KubeLens.Proofs.Plurals.History

/-!
# Lists that fail

A cluster that answers a list with an error status has not said that the type is absent.  Whoever
asked for the list gets the error.  When packages cannot be listed, whoever asked for managed
objects gets it, and the collections that are kept stay as they are.  There is one exception: an
error whose text says `does not exist` counts as absence, whatever its status.
-/

namespace KubeLens

/-! ## Absence -/

theorem Text.occursIn_iff {part cs : List Char} : Text.occursIn part cs = true ↔ part <:+: cs := by
  induction cs with
  | nil => simp [Text.occursIn]
  | cons c rest ih =>
      rw [Text.occursIn, Bool.or_eq_true, List.isPrefixOf_iff_prefix, ih, List.infix_cons_iff]

namespace ClusterError

/-- Whether a text says that something does not exist. -/
def SaysAbsent (message : String) : Prop :=
  "does not exist".toList <:+: message.toList

instance (message : String) : Decidable (SaysAbsent message) :=
  decidable_of_iff _ Text.occursIn_iff

/-- An error status counts as absence for its text alone. -/
theorem isNotFound_api_iff (code : Nat) {message : String} :
    (api code message).isNotFound = true ↔ SaysAbsent message :=
  Text.occursIn_iff

end ClusterError

open ClusterError (SaysAbsent)

/-! ## Calls -/

namespace Client

/-- Whether the cluster of a client answers every list of a type with an error status. -/
def Denies (client : Client) (fleet : Fleet) (type : ResourceType) (code : Nat)
    (message : String) : Prop :=
  ∀ space query, (client.list fleet type space query).1 = .error (.api code message)

variable {client : Client} {fleet : Fleet} {type : ResourceType} {code : Nat} {message : String}

/-- A cluster whose lists of a plural were made to fail answers all of them with status 500. -/
theorem denies_of_listFailures (allowed : client.refusal? fleet .list type.plural = none)
    (failing : (client.cluster fleet).listFailures.get? type.plural = some message) :
    client.Denies fleet type 500 message := by
  intro space query
  unfold Client.list Cluster.list Cluster.listAnswer
  rw [allowed, failing]

theorem Denies.listing (denies : client.Denies fleet type code message) :
    client.listing fleet type = .error (.api code message) := by
  have answer := (client.list_eq_listing fleet type).symm.trans (denies none {})
  cases listed : client.listing fleet type with
  | ok documents =>
      rw [listed] at answer
      cases answer
  | error error =>
      rw [listed] at answer
      exact congrArg _ (Except.error.inj answer)

/-- A list does not depend on recorded calls. -/
theorem list_fst_of_sameContents {before after : Fleet} (same : before.SameContents after)
    (client : Client) (type : ResourceType) (space : Option String) (query : ListQuery) :
    (client.list after type space query).1 = (client.list before type space query).1 := by
  obtain ⟨calls, cluster⟩ := same client.context
  unfold Client.list Client.refusal? Client.cluster
  rw [cluster]
  dsimp only
  split <;> rfl

theorem Denies.of_sameContents {before after : Fleet}
    (denies : client.Denies before type code message) (same : before.SameContents after) :
    client.Denies after type code message :=
  fun space query => (list_fst_of_sameContents same client type space query).trans
    (denies space query)

end Client

/-! ## Lists over a connection -/

namespace Site

variable {site : Site} {handle : Handle} {code : Nat} {message : String}

/-- The type that a list asks for. -/
def meant (site : Site) (client : Client) (gv : GroupVersion) (kind : String)
    (plural? : Option String) : ResourceType :=
  .ofGroupVersion gv kind (site.pluralOf client gv kind plural?).1

theorem meant_resolve (site : Site) (context? : Option String) (client : Client)
    (gv : GroupVersion) (kind : String) (plural? : Option String) :
    (site.resolve context?).2.meant client gv kind plural? =
      site.meant client gv kind plural? := by
  have same := (site.resolve_evolves context?).sameContents
  have found := site.plurals.resolve_fst_of_sameContents same client gv kind
  unfold meant pluralOf
  cases plural?.filter (!·.isEmpty) with
  | some plural => rfl
  | none => exact congrArg _ found

theorem listOn_of_denies {gv : GroupVersion} {kind : String} {space plural? : Option String}
    {query : ListQuery}
    (denies : handle.client.Denies site.fleet (site.meant handle.client gv kind plural?) code
      message) :
    (site.listOn handle gv kind space plural? query).1 =
      if (ClusterError.api code message).isNotFound then .ok .empty
      else .error (.cluster (.api code message)) := by
  have same := (site.pluralOf_evolves handle.client gv kind plural?).sameContents
  have answer := denies.of_sameContents same space query
  unfold meant at answer
  unfold listOn listWith
  dsimp only
  rw [answer]

/-- Whether the packages of a cluster cannot be listed: an error status answers the list of the
providers, or else that of the revisions. -/
inductive PackagesFail (fleet : Fleet) (client : Client) (code : Nat) (message : String) : Prop
  | providers (denied : client.Denies fleet Crossplane.providers code message)
  | revisions {providers : List Json}
      (listed : readAs (client.listing fleet Crossplane.providers) = .ok providers)
      (denied : client.Denies fleet Crossplane.providerRevisions code message)

theorem listPackages_of_denies {type : ResourceType} (named : type.plural ≠ "")
    (denies : handle.client.Denies site.fleet type code message)
    (genuine : ¬ SaysAbsent message) :
    (site.listPackages handle type).1 = .error (.cluster (.api code message)) := by
  rw [site.listPackages_fst handle type named, denies.listing]
  exact if_neg (mt (ClusterError.isNotFound_api_iff code).mp genuine)

theorem PackagesFail.of_sameContents {before after : Fleet} {client : Client}
    (fail : PackagesFail before client code message) (same : before.SameContents after) :
    PackagesFail after client code message := by
  cases fail with
  | providers denied => exact .providers (denied.of_sameContents same)
  | revisions listed denied =>
      rw [← same.listing] at listed
      exact .revisions listed (denied.of_sameContents same)

/-- Nothing is collected when the packages cannot be listed. -/
theorem collectManaged_of_packagesFail
    (fail : PackagesFail site.fleet handle.client code message)
    (genuine : ¬ SaysAbsent message) :
    (site.collectManaged handle).1 = .error (.cluster (.api code message)) := by
  have typed : (site.managedTypes handle).1 = .error (.cluster (.api code message)) := by
    unfold managedTypes
    cases fail with
    | providers denied =>
        have answer := listPackages_of_denies (by decide) denied genuine
        split <;> rename_i call <;> rw [call] at answer <;> cases answer
        rfl
    | revisions listed denied =>
        have found := (site.listPackages_fst handle Crossplane.providers (by decide)).trans listed
        have same := (site.listPackages_evolves handle Crossplane.providers).sameContents
        split <;> rename_i call <;> rw [call] at found same <;> cases found
        have answer :=
          listPackages_of_denies (by decide) (denied.of_sameContents same) genuine
        split <;> rename_i call <;> rw [call] at answer <;> cases answer
        rfl
  unfold collectManaged
  split <;> rename_i call <;> rw [call] at typed <;> cases typed
  rfl

/-- Nothing is managed where there is no provider. -/
theorem collectManaged_of_no_providers {revisions definitions : List Json}
    (finds : Finds site.fleet handle.client [] revisions definitions) :
    (site.collectManaged handle).1 = .ok [] := by
  have unmanaged : Managed.types [] revisions definitions = [] := by
    refine List.eq_nil_iff_forall_not_mem.mpr fun type present => ?_
    obtain ⟨_, _, provided, _⟩ := (Managed.mem_types [] revisions).mp present
    rcases provided with ⟨provider, absurd, _⟩ | ⟨_, _, _, _, ⟨provider, absurd, _⟩, _⟩
    · cases absurd
    · cases absurd
  rw [collectManaged_eq finds, unmanaged]
  exact congrArg _ List.mergeSort_nil

end Site

/-! ## Requests -/

namespace Lens

variable {lens : Lens} {code : Nat} {message : String}

/-- Whether a list that a request asks for is answered with an error status. -/
def ListFails (lens : Lens) (request : ListRequest) (code : Nat) (message : String) : Prop :=
  ∃ gv handle, request.check = .ok gv ∧ (lens.site.resolve request.context?).1 = .ok handle ∧
    handle.client.Denies lens.site.fleet
      (lens.site.meant handle.client gv request.kind request.plural?) code message

theorem list_of_fails {request : ListRequest} (fails : lens.ListFails request code message) :
    (lens.list request).1 =
      if (ClusterError.api code message).isNotFound then .ok .empty
      else .error (.cluster (.api code message)) := by
  obtain ⟨gv, handle, checked, found, denies⟩ := fails
  have same := (lens.site.resolve_evolves request.context?).sameContents
  have later := denies.of_sameContents same
  rw [← lens.site.meant_resolve request.context?] at later
  unfold Lens.list Site.list
  rw [checked]
  rcases resolved : lens.site.resolve request.context? with ⟨answer, site⟩
  rw [resolved] at found later
  cases found
  exact Site.listOn_of_denies later

variable {clock : Nat} {context? : Option String} {force : Bool} {handle : Handle}

theorem managedOver_of_error (lens : Lens) {error : ServiceError}
    (failed : (lens.site.collectManaged handle).1 = .error error) :
    (lens.managedOver handle clock force).2.cache = lens.cache ∧
      (lens.managedOver handle clock force).1 =
        match lens.kept? handle.context clock force with
        | some kept => .ok ⟨kept.items, true, kept.fetchedAt⟩
        | none => .error error := by
  unfold managedOver
  cases lens.kept? handle.context clock force with
  | some kept => exact ⟨rfl, rfl⟩
  | none =>
      dsimp only
      split <;> rename_i call <;> rw [call] at failed <;> cases failed
      exact ⟨rfl, rfl⟩

theorem managedOver_of_collected (lens : Lens) {items : List Json}
    (unkept : lens.kept? handle.context clock force = none)
    (collected : (lens.site.collectManaged handle).1 = .ok items) :
    (lens.managedOver handle clock force).2.cache =
        Assoc.put lens.cache handle.context ⟨items, clock⟩ ∧
      (lens.managedOver handle clock force).1 = .ok ⟨items, false, clock⟩ := by
  unfold managedOver
  rw [unkept]
  dsimp only
  split <;> rename_i call <;> rw [call] at collected <;> cases collected
  exact ⟨rfl, rfl⟩

/-- When a list is answered with an error status, whoever asked for it gets the error.  When the
packages cannot be listed, so does whoever asks for managed objects that are not kept, and what is
kept stays.  This holds for all texts but those that say that something does not exist. -/
theorem failure_told (lens : Lens) (code : Nat) {message : String}
    (genuine : ¬ SaysAbsent message) :
    (∀ request, lens.ListFails request code message →
      (lens.list request).1 = .error (.cluster (.api code message))) ∧
    ∀ clock context? force handle, (lens.site.resolve context?).1 = .ok handle →
      Site.PackagesFail lens.site.fleet handle.client code message →
      (lens.managed clock context? force).2.cache = lens.cache ∧
      (lens.managed clock context? force).1 =
        match lens.kept? handle.context clock force with
        | some kept => .ok ⟨kept.items, true, kept.fetchedAt⟩
        | none => .error (.cluster (.api code message)) := by
  constructor
  · intro request fails
    rw [list_of_fails fails, if_neg (mt (ClusterError.isNotFound_api_iff code).mp genuine)]
  · intro clock context? force handle found fail
    have same := (lens.site.resolve_evolves context?).sameContents
    have failed := Site.collectManaged_of_packagesFail (fail.of_sameContents same) genuine
    rw [managed_of_found found]
    exact managedOver_of_error { lens with site := (lens.site.resolve context?).2 } failed

/-- An error status whose text says that something does not exist is taken for absence.  The list is
empty, and so is a collection when it answers the list of the providers.  This collection is kept. -/
theorem failure_hidden (lens : Lens) (code : Nat) {message : String}
    (absent : SaysAbsent message) :
    (∀ request, lens.ListFails request code message → (lens.list request).1 = .ok .empty) ∧
    ∀ clock context? force handle revisions definitions,
      (lens.site.resolve context?).1 = .ok handle →
      handle.client.Denies lens.site.fleet Crossplane.providers code message →
      Site.readAs (handle.client.listing lens.site.fleet Crossplane.providerRevisions) =
        .ok revisions →
      handle.client.listing lens.site.fleet .customResourceDefinitions = .ok definitions →
      lens.kept? handle.context clock force = none →
      (lens.managed clock context? force).2.cache =
          Assoc.put lens.cache handle.context ⟨[], clock⟩ ∧
        (lens.managed clock context? force).1 = .ok ⟨[], false, clock⟩ := by
  have counted := (ClusterError.isNotFound_api_iff code).mpr absent
  constructor
  · intro request fails
    rw [list_of_fails fails, if_pos counted]
  · intro clock context? force handle revisions definitions found denied owned defined unkept
    have nothing : Site.readAs (handle.client.listing lens.site.fleet Crossplane.providers) =
        .ok [] := by
      rw [denied.listing]
      exact if_pos counted
    have same := (lens.site.resolve_evolves context?).sameContents
    have finds : Site.Finds lens.site.fleet handle.client [] revisions definitions :=
      ⟨nothing, owned, defined⟩
    have collected := Site.collectManaged_of_no_providers (finds.of_sameContents same)
    rw [managed_of_found found]
    exact managedOver_of_collected { lens with site := (lens.site.resolve context?).2 }
      unkept collected

/-- A service whose only context fails to list providers. -/
def withoutProviders (message : String) : Lens :=
  let cluster : Cluster :=
    { types := [ResourceType.customResourceDefinitions.shelfKey]
      listFailures := [(Crossplane.providers.plural, message)] }
  (onHost (.defaults none) (.storing ["dev"])).run [.reshape "dev" cluster]

/-- A list of providers. -/
def providersRequest : ListRequest :=
  { apiVersion := "pkg.crossplane.io/v1", kind := "Provider", plural? := some "providers",
    context? := some "dev" }

theorem withoutProviders_denies (message : String) :
    Client.Denies { context := "dev" } (withoutProviders message).site.fleet Crossplane.providers
      500 message :=
  Client.denies_of_listFailures rfl rfl

theorem withoutProviders_fails (message : String) :
    (withoutProviders message).ListFails providersRequest 500 message :=
  ⟨⟨"pkg.crossplane.io", "v1"⟩, ⟨"dev", { context := "dev" }⟩, by decide +kernel, rfl,
    withoutProviders_denies message⟩

/-- The providers cannot be listed in time. -/
theorem failure_told_timeout :
    let message := "etcdserver: request timed out"
    let lens := withoutProviders message
    ¬ SaysAbsent message ∧
      (lens.list providersRequest).1 = .error (.cluster (.api 500 message)) ∧
      (lens.managed 5 (some "dev") true).1 = .error (.cluster (.api 500 message)) ∧
      (lens.managed 5 (some "dev") true).2.cache = [] := by
  intro message lens
  have genuine : ¬ SaysAbsent message := by decide
  obtain ⟨list, managed⟩ := failure_told lens 500 genuine
  obtain ⟨cache, answer⟩ := managed 5 (some "dev") true ⟨"dev", { context := "dev" }⟩ rfl
    (.providers (withoutProviders_denies message))
  exact ⟨genuine, list _ (withoutProviders_fails message), answer, cache⟩

/-- A backend that does not exist is taken for providers that do not exist. -/
theorem failure_hidden_backend :
    let message := "the backend does not exist"
    let lens := withoutProviders message
    lens.ListFails providersRequest 500 message ∧
      Site.PackagesFail lens.site.fleet { context := "dev" } 500 message ∧
      (lens.list providersRequest).1 = .ok .empty ∧
      (lens.managed 5 (some "dev") true).1 = .ok ⟨[], false, 5⟩ ∧
      (lens.managed 5 (some "dev") true).2.cache = [("dev", ⟨[], 5⟩)] := by
  intro message lens
  have absent : SaysAbsent message := by decide
  obtain ⟨list, managed⟩ := failure_hidden lens 500 absent
  have denied := withoutProviders_denies message
  obtain ⟨cache, answer⟩ := managed 5 (some "dev") true ⟨"dev", { context := "dev" }⟩ [] [] rfl
    denied rfl rfl rfl
  have fails := withoutProviders_fails message
  exact ⟨fails, .providers denied, list _ fails, answer, cache⟩

end Lens
end KubeLens
