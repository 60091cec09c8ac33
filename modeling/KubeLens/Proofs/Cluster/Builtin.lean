import KubeLens.Plurals
import KubeLens.Remote.Link

/-!
# The two ways to get an object of a builtin kind

An object of a builtin kind can be fetched by the kind or by the type of the kind.  When the kind
was looked up for the namespace of the object, it makes no difference: the same object is looked
for, and the same request is sent.
-/

namespace KubeLens

/-! ## Looking kinds up -/

namespace BuiltinKind

theorem named?_resourceType (builtin : BuiltinKind) :
    named? builtin.resourceType.apiVersion builtin.resourceType.kind = some builtin := by
  cases builtin <;> decide

/-- A kind has the type that it is looked up by. -/
theorem resourceType_of_named? {apiVersion kind : String} {builtin : BuiltinKind}
    (found : named? apiVersion kind = some builtin) :
    builtin.resourceType.apiVersion = apiVersion ∧ builtin.resourceType.kind = kind := by
  unfold named? at found
  split at found <;> cases found <;> decide

/-- A kind is found by its `apiVersion`, its name and whether its objects live in a namespace, and
by nothing else. -/
theorem lookup_eq_some_iff {apiVersion kind : String} {namespaced : Bool}
    {builtin : BuiltinKind} :
    lookup apiVersion kind namespaced = some builtin ↔
      builtin.resourceType.apiVersion = apiVersion ∧ builtin.resourceType.kind = kind ∧
        builtin.isNamespaced = namespaced := by
  unfold lookup
  rw [Option.filter_eq_some_iff, beq_iff_eq, ← and_assoc]
  refine and_congr_left fun _ => ⟨resourceType_of_named?, ?_⟩
  rintro ⟨rfl, rfl⟩
  exact builtin.named?_resourceType

/-- A guess at the plural of a builtin kind is right. -/
theorem plural_eq_naive (builtin : BuiltinKind) :
    builtin.resourceType.plural = Plurals.naive builtin.resourceType.kind := by
  cases builtin <;> decide +kernel

end BuiltinKind

variable {builtin : BuiltinKind} {space : Option String}

/-! ## In memory -/

namespace Cluster

/-- A kind is asked for in the namespace that it needs. -/
theorem builtinAnswer_of_fits (cluster : Cluster) (fits : builtin.isNamespaced = space.isSome)
    (name : String) :
    cluster.builtinAnswer builtin space name =
      cluster.getAnswer builtin.resourceType space name := by
  unfold builtinAnswer
  rw [fits]
  cases space <;> rfl

/-- A cluster that answers both gets answers them alike. -/
theorem get_eq_getBuiltin {cluster : Cluster} (unstalled : cluster.isStalled = false)
    (fits : builtin.isNamespaced = space.isSome) (name : String) :
    (cluster.get builtin.resourceType space name).1 =
      some (cluster.getBuiltin builtin space name).1 := by
  unfold Cluster.get Cluster.getBuiltin
  rw [unstalled, cluster.builtinAnswer_of_fits fits]
  rfl

end Cluster

/-! ## Over a wire -/

namespace Remote

/-- A request is sent if it can be written, whatever is read from the reply. -/
theorem Link.exchange_sent {α : Type} (link : Link) (request? : Option Request)
    (read : Json → Option α) :
    (link.exchange request? read).2.wire.sent = link.wire.sent ++ request?.toList := by
  unfold Link.exchange Wire.exchange
  cases request? with
  | none => simp
  | some request => rfl

/-- Both gets send the request for the path of the object. -/
theorem Link.get_sent (link : Link) (type : ResourceType) (space : Option String) (name : String) :
    (link.get type space name).2.wire.sent =
      link.wire.sent ++ (Request.get? type space name).toList :=
  link.exchange_sent _ anyObject

theorem Link.getBuiltin_sent (link : Link) (fits : builtin.isNamespaced = space.isSome)
    (name : String) :
    (link.getBuiltin builtin space name).2.wire.sent =
      link.wire.sent ++ (Request.get? builtin.resourceType space name).toList := by
  -- The form of each kind is kept where the type of the kind says.
  cases builtin with
  | namespaceObject | node | persistentVolume =>
      obtain rfl : space = none := by simpa [BuiltinKind.isNamespaced] using fits.symm
      exact link.exchange_sent _ _
  | _ =>
      obtain ⟨place, rfl⟩ := Option.isSome_iff_exists.mp fits.symm
      exact link.exchange_sent _ _

end Remote
end KubeLens
