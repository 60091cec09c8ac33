import KubeLens.Managed.Collection

/-!
# Which definitions are managed

Owners, providers and managed types as relations between documents, and their agreement with the
functions that read them.  Documents may be anything: what is malformed names no owner, has no
name, or declares no type.
-/

namespace KubeLens
namespace Managed

/-! ## Relations -/

/-- Whether a document has this name. -/
def IsNamed (document : Json) (name : String) : Prop :=
  document.at? ["metadata", "name"] = some (.str name)

/-- Whether a document names an owner of a kind among the packages. -/
def NamesOwner (document : Json) (kind name : String) : Prop :=
  ∃ references owner,
    document.at? ["metadata", "ownerReferences"] = some (.arr references) ∧
    owner ∈ references ∧
    owner.member? "apiVersion" = some (.str "pkg.crossplane.io/v1") ∧
    owner.member? "kind" = some (.str kind) ∧
    owner.member? "name" = some (.str name)

/-- Whether a document is owned by one of some providers. -/
def OwnedByProvider (providers : List Json) (document : Json) : Prop :=
  ∃ provider ∈ providers, ∃ name, IsNamed provider name ∧ NamesOwner document "Provider" name

/-- Whether a document is owned by a revision that one of some providers owns. -/
def OwnedByRevision (providers revisions : List Json) (document : Json) : Prop :=
  ∃ revision ∈ revisions, ∃ name, IsNamed revision name ∧ OwnedByProvider providers revision ∧
    NamesOwner document "ProviderRevision" name

/-- Whether a definition belongs to a provider, directly or by a revision. -/
def Provided (providers revisions : List Json) (definition : Json) : Prop :=
  OwnedByProvider providers definition ∨ OwnedByRevision providers revisions definition

/-- The version that a definition's spec declares: that of its first version, or else its own, or
else the empty one. -/
inductive Versioned (spec : Json) : String → Prop
  | listed (version : String) (first : spec.at? ["versions", "0", "name"] = some (.str version)) :
      Versioned spec version
  | single (version : String)
      (unlisted : ∀ first, spec.at? ["versions", "0", "name"] ≠ some (.str first))
      (own : spec.member? "version" = some (.str version)) : Versioned spec version
  | missing (unlisted : ∀ first, spec.at? ["versions", "0", "name"] ≠ some (.str first))
      (unversioned : ∀ own, spec.member? "version" ≠ some (.str own)) : Versioned spec ""

/-- Whether a definition declares a managed type. -/
structure Declares (definition : Json) (type : ResourceType) : Prop where
  declared : ∃ spec names,
    definition.member? "spec" = some spec ∧ spec.member? "names" = some names ∧
    spec.member? "group" = some (.str type.group) ∧
    names.member? "kind" = some (.str type.kind) ∧
    names.member? "plural" = some (.str type.plural) ∧
    ∃ version, Versioned spec version ∧ type.version = if version = "" then "v1" else version
  group_filled : type.group ≠ ""
  kind_filled : type.kind ≠ ""
  plural_filled : type.plural ≠ ""
  not_config : type.kind ≠ "ProviderConfig" ∧ type.kind ≠ "ProviderConfigUsage"

/-- Whether an item is what an object becomes when it gets the `apiVersion` and kind of a type. -/
structure Labels (type : ResourceType) (object item : Json) : Prop where
  members : ∀ before, object = .obj before → ∃ after, item = .obj after ∧
    Assoc.get? after "apiVersion" = some (.str type.apiVersion) ∧
    Assoc.get? after "kind" = some (.str type.kind) ∧
    ∀ key, key ≠ "apiVersion" → key ≠ "kind" → Assoc.get? after key = Assoc.get? before key
  other : (∀ before, object ≠ .obj before) → item = object

/-! ## Owners -/

theorem asStr?_eq_some {value : Json} {text : String} :
    value.asStr? = some text ↔ value = .str text := by
  cases value <;> simp [Json.asStr?]

theorem memberStr?_eq_some {value : Json} {key text : String} :
    value.memberStr? key = some text ↔ value.member? key = some (.str text) := by
  unfold Json.memberStr?
  rw [Option.bind_eq_some_iff]
  constructor
  · rintro ⟨member, found, isText⟩
    rw [found, asStr?_eq_some.mp isText]
  · intro found
    exact ⟨_, found, rfl⟩

theorem strAt?_eq_some {value : Json} {path : List String} {text : String} :
    value.strAt? path = some text ↔ value.at? path = some (.str text) := by
  unfold Json.strAt?
  rw [Option.bind_eq_some_iff]
  constructor
  · rintro ⟨member, found, isText⟩
    rw [found, asStr?_eq_some.mp isText]
  · intro found
    exact ⟨_, found, rfl⟩

theorem isNamed_iff {document : Json} {name : String} :
    document.objectName? = some name ↔ IsNamed document name :=
  strAt?_eq_some

theorem ofJson?_eq_some {value : Json} {owner : Owner} :
    Owner.ofJson? value = some owner ↔
      value.member? "apiVersion" = some (.str owner.apiVersion) ∧
      value.member? "kind" = some (.str owner.kind) ∧
      value.member? "name" = some (.str owner.name) := by
  rw [← memberStr?_eq_some, ← memberStr?_eq_some, ← memberStr?_eq_some]
  unfold Owner.ofJson?
  simp only [Option.bind_eq_bind, Option.bind_eq_some_iff, Option.some.injEq]
  constructor
  · rintro ⟨_, apiVersion, _, kind, _, name, rfl⟩
    exact ⟨apiVersion, kind, name⟩
  · rintro ⟨apiVersion, kind, name⟩
    exact ⟨_, apiVersion, _, kind, _, name, rfl⟩

theorem asArr?_eq_some {value : Json} {items : List Json} :
    value.asArr? = some items ↔ value = .arr items := by
  cases value <;> simp [Json.asArr?]

theorem mem_owners {document : Json} {owner : Owner} :
    owner ∈ owners document ↔ ∃ references value,
      document.at? ["metadata", "ownerReferences"] = some (.arr references) ∧
      value ∈ references ∧ Owner.ofJson? value = some owner := by
  unfold owners
  rw [List.mem_filterMap]
  cases found : document.at? ["metadata", "ownerReferences"] with
  | none => simp
  | some member =>
      rw [Option.bind_some]
      cases listed : member.asArr? with
      | none =>
          have noList : ∀ references, member ≠ .arr references := fun references equal => by
            rw [asArr?_eq_some.mpr equal] at listed
            cases listed
          simp [noList]
      | some references =>
          rw [asArr?_eq_some.mp listed]
          simp

/-- A document names an owner when that owner is among those read from it. -/
theorem namesOwner_iff {document : Json} {kind name : String} :
    NamesOwner document kind name ↔
      ⟨Crossplane.packageApiVersion, kind, name⟩ ∈ owners document := by
  rw [mem_owners]
  unfold NamesOwner
  simp only [ofJson?_eq_some]
  rfl

theorem isProviderIn_iff {owner : Owner} {names : List String} :
    owner.isProviderIn names = true ↔
      ∃ name ∈ names, owner = ⟨Crossplane.packageApiVersion, "Provider", name⟩ := by
  obtain ⟨apiVersion, kind, name⟩ := owner
  unfold Owner.isProviderIn
  simp only [Bool.and_eq_true, beq_iff_eq, List.contains_iff_mem, Owner.mk.injEq]
  constructor
  · rintro ⟨⟨rfl, rfl⟩, present⟩
    exact ⟨name, present, rfl, rfl, rfl⟩
  · rintro ⟨_, present, rfl, rfl, rfl⟩
    exact ⟨⟨rfl, rfl⟩, present⟩

/-! ## Providers -/

/-- The names of providers. -/
theorem mem_names {providers : List Json} {name : String} :
    name ∈ providers.filterMap Json.objectName? ↔
      ∃ provider ∈ providers, IsNamed provider name := by
  rw [List.mem_filterMap]
  simp only [isNamed_iff]

theorem any_isProviderIn_iff {providers : List Json} {document : Json} :
    ((owners document).any (·.isProviderIn (providers.filterMap Json.objectName?))) = true ↔
      OwnedByProvider providers document := by
  rw [List.any_eq_true]
  unfold OwnedByProvider
  constructor
  · rintro ⟨owner, present, isProvider⟩
    obtain ⟨name, known, rfl⟩ := isProviderIn_iff.mp isProvider
    obtain ⟨provider, stored, named⟩ := mem_names.mp known
    exact ⟨provider, stored, name, named, namesOwner_iff.mpr present⟩
  · rintro ⟨provider, stored, name, named, owned⟩
    exact ⟨_, namesOwner_iff.mp owned,
      isProviderIn_iff.mpr ⟨name, mem_names.mpr ⟨provider, stored, named⟩, rfl⟩⟩

/-- The names of the revisions that a provider owns. -/
theorem mem_ownedRevisions {providers revisions : List Json} {name : String} :
    name ∈ ownedRevisions (providers.filterMap Json.objectName?) revisions ↔
      ∃ revision ∈ revisions, IsNamed revision name ∧ OwnedByProvider providers revision := by
  unfold ownedRevisions
  rw [List.mem_filterMap]
  apply exists_congr
  intro revision
  apply and_congr_right
  intro _
  unfold ownedRevision?
  rw [← isNamed_iff, ← any_isProviderIn_iff]
  simp only [Option.bind_eq_bind, Option.bind_eq_some_iff]
  constructor
  · rintro ⟨own, named, kept⟩
    split at kept
    · rename_i owned
      cases kept
      exact ⟨named, owned⟩
    · cases kept
  · rintro ⟨named, owned⟩
    exact ⟨name, named, if_pos owned⟩

/-- A definition is taken for provided exactly when it is. -/
theorem isProvided_iff {providers revisions : List Json} {definition : Json} :
    isProvided (providers.filterMap Json.objectName?)
        (ownedRevisions (providers.filterMap Json.objectName?) revisions) definition = true ↔
      Provided providers revisions definition := by
  unfold isProvided Provided
  rw [← any_isProviderIn_iff, List.any_eq_true, List.any_eq_true]
  constructor
  · rintro ⟨owner, present, among⟩
    rcases Bool.or_eq_true_iff.mp among with isProvider | isRevision
    · exact .inl ⟨owner, present, isProvider⟩
    · obtain ⟨apiVersion, kind, name⟩ := owner
      simp only [Bool.and_eq_true, beq_iff_eq, List.contains_iff_mem] at isRevision
      obtain ⟨⟨rfl, rfl⟩, known⟩ := isRevision
      obtain ⟨revision, stored, named, owned⟩ := mem_ownedRevisions.mp known
      exact .inr ⟨revision, stored, name, named, owned, namesOwner_iff.mpr present⟩
  · rintro (⟨owner, present, isProvider⟩ | ⟨revision, stored, name, named, owned, names⟩)
    · exact ⟨owner, present, Bool.or_eq_true_iff.mpr (.inl isProvider)⟩
    · refine ⟨_, namesOwner_iff.mp names, Bool.or_eq_true_iff.mpr (.inr ?_)⟩
      simpa using mem_ownedRevisions.mpr ⟨revision, stored, named, owned⟩

/-! ## Types -/

theorem filled?_eq_some {value : Json} {key text : String} :
    filled? value key = some text ↔ value.member? key = some (.str text) ∧ text ≠ "" := by
  unfold filled?
  rw [Option.filter_eq_some_iff, memberStr?_eq_some]
  simp

/-- A spec declares one version. -/
theorem versioned_iff {spec : Json} {text : String} :
    Versioned spec text ↔
      ((spec.strAt? ["versions", "0", "name"]).or (spec.memberStr? "version")).getD "" = text := by
  have strAt?_eq_none : (∀ first, spec.at? ["versions", "0", "name"] ≠ some (.str first)) ↔
      spec.strAt? ["versions", "0", "name"] = none := by
    rw [Option.eq_none_iff_forall_ne_some]
    exact forall_congr' fun first => not_congr strAt?_eq_some.symm
  have memberStr?_eq_none : (∀ own, spec.member? "version" ≠ some (.str own)) ↔
      spec.memberStr? "version" = none := by
    rw [Option.eq_none_iff_forall_ne_some]
    exact forall_congr' fun own => not_congr memberStr?_eq_some.symm
  constructor
  · intro versioned
    cases versioned with
    | listed _ first =>
        rw [strAt?_eq_some.mpr first]
        rfl
    | single _ unlisted own =>
        rw [strAt?_eq_none.mp unlisted, memberStr?_eq_some.mpr own]
        rfl
    | missing unlisted unversioned =>
        rw [strAt?_eq_none.mp unlisted, memberStr?_eq_none.mp unversioned]
        rfl
  · rintro rfl
    cases listed : spec.strAt? ["versions", "0", "name"] with
    | some first => exact .listed first (strAt?_eq_some.mp listed)
    | none =>
        have unlisted := strAt?_eq_none.mpr listed
        cases versioned : spec.memberStr? "version" with
        | some own => exact .single own unlisted (memberStr?_eq_some.mp versioned)
        | none => exact .missing unlisted (memberStr?_eq_none.mpr versioned)

/-- The version of a spec is the declared one, unless that is empty. -/
theorem version_eq_iff {spec : Json} {text : String} :
    version spec = text ↔
      ∃ declared, Versioned spec declared ∧ text = if declared = "" then "v1" else declared := by
  have chosen : ∀ declared? : Option String, (declared?.filter (!·.isEmpty)).getD "v1" =
      if declared?.getD "" = "" then "v1" else declared?.getD "" := by
    intro declared?
    cases declared? with
    | none => rfl
    | some declared =>
        by_cases empty : declared = "" <;> simp [Option.filter_some, empty]
  unfold version
  rw [chosen]
  constructor
  · rintro rfl
    exact ⟨_, versioned_iff.mpr rfl, rfl⟩
  · rintro ⟨declared, versioned, rfl⟩
    rw [versioned_iff.mp versioned]

/-- A definition is read as a managed type exactly when it declares it. -/
theorem type?_eq_some_iff {definition : Json} {type : ResourceType} :
    type? definition = some type ↔ Declares definition type := by
  unfold type?
  simp only [Option.bind_eq_bind, Option.bind_eq_some_iff]
  constructor
  · rintro ⟨spec, foundSpec, group, foundGroup, names, foundNames, kind, foundKind, plural,
      foundPlural, made⟩
    rw [filled?_eq_some] at foundGroup foundKind foundPlural
    split at made
    · cases made
    · rename_i managed
      cases made
      refine ⟨⟨spec, names, foundSpec, foundNames, foundGroup.1, foundKind.1, foundPlural.1,
        version_eq_iff.mp rfl⟩, foundGroup.2, foundKind.2, foundPlural.2, ?_⟩
      simpa [Crossplane.configKinds, not_or] using managed
  · rintro ⟨⟨spec, names, foundSpec, foundNames, foundGroup, foundKind, foundPlural, versioned⟩,
      groupFilled, kindFilled, pluralFilled, managed⟩
    refine ⟨spec, foundSpec, type.group, filled?_eq_some.mpr ⟨foundGroup, groupFilled⟩, names,
      foundNames, type.kind, filled?_eq_some.mpr ⟨foundKind, kindFilled⟩, type.plural,
      filled?_eq_some.mpr ⟨foundPlural, pluralFilled⟩, ?_⟩
    rw [version_eq_iff.mpr versioned, if_neg]
    simpa [Crossplane.configKinds, not_or] using managed

/-- Labelling an object changes its `apiVersion` and its kind, and nothing else. -/
theorem labels_labelled (type : ResourceType) (object : Json) :
    Labels type object (labelled type object) := by
  refine ⟨?_, fun noObject => ?_⟩
  · rintro before rfl
    refine ⟨_, rfl, ?_, Assoc.get?_put_self _ _ _, fun key notVersion notKind => ?_⟩
    · rw [Assoc.get?_put_of_ne _ _ (by decide), Assoc.get?_put_self]
    · rw [Assoc.get?_put_of_ne _ _ (Ne.symm notKind), Assoc.get?_put_of_ne _ _ (Ne.symm notVersion)]
  · unfold labelled
    cases object with
    | obj before => exact absurd rfl (noObject before)
    | _ => rfl

end Managed
end KubeLens
