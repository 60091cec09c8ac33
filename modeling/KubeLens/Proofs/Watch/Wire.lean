import KubeLens.Proofs.Api.Page
import KubeLens.Proofs.Json.Accepting
import KubeLens.Proofs.Json.Records
import KubeLens.Watch.Control

/-!
# Control messages on the wire

A message is read from every text of an object with its members: however the text is laid out and
its strings are escaped, in whatever order the members stand and whatever other members there are.
The same holds of the descriptors that it carries.
-/

namespace KubeLens
namespace Watch

open Json

/-! ## Descriptors -/

namespace Descriptor

/-- Whether a value is an object with the fields of a descriptor, in any order, and further
members. -/
def Describes (descriptor : Descriptor) (value : Json) : Prop :=
  value.Extends fieldNames descriptor.toJson

variable {descriptor : Descriptor} {value : Json}

theorem describes_toJson (descriptor : Descriptor) : descriptor.Describes descriptor.toJson :=
  extends_self fieldNames _

theorem isDocument_toJson (depth : Nat) (descriptor : Descriptor) :
    descriptor.toJson.IsDocument (depth + 1) := by
  refine ⟨(by decide : fieldNames.Nodup), ?_⟩
  simp only [List.forall_mem_cons, List.not_mem_nil, false_implies, implies_true, and_true]
  exact ⟨isDocument_str, isDocument_str, isDocument_str, isDocument_ofText? _,
    isDocument_ofText? _⟩

theorem Describes.ofJson?_eq (describes : descriptor.Describes value) :
    ofJson? value = some descriptor := by
  obtain ⟨record, read, fields⟩ := record?_of_extends describes (fun _ present => present)
    (by decide : fieldNames.Nodup)
  have apiVersion := Record.text_eq (fields "apiVersion")
  have kind := Record.text_eq (fields "kind")
  have name := Record.text_eq (fields "name")
  have space := Record.optionalText_eq (fields "namespace")
  have plural := Record.optionalText_eq (fields "plural")
  simp only [ofJson?, read, bind, Option.bind, apiVersion, kind, name, space, plural]

theorem Describes.isNull_eq (describes : descriptor.Describes value) : value.isNull = false := by
  obtain ⟨members, -, -, rfl, -⟩ := describes
  rfl

end Descriptor

/-! ## Messages -/

namespace Control

/-- A request to watch the object that a value describes. -/
def subscribeOne (resource : Json) : Json :=
  .obj [("type", .str "subscribe"), ("resource", resource)]

/-- A request to watch exactly the objects that these values describe. -/
def subscribeAll (resources : List Json) : Json :=
  .obj [("type", .str "subscribe"), ("resources", .arr resources)]

/-- A request to stop watching the object that a value describes. -/
def unsubscribeOne (resource : Json) : Json :=
  .obj [("type", .str "unsubscribe"), ("resource", resource)]

variable {value resource : Json} {resources : List Json} {descriptor : Descriptor}
  {descriptors : List Descriptor}

/-- The kind of a message is found wherever its member stands, and the rest is the body. -/
theorem split?_of_extends {tag : String} {names : List String} {parts : Assoc String Json}
    (extended : value.Extends ("type" :: names) (.obj (("type", .str tag) :: parts)))
    (apart : "type" ∉ parts.keys) :
    ∃ body, split? value = some (tag, body) ∧ body.Extends names (.obj parts) := by
  obtain ⟨members, _, extra, rfl, same, perm, foreign⟩ := extended
  cases same
  have others : ∀ member ∈ parts ++ extra, (member.1 == "type") = false := by
    intro member present
    rw [beq_eq_false_iff_ne]
    rintro same
    rcases List.mem_append.mp present with part | further
    · exact apart (same ▸ List.mem_map_of_mem part)
    · exact foreign member further (same ▸ List.mem_cons_self)
  have kind : members.filter (fun member => member.1 == "type") = [("type", .str tag)] :=
    List.perm_singleton.mp (filter_perm perm (by simp) others)
  have last : members.Perm ((parts ++ extra) ++ [("type", .str tag)]) :=
    perm.trans (List.perm_append_singleton _ _).symm
  have body : (members.filter fun member => member.1 != "type").Perm (parts ++ extra) :=
    filter_perm last (by simpa using others) (by simp)
  refine ⟨_, ?_, _, parts, extra, rfl, rfl, body, fun member present inside =>
    foreign member present (List.mem_cons_of_mem _ inside)⟩
  rw [split?, kind]

/-- A message with one part besides its kind is a record with that part only. -/
theorem exists_record {tag name : String} {names : List String} {part : Json}
    (extended : value.Extends ("type" :: names) (.obj [("type", .str tag), (name, part)]))
    (apart : name ≠ "type") (named : name ∈ names) :
    ∃ body record, split? value = some (tag, body) ∧ body.record? names = some record ∧
      record.get? name = some part ∧ ∀ other ≠ name, record.get? other = none := by
  obtain ⟨body, split, rest⟩ := split?_of_extends extended (by simpa [Assoc.keys] using apart.symm)
  obtain ⟨record, read, fields⟩ := record?_of_extends rest (by simpa [Assoc.keys] using named)
    (by simp [Assoc.keys])
  refine ⟨body, record, split, read, ?_, fun other different => ?_⟩
  · rw [fields, Assoc.get?_cons, if_pos rfl]
  · rw [fields, Assoc.get?_cons, if_neg different.symm, Assoc.get?_nil]

theorem ofJson?_subscribeOne (describes : descriptor.Describes resource)
    (extended : value.Extends ["type", "resource", "resources"] (subscribeOne resource)) :
    ofJson? value = some (.subscribe (some descriptor) none) := by
  obtain ⟨body, record, split, read, found, missing⟩ :=
    exists_record extended (by decide) (by decide)
  have one := Record.optional_of_some Descriptor.ofJson? found describes.isNull_eq
  have all := Record.optional_of_none descriptors? (.inl (missing "resources" (by decide)))
  rw [describes.ofJson?_eq] at one
  simp only [ofJson?, split, read, one, all, bind, Option.bind, Option.map]

theorem descriptors?_of_describes
    (describe : List.Forall₂ Descriptor.Describes descriptors resources) :
    descriptors? (.arr resources) = some descriptors := by
  rw [descriptors?, asArr?, Option.bind_eq_bind, Option.bind_some]
  induction describe with
  | nil => rfl
  | cons first _ ih =>
      rw [List.mapM_cons, first.ofJson?_eq, ih]
      rfl

theorem ofJson?_subscribeAll
    (describe : List.Forall₂ Descriptor.Describes descriptors resources)
    (extended : value.Extends ["type", "resource", "resources"] (subscribeAll resources)) :
    ofJson? value = some (.subscribe none (some descriptors)) := by
  obtain ⟨body, record, split, read, found, missing⟩ :=
    exists_record extended (by decide) (by decide)
  have one := Record.optional_of_none Descriptor.ofJson?
    (.inl (missing "resource" (by decide)))
  have all := Record.optional_of_some descriptors? found rfl
  rw [descriptors?_of_describes describe] at all
  simp only [ofJson?, split, read, one, all, bind, Option.bind, Option.map]

theorem ofJson?_unsubscribeOne (describes : descriptor.Describes resource)
    (extended : value.Extends ["type", "resource"] (unsubscribeOne resource)) :
    ofJson? value = some (.unsubscribe (some descriptor)) := by
  obtain ⟨body, record, split, read, found, -⟩ :=
    exists_record extended (by decide) (by decide)
  have one := Record.optional_of_some Descriptor.ofJson? found describes.isNull_eq
  rw [describes.ofJson?_eq] at one
  simp only [ofJson?, split, read, one, bind, Option.bind, Option.map]

theorem read?_eq_of_isText {text : String} {message : Control}
    (spelled : IsText nestingLimit text value) (read : ofJson? value = some message) :
    read? text = some message := by
  rw [Control.read?, read?_of_isText spelled, Option.bind_some, read]

theorem isDocument_message {tag name : String} {part : Json} {depth : Nat} (apart : name ≠ "type")
    (document : part.IsDocument depth) :
    (Json.obj [("type", .str tag), (name, part)]).IsDocument (depth + 1) := by
  refine ⟨by simpa [Assoc.keys] using apart.symm, ?_⟩
  simp only [List.forall_mem_cons, List.not_mem_nil, false_implies, implies_true, and_true]
  exact ⟨isDocument_str, document⟩

theorem read?_subscribeOne (descriptor : Descriptor) :
    read? (subscribeOne descriptor.toJson).compact = some (.subscribe (some descriptor) none) :=
  read?_eq_of_isText
    (isText_compact (isDocument_message (by decide) (descriptor.isDocument_toJson 125)))
    (ofJson?_subscribeOne descriptor.describes_toJson (extends_self _ _))

theorem read?_subscribeAll (descriptors : List Descriptor) :
    read? (subscribeAll (descriptors.map Descriptor.toJson)).compact =
      some (.subscribe none (some descriptors)) := by
  have documents : (Json.arr (descriptors.map Descriptor.toJson)).IsDocument 126 :=
    List.forall_mem_map.mpr fun descriptor _ => descriptor.isDocument_toJson 124
  have describe : List.Forall₂ Descriptor.Describes descriptors
      (descriptors.map Descriptor.toJson) :=
    List.forall₂_map_right_iff.mpr (List.forall₂_same.mpr fun descriptor _ =>
      descriptor.describes_toJson)
  exact read?_eq_of_isText (isText_compact (isDocument_message (by decide) documents))
    (ofJson?_subscribeAll describe (extends_self _ _))

theorem read?_unsubscribeOne (descriptor : Descriptor) :
    read? (unsubscribeOne descriptor.toJson).compact = some (.unsubscribe (some descriptor)) :=
  read?_eq_of_isText
    (isText_compact (isDocument_message (by decide) (descriptor.isDocument_toJson 125)))
    (ofJson?_unsubscribeOne descriptor.describes_toJson (extends_self _ _))

end Control

/-- A request comes back from its compact text, and also from every text of an object with its
members, in whatever order they and those of the descriptors stand and whatever members under other
names are added.  The texts of a value are those that can be read and give this value; a document
has its compact text among them.  A page of documents comes back from its compact text. -/
theorem recovered_from_text :
    (∀ descriptor : Descriptor,
      Control.read? (Control.subscribeOne descriptor.toJson).compact =
        some (.subscribe (some descriptor) none)) ∧
    (∀ descriptors : List Descriptor,
      Control.read? (Control.subscribeAll (descriptors.map Descriptor.toJson)).compact =
        some (.subscribe none (some descriptors))) ∧
    (∀ descriptor : Descriptor,
      Control.read? (Control.unsubscribeOne descriptor.toJson).compact =
        some (.unsubscribe (some descriptor))) ∧
    (∀ descriptor resource value text, descriptor.Describes resource →
      value.Extends ["type", "resource", "resources"] (Control.subscribeOne resource) →
      IsText nestingLimit text value →
      Control.read? text = some (.subscribe (some descriptor) none)) ∧
    (∀ descriptors resources value text, List.Forall₂ Descriptor.Describes descriptors resources →
      value.Extends ["type", "resource", "resources"] (Control.subscribeAll resources) →
      IsText nestingLimit text value →
      Control.read? text = some (.subscribe none (some descriptors))) ∧
    (∀ descriptor resource value text, descriptor.Describes resource →
      value.Extends ["type", "resource"] (Control.unsubscribeOne resource) →
      IsText nestingLimit text value →
      Control.read? text = some (.unsubscribe (some descriptor))) ∧
    (∀ value text, IsText nestingLimit text value ↔ Json.read? text = some value) ∧
    (∀ value, IsDocument nestingLimit value → IsText nestingLimit value.compact value) ∧
    ∀ page : ObjectPage, page.Fits (nestingLimit - 2) →
      (Json.read? page.toJson.compact).bind ObjectPage.ofJson? = some page := by
  refine ⟨Control.read?_subscribeOne, Control.read?_subscribeAll, Control.read?_unsubscribeOne,
    ?_, ?_, ?_, fun _ _ => read?_eq_some_iff.symm, fun _ => isText_compact,
    fun _ => ObjectPage.read?_compact_toJson⟩
  · intro descriptor resource value text describes extended spelled
    exact Control.read?_eq_of_isText spelled (Control.ofJson?_subscribeOne describes extended)
  · intro descriptors resources value text describe extended spelled
    exact Control.read?_eq_of_isText spelled (Control.ofJson?_subscribeAll describe extended)
  · intro descriptor resource value text describes extended spelled
    exact Control.read?_eq_of_isText spelled (Control.ofJson?_unsubscribeOne describes extended)

/-- The members stand in another order, a blank and a member with a fraction are added, and a name
is escaped; and a page with an item inside which there are other containers. -/
theorem recovered_from_text_reordered :
    Control.read? ("\x7b\"note\": 1.5, \"resource\":\x7b\"apiVersion\":\"v1\",\"kind\":\"Pod\"," ++
      "\"name\":\"web\\n0\",\"namespace\":\"default\",\"plural\":null\x7d," ++
      "\"type\":\"subscribe\"\x7d") =
    some (.subscribe (some
      { apiVersion := "v1", kind := "Pod", name := "web\n0", rawSpace? := some "default" })
      none) ∧
    let page : ObjectPage :=
      { items := [.obj [("kind", .str "Pod"), ("ports", .arr [.int (-1), .null])]],
        continueToken := some "next", remaining := some 7 }
    (Json.read? page.toJson.compact).bind ObjectPage.ofJson? = some page := by
  obtain ⟨-, -, -, subscribed, -, -, -, -, paged⟩ := recovered_from_text
  constructor
  · let descriptor : Descriptor :=
      { apiVersion := "v1", kind := "Pod", name := "web\n0", rawSpace? := some "default" }
    have number : SpellsNumber ['1', '.', '5'] (.double (Double.ofDecimal false 15 (-1))) :=
      have whole : IsWhole ['1'] := ⟨⟨nofun, List.forall_mem_singleton.mpr rfl⟩, nofun⟩
      have fraction : SpellsFraction ['.', '5'] (some ['5']) :=
        .places ⟨nofun, List.forall_mem_singleton.mpr rfl⟩
      @SpellsNumber.double false _ _ _ _ _ _ whole fraction .absent nofun rfl (by decide +kernel)
    have content : Padded (Spells 126) ([' '] ++ (['1', '.', '5'] ++ []))
        (.double (Double.ofDecimal false 15 (-1))) :=
      .blanks (List.forall_mem_singleton.mpr rfl) (spells_of_scalar (.number number)) nofun
    have name : Padded SpellsString ([' '] ++ (writeString "resource" ++ [])) "resource" :=
      .blanks (List.forall_mem_singleton.mpr rfl) (spellsString_writeString "resource") nofun
    have note := SpellsMember.colon (.bare (spellsString_writeString "note")) content
    have resource := SpellsMember.colon name
      (.bare (spells_write (descriptor.isDocument_toJson 125)))
    have type : SpellsMember (Spells 126) (writeString "type" ++ ':' :: writeString "subscribe")
        ("type", .str "subscribe") :=
      .colon (.bare (spellsString_writeString "type"))
        (.bare (spells_of_scalar (.str (spellsString_writeString "subscribe"))))
    refine subscribed descriptor descriptor.toJson _ _ descriptor.describes_toJson
      ⟨_, _, [("note", .double (Double.ofDecimal false 15 (-1)))], rfl, rfl,
        List.reverse_perm _, by simp⟩
      (.bare (.inr (.inr ⟨_, _, .parts (.more note (.more resource (.last type))), ?_, rfl⟩)))
    decide +kernel
  · refine paged _ ⟨List.forall_mem_singleton.mpr ⟨by decide, ?_⟩, ?_⟩
    · rintro member (_ | ⟨_, _ | ⟨_, none⟩⟩)
      · trivial
      · rintro port (_ | ⟨_, _ | ⟨_, none⟩⟩)
        · exact ⟨by decide, by decide⟩
        · trivial
        · cases none
      · cases none
    · rintro count same
      cases same
      exact ⟨by decide, by decide⟩

end Watch
end KubeLens
