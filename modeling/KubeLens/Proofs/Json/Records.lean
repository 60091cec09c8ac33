import KubeLens.Json.Record

/-!
# Records in any order

An object that holds the members of another one in any order, and further members under other names,
is the same record.
-/

namespace KubeLens
namespace Json

/-- Whether a value is an object with the members of another object, in any order, and further
members under none of these names. -/
def Extends (value : Json) (names : List String) (base : Json) : Prop :=
  ∃ members known extra, value = .obj members ∧ base = .obj known ∧
    members.Perm (known ++ extra) ∧ ∀ member ∈ extra, member.1 ∉ names

variable {value : Json} {names : List String} {known : Assoc String Json} {record : Record}
  {name : String}

theorem extends_self (names : List String) (known : Assoc String Json) :
    (Json.obj known).Extends names (.obj known) :=
  ⟨known, known, [], rfl, rfl, by rw [List.append_nil], nofun⟩

theorem filter_perm {members extra : Assoc String Json} {keep : String × Json → Bool}
    (perm : members.Perm (known ++ extra)) (inside : ∀ member ∈ known, keep member = true)
    (outside : ∀ member ∈ extra, keep member = false) : (members.filter keep).Perm known := by
  have kept := perm.filter keep
  have none : extra.filter keep = [] :=
    List.filter_eq_nil_iff.mpr fun member present => Bool.eq_false_iff.mp (outside member present)
  rwa [List.filter_append, List.filter_eq_self.mpr inside, none, List.append_nil] at kept

/-- The fields of the record are those of the base. -/
theorem record?_of_extends (extended : value.Extends names (.obj known))
    (named : ∀ key ∈ known.keys, key ∈ names) (nodup : known.keys.Nodup) :
    ∃ record, value.record? names = some record ∧
      ∀ name, record.get? name = known.get? name := by
  obtain ⟨members, _, extra, rfl, same, perm, foreign⟩ := extended
  cases same
  have fields : (members.filter fun member => names.contains member.1).Perm known :=
    filter_perm perm (fun member present => by simpa using named _ (List.mem_map_of_mem present))
      fun member present => by simpa using foreign member present
  have distinct : (Assoc.keys (members.filter fun member => names.contains member.1)).Nodup :=
    (fields.map _).nodup_iff.mpr nodup
  exact ⟨_, if_pos distinct, Assoc.get?_perm distinct fields⟩

namespace Record

theorem text_eq {text : String} (found : record.get? name = some (.str text)) :
    record.text name = some text := by
  rw [Record.text, found]

theorem optional_of_none {α : Type} (read : Json → Option α)
    (missing : record.get? name = none ∨ record.get? name = some .null) :
    record.optional name read = some none := by
  rw [optional]
  rcases missing with found | found <;> rw [found]

theorem optional_of_some {α : Type} (read : Json → Option α) {value : Json}
    (found : record.get? name = some value) (solid : value.isNull = false) :
    record.optional name read = (read value).map some := by
  rw [optional, found]
  cases value <;> trivial

theorem optionalText_eq {text? : Option String} (found : record.get? name = some (ofText? text?)) :
    record.optionalText name = some text? := by
  rw [optionalText, optional, found]
  cases text? <;> rfl

end Record

end Json
end KubeLens
