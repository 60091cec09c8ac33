/-!
# Association lists

Finite maps as lists of pairs in insertion order.  The first pair of a key counts.  `put`
replaces the value of a present key where it stands and adds a new key at the end; `erase` drops
a key.  Each operation is described by what `get?` answers afterwards.
-/

namespace KubeLens

/-- A finite map that remembers the order in which its keys were added. -/
abbrev Assoc (κ ν : Type) := List (κ × ν)

namespace Assoc

variable {κ ν : Type} [DecidableEq κ]

/-- The value of a key. -/
def get? : Assoc κ ν → κ → Option ν
  | [], _ => none
  | (k, v) :: rest, key => if k = key then some v else get? rest key

/-- Whether a key is present. -/
def has (map : Assoc κ ν) (key : κ) : Bool :=
  (map.get? key).isSome

/-- Gives `key` the value `value`. -/
def put : Assoc κ ν → κ → ν → Assoc κ ν
  | [], key, value => [(key, value)]
  | (k, v) :: rest, key, value =>
    if k = key then (k, value) :: rest else (k, v) :: put rest key value

/-- Drops `key`. -/
def erase (map : Assoc κ ν) (key : κ) : Assoc κ ν :=
  map.filter fun entry => decide (entry.1 ≠ key)

/-- The keys in order. -/
def keys (map : Assoc κ ν) : List κ :=
  map.map (·.1)

@[simp] theorem get?_nil (key : κ) : get? ([] : Assoc κ ν) key = none := rfl

theorem get?_cons (entry : κ × ν) (map : Assoc κ ν) (key : κ) :
    get? (entry :: map) key = if entry.1 = key then some entry.2 else get? map key := rfl

@[simp] theorem get?_put_self (map : Assoc κ ν) (key : κ) (value : ν) :
    (map.put key value).get? key = some value := by
  induction map with
  | nil => simp [put, get?]
  | cons entry rest ih =>
    by_cases h : entry.1 = key
    · simp [put, h, get?]
    · simp [put, h, get?, ih]

theorem get?_put_of_ne (map : Assoc κ ν) {key other : κ} (value : ν) (ne : key ≠ other) :
    (map.put key value).get? other = map.get? other := by
  induction map with
  | nil => simp [put, get?, ne]
  | cons entry rest ih =>
    by_cases h : entry.1 = key
    · have : entry.1 ≠ other := fun e => ne (h.symm.trans e)
      simp [put, h, get?, ne]
    · by_cases h' : entry.1 = other
      · subst h'
        simp [put, h, get?]
      · simp [put, h, get?, h', ih]

@[simp] theorem get?_erase_self (map : Assoc κ ν) (key : κ) : (map.erase key).get? key = none := by
  induction map with
  | nil => rfl
  | cons entry rest ih =>
    by_cases h : entry.1 = key
    · simpa [erase, h] using ih
    · simp only [erase, ne_eq, decide_not] at ih ⊢
      rw [List.filter_cons]
      simp [h, get?, ih]

theorem get?_erase_of_ne (map : Assoc κ ν) {key other : κ} (ne : key ≠ other) :
    (map.erase key).get? other = map.get? other := by
  induction map with
  | nil => rfl
  | cons entry rest ih =>
    simp only [erase, ne_eq, decide_not] at ih ⊢
    rw [List.filter_cons]
    by_cases h : entry.1 = key
    · have : entry.1 ≠ other := fun e => ne (h.symm.trans e)
      simp [h, get?, ih, ne]
    · by_cases h' : entry.1 = other
      · subst h'
        simp [h, get?]
      · simp [h, get?, h', ih]

theorem mem_keys_of_get? {map : Assoc κ ν} {key : κ} {value : ν}
    (found : map.get? key = some value) : key ∈ map.keys := by
  induction map with
  | nil => simp at found
  | cons entry rest ih =>
    by_cases h : entry.1 = key
    · simp [keys, h]
    · have : key ∈ keys rest := ih (by simpa [get?, h] using found)
      simp only [keys, List.map_cons, List.mem_cons]
      exact .inr this

theorem mem_of_get? {map : Assoc κ ν} {key : κ} {value : ν}
    (found : map.get? key = some value) : (key, value) ∈ map := by
  induction map with
  | nil => simp at found
  | cons entry rest ih =>
    by_cases h : entry.1 = key
    · simp only [get?, h, if_true, Option.some.injEq] at found
      simp [← found, ← h]
    · exact List.mem_cons_of_mem _ (ih (by simpa [get?, h] using found))

theorem keys_put (map : Assoc κ ν) (key : κ) (value : ν) :
    (map.put key value).keys = if key ∈ map.keys then map.keys else map.keys ++ [key] := by
  induction map with
  | nil => rfl
  | cons entry rest ih =>
    simp only [keys] at ih
    by_cases same : entry.1 = key
    · simp [put, keys, same]
    · have different : key ≠ entry.1 := fun equal => same equal.symm
      by_cases present : key ∈ rest.map (·.1) <;>
        simp_all [put, keys]

/-- A new key is added at the end. -/
theorem put_of_not_mem {map : Assoc κ ν} {key : κ} (absent : key ∉ map.keys) (value : ν) :
    map.put key value = map ++ [(key, value)] := by
  induction map with
  | nil => rfl
  | cons entry rest ih =>
      obtain ⟨different, later⟩ := not_or.mp (mt List.mem_cons.mpr absent)
      rw [put, if_neg (Ne.symm different), ih later, List.cons_append]

theorem keys_put_nodup (map : Assoc κ ν) (key : κ) (value : ν) (nodup : map.keys.Nodup) :
    (map.put key value).keys.Nodup := by
  rw [keys_put]
  split
  · exact nodup
  · rename_i absent
    exact List.nodup_append.mpr
      ⟨nodup, by simp, fun other present _ last => by
        rintro rfl
        exact absent (List.mem_singleton.mp last ▸ present)⟩

theorem get?_eq_none_of_not_has {map : Assoc κ ν} {key : κ} (absent : map.has key = false) :
    map.get? key = none := by
  simpa [has] using absent

/-- An entry of a map with one more key is the new one, or was there before. -/
theorem mem_put {map : Assoc κ ν} {key : κ} {value : ν} {entry : κ × ν}
    (present : entry ∈ map.put key value) : entry = (key, value) ∨ entry ∈ map := by
  induction map with
  | nil => exact .inl (List.mem_singleton.mp present)
  | cons first rest ih =>
      unfold put at present
      split at present
      · rename_i same
        rcases List.mem_cons.mp present with rfl | later
        · rw [same]
          exact .inl rfl
        · exact .inr (List.mem_cons_of_mem _ later)
      · rcases List.mem_cons.mp present with rfl | later
        · exact .inr List.mem_cons_self
        · exact (ih later).imp_right (List.mem_cons_of_mem _)

theorem get?_put (map : Assoc κ ν) (key other : κ) (value : ν) :
    (map.put key value).get? other = if key = other then some value else map.get? other := by
  split
  · rename_i same
    rw [← same, get?_put_self]
  · rename_i different
    rw [get?_put_of_ne _ _ different]

theorem get?_erase (map : Assoc κ ν) (key other : κ) :
    (map.erase key).get? other = if key = other then none else map.get? other := by
  split
  · rename_i same
    rw [← same, get?_erase_self]
  · rename_i different
    rw [get?_erase_of_ne _ different]

theorem keys_erase_nodup {map : Assoc κ ν} (key : κ) (nodup : map.keys.Nodup) :
    (map.erase key).keys.Nodup :=
  nodup.sublist (List.filter_sublist.map _)

theorem get?_isSome_iff {map : Assoc κ ν} {key : κ} :
    (∃ value, map.get? key = some value) ↔ key ∈ map.keys := by
  constructor
  · rintro ⟨value, found⟩
    exact mem_keys_of_get? found
  · intro present
    induction map with
    | nil => cases present
    | cons entry rest ih =>
        rw [get?_cons]
        by_cases same : entry.1 = key
        · exact ⟨entry.2, if_pos same⟩
        · rw [if_neg same]
          refine ih ?_
          rcases List.mem_cons.mp present with equal | later
          · exact absurd equal.symm same
          · exact later

/-- A map whose keys are distinct answers with each of its entries. -/
theorem get?_of_mem {map : Assoc κ ν} {key : κ} {value : ν}
    (nodup : map.keys.Nodup) (present : (key, value) ∈ map) : map.get? key = some value := by
  induction map with
  | nil => cases present
  | cons entry rest ih =>
      obtain ⟨fresh, nodupRest⟩ := List.nodup_cons.mp nodup
      rw [get?_cons]
      rcases List.mem_cons.mp present with rfl | later
      · rw [if_pos rfl]
      · have different : entry.1 ≠ key := fun equal =>
          fresh (List.mem_map.mpr ⟨(key, value), later, equal.symm⟩)
        rw [if_neg different]
        exact ih nodupRest later

theorem get?_eq_some_iff {map : Assoc κ ν} {key : κ} {value : ν} (nodup : map.keys.Nodup) :
    map.get? key = some value ↔ (key, value) ∈ map :=
  ⟨mem_of_get?, get?_of_mem nodup⟩

/-- Where keys are distinct, the order of the entries does not count. -/
theorem get?_perm {map other : Assoc κ ν} (nodup : map.keys.Nodup) (perm : map.Perm other)
    (key : κ) : map.get? key = other.get? key := by
  have nodupOther : other.keys.Nodup := (perm.map _).nodup_iff.mp nodup
  ext value
  rw [get?_eq_some_iff nodup, get?_eq_some_iff nodupOther, perm.mem_iff]

end Assoc
end KubeLens
