import KubeLens.Proofs.Managed.Ownership
import Mathlib.Data.List.Perm.Basic
import Mathlib.Data.Prod.Lex
import Mathlib.Data.String.Basic

/-!
# The order of a collection

Objects are ordered by their places, lexicographically, and those with the same place stay in
their order.  So the arrangement depends only on the objects of each place in turn.  Objects of
different types have different places when the types have different labels; hence it does not
matter in which order the types come.
-/

namespace KubeLens
namespace Managed

/-! ## Stable sorting -/

section Stable

variable {α κ : Type} [LinearOrder κ] {key : α → κ} {le : α → α → Bool} {first second : List α}

theorem mem_iff_of_filter_eq
    (same : ∀ k, first.filter (key · = k) = second.filter (key · = k)) (a : α) :
    a ∈ first ↔ a ∈ second := by
  have both := congrArg (a ∈ ·) (same (key a))
  simpa using both

/-- Sorted lists that have the same elements for each key, in the same order, are the same. -/
theorem eq_of_filter_eq (sortedFirst : first.Pairwise fun a b => key a ≤ key b)
    (sortedSecond : second.Pairwise fun a b => key a ≤ key b)
    (same : ∀ k, first.filter (key · = k) = second.filter (key · = k)) : first = second := by
  induction first generalizing second with
  | nil =>
      have mem_iff := mem_iff_of_filter_eq same
      refine (List.eq_nil_iff_forall_not_mem.mpr fun a present => ?_).symm
      exact List.not_mem_nil ((mem_iff a).mpr present)
  | cons a rest ih =>
      have mem_iff := mem_iff_of_filter_eq same
      cases second with
      | nil => exact absurd ((mem_iff a).mp List.mem_cons_self) List.not_mem_nil
      | cons b others =>
          -- The heads have the least key, and the first element with that key is the same.
          have below : key a ≤ key b := by
            rcases List.mem_cons.mp ((mem_iff b).mpr List.mem_cons_self) with rfl | later
            · exact le_refl _
            · exact (List.pairwise_cons.mp sortedFirst).1 b later
          have above : key b ≤ key a := by
            rcases List.mem_cons.mp ((mem_iff a).mp List.mem_cons_self) with rfl | later
            · exact le_refl _
            · exact (List.pairwise_cons.mp sortedSecond).1 a later
          have level : key a = key b := le_antisymm below above
          obtain rfl : a = b := by
            have heads := same (key a)
            rw [List.filter_cons_of_pos (by simp), List.filter_cons_of_pos (by simp [level])]
              at heads
            exact (List.cons.inj heads).1
          have rests : ∀ k, rest.filter (key · = k) = others.filter (key · = k) := by
            intro k
            have both := same k
            by_cases here : key a = k
            · simpa [here] using both
            · simpa [here] using both
          rw [ih (List.pairwise_cons.mp sortedFirst).2 (List.pairwise_cons.mp sortedSecond).2 rests]

variable (le_iff : ∀ a b, le a b = true ↔ key a ≤ key b)

include le_iff

theorem le_trans_of_le_iff (a b c : α) (earlier : le a b = true) (later : le b c = true) :
    le a c = true :=
  (le_iff a c).mpr (((le_iff a b).mp earlier).trans ((le_iff b c).mp later))

theorem le_total_of_le_iff (a b : α) : (le a b || le b a) = true := by
  rw [Bool.or_eq_true, le_iff, le_iff]
  exact le_total _ _

theorem pairwise_mergeSort_key (elements : List α) :
    (elements.mergeSort le).Pairwise fun a b => key a ≤ key b :=
  (List.pairwise_mergeSort (le_trans_of_le_iff le_iff) (le_total_of_le_iff le_iff) elements).imp
    fun {a b} ordered => (le_iff a b).mp ordered

/-- A stable sort keeps the order of the elements with the same key. -/
theorem filter_mergeSort (elements : List α) (k : κ) :
    (elements.mergeSort le).filter (key · = k) = elements.filter (key · = k) := by
  have level : (elements.filter (key · = k)).Pairwise fun a b => le a b = true := by
    refine List.pairwise_of_forall_mem_list fun a presentA b presentB => ?_
    have keyA : key a = k := by simpa using List.of_mem_filter presentA
    have keyB : key b = k := by simpa using List.of_mem_filter presentB
    rw [le_iff, keyA, keyB]
  have kept : (elements.filter (key · = k)).Sublist (elements.mergeSort le) :=
    List.sublist_mergeSort (le_trans_of_le_iff le_iff) (le_total_of_le_iff le_iff) level
      List.filter_sublist
  have within := kept.filter (key · = k)
  rw [List.filter_filter, funext fun a => Bool.and_self (decide (key a = k))] at within
  exact (within.eq_of_length
    ((List.mergeSort_perm elements le).filter (key · = k)).length_eq.symm).symm

theorem mergeSort_congr
    (same : ∀ k, first.filter (key · = k) = second.filter (key · = k)) :
    first.mergeSort le = second.mergeSort le := by
  refine eq_of_filter_eq (pairwise_mergeSort_key le_iff first)
    (pairwise_mergeSort_key le_iff second) fun k => ?_
  rw [filter_mergeSort le_iff, filter_mergeSort le_iff]
  exact same k

end Stable

/-! ## Places -/

/-- The texts of a place in the lexicographic order. -/
def Place.key (place : Place) : String ×ₗ String ×ₗ String ×ₗ String :=
  toLex (place.apiVersion, toLex (place.kind, toLex (place.space, place.name)))

/-- What an object is ordered by. -/
def sortKey (item : Json) : String ×ₗ String ×ₗ String ×ₗ String :=
  (Place.ofObject item).key

theorem textsLe_iff {a b : Place} : textsLe a.texts b.texts = true ↔ a.key ≤ b.key := by
  unfold Place.key Place.texts
  rw [Prod.Lex.toLex_le_toLex, Prod.Lex.toLex_le_toLex, Prod.Lex.toLex_le_toLex,
    @le_iff_lt_or_eq _ _ a.name]
  simp only [textsLe, Bool.or_eq_true, Bool.and_eq_true, decide_eq_true_eq, beq_iff_eq, and_true]

theorem itemLe_iff (a b : Json) : itemLe a b = true ↔ sortKey a ≤ sortKey b :=
  textsLe_iff

/-- A collection is sorted. -/
theorem arrange_sorted (batches : List (List Json)) :
    (arrange batches).Pairwise fun a b => sortKey a ≤ sortKey b :=
  pairwise_mergeSort_key itemLe_iff batches.flatten

/-! ## Types with different labels -/

/-- What the objects of a type are labelled with. -/
def label (type : ResourceType) : String × String :=
  (type.apiVersion, type.kind)

/-- What an object is labelled with. -/
def itemLabel (item : Json) : String × String :=
  ((Place.ofObject item).apiVersion, (Place.ofObject item).kind)

theorem itemLabel_eq_of_sortKey {a b : Json} (same : sortKey a = sortKey b) :
    itemLabel a = itemLabel b := by
  obtain ⟨apiVersion, rest⟩ := Prod.mk.inj (toLex.injective same)
  obtain ⟨kind, _⟩ := Prod.mk.inj (toLex.injective rest)
  exact Prod.ext apiVersion kind

theorem itemLabel_labelled (type : ResourceType) {document : Json} {members : Assoc String Json}
    (object : document = .obj members) : itemLabel (labelled type document) = label type := by
  obtain ⟨after, same, apiVersion, kind, _⟩ := (labels_labelled type document).members _ object
  have strAt : ∀ key text, Assoc.get? after key = some (.str text) →
      (labelled type document).strAt? [key] = some text := by
    intro key text found
    refine strAt?_eq_some.mpr ?_
    rw [same]
    simp [Json.at?, Json.step?, found]
  unfold itemLabel Place.ofObject
  rw [strAt _ _ apiVersion, strAt _ _ kind]
  rfl

/-- Objects with different labels have different places, so that their order does not matter. -/
theorem filter_append_comm {first second : List Json} {one other : String × String}
    (different : one ≠ other) (ones : ∀ item ∈ first, itemLabel item = one)
    (others : ∀ item ∈ second, itemLabel item = other)
    (key : String ×ₗ String ×ₗ String ×ₗ String) :
    (first ++ second).filter (sortKey · = key) = (second ++ first).filter (sortKey · = key) := by
  rw [List.filter_append, List.filter_append]
  by_cases none : first.filter (sortKey · = key) = []
  · rw [none, List.nil_append, List.append_nil]
  · obtain ⟨item, present⟩ := List.exists_mem_of_ne_nil _ none
    obtain ⟨presentFirst, itemKey⟩ := List.mem_filter.mp present
    have noOther : second.filter (sortKey · = key) = [] := by
      refine List.filter_eq_nil_iff.mpr fun another presentSecond anotherKey => different ?_
      rw [← ones item presentFirst, ← others another presentSecond]
      exact itemLabel_eq_of_sortKey
        ((of_decide_eq_true itemKey).trans (of_decide_eq_true anotherKey).symm)
    rw [noOther, List.nil_append, List.append_nil]

/-- When the types have different labels, it does not matter in which order they come. -/
theorem filter_flatten_perm {batch : ResourceType → List Json} {order types : List ResourceType}
    (perm : order.Perm types) (distinct : (order.map label).Nodup)
    (labels : ∀ type ∈ order, ∀ item ∈ batch type, itemLabel item = label type)
    (key : String ×ₗ String ×ₗ String ×ₗ String) :
    (order.map batch).flatten.filter (sortKey · = key) =
      (types.map batch).flatten.filter (sortKey · = key) := by
  induction perm with
  | nil => rfl
  | cons type perm ih =>
      simp only [List.map_cons, List.flatten_cons, List.filter_append]
      rw [ih (List.nodup_cons.mp distinct).2
        fun other present => labels other (List.mem_cons_of_mem _ present)]
  | swap first second rest =>
      have different : label second ≠ label first := by
        intro same
        exact (List.nodup_cons.mp distinct).1 (same ▸ List.mem_cons_self)
      have swapped := filter_append_comm different (labels second (by simp))
        (labels first (by simp)) key
      simp only [List.map_cons, List.flatten_cons, ← List.append_assoc]
      rw [List.filter_append, swapped, ← List.filter_append]
  | trans earlier later ihEarlier ihLater =>
      rw [ihEarlier distinct labels]
      exact ihLater ((earlier.map label).nodup_iff.mp distinct)
        fun type present => labels type (earlier.mem_iff.mpr present)

theorem arrange_perm {batch : ResourceType → List Json} {order types : List ResourceType}
    (perm : order.Perm types) (distinct : (types.map label).Nodup)
    (labels : ∀ type ∈ types, ∀ item ∈ batch type, itemLabel item = label type) :
    arrange (order.map batch) = arrange (types.map batch) :=
  mergeSort_congr itemLe_iff fun key =>
    (filter_flatten_perm perm.symm distinct labels key).symm

end Managed
end KubeLens
