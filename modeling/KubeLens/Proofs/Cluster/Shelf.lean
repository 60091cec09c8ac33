import KubeLens.Cluster.Basic
import Mathlib.Data.Prod.Lex
import Mathlib.Data.String.Basic
import Mathlib.Order.WithBot

/-!
# Shelves in order

However a cluster was filled, each of its shelves holds one object for each key, in the order of
the keys, and the types of objects that it holds are known.  Then a list gives each stored object
of its namespace once, in this order.
-/

namespace KubeLens

/-! ## The order of keys -/

namespace ObjectKey

/-- A key as a pair: those without a namespace come first. -/
def rank (key : ObjectKey) : WithBot String ×ₗ String :=
  toLex (key.space, key.name)

theorem rank_injective : Function.Injective rank := by
  rintro ⟨space, name⟩ ⟨otherSpace, otherName⟩ same
  obtain ⟨rfl, rfl⟩ := Prod.mk.inj (toLex.injective same)
  rfl

theorem spaceBefore_iff (a b : Option String) :
    spaceBefore a b = true ↔ @LT.lt (WithBot String) _ a b := by
  cases a with
  | none =>
      cases b with
      | none => exact iff_of_false nofun (lt_irrefl (⊥ : WithBot String))
      | some b => exact iff_of_true rfl (WithBot.bot_lt_coe b)
  | some a =>
      cases b with
      | none => exact iff_of_false nofun (not_lt_bot (a := (a : WithBot String)))
      | some b => exact decide_eq_true_iff.trans WithBot.coe_lt_coe.symm

theorem before_iff {a b : ObjectKey} : a.before b = true ↔ a.rank < b.rank := by
  unfold before rank
  rw [Prod.Lex.toLex_lt_toLex, Bool.or_eq_true, Bool.and_eq_true, spaceBefore_iff, beq_iff_eq,
    decide_eq_true_iff]
  rfl

end ObjectKey

/-! ## Shelves -/

namespace Shelf

/-- Whether the objects of a shelf are in the order of their keys, one for each key. -/
def Ordered (shelf : Shelf) : Prop :=
  shelf.Pairwise fun a b => a.1.rank < b.1.rank

namespace Ordered

variable {shelf : Shelf}

theorem nil : Ordered [] := List.Pairwise.nil

theorem keys_nodup (ordered : shelf.Ordered) : (Assoc.keys shelf).Nodup :=
  List.Pairwise.map _ (fun _ _ less same => absurd (same ▸ less) (lt_irrefl _)) ordered

theorem mem_iff (ordered : shelf.Ordered) {key : ObjectKey} {document : Json} :
    (key, document) ∈ shelf ↔ Assoc.get? shelf key = some document :=
  ⟨Assoc.get?_of_mem ordered.keys_nodup, Assoc.mem_of_get?⟩

theorem erase (ordered : shelf.Ordered) (key : ObjectKey) : Ordered (Assoc.erase shelf key) :=
  ordered.filter _

/-- The keys after an insertion are those before it, and the one that was inserted. -/
theorem mem_insert {key : ObjectKey} {document : Json} {entry : ObjectKey × Json}
    (present : entry ∈ shelf.insert key document) : entry.1 = key ∨ entry ∈ shelf := by
  induction shelf with
  | nil => exact .inl (congrArg Prod.fst (List.mem_singleton.mp present))
  | cons first rest ih =>
      unfold Shelf.insert at present
      split at present
      · rcases List.mem_cons.mp present with rfl | later
        · exact .inl rfl
        · exact .inr (List.mem_cons_of_mem _ later)
      · split at present
        · rcases List.mem_cons.mp present with rfl | later
          · exact .inl rfl
          · exact .inr later
        · rcases List.mem_cons.mp present with rfl | later
          · exact .inr List.mem_cons_self
          · exact (ih later).imp_right (List.mem_cons_of_mem _)

/-- An object is put in its place. -/
theorem insert (ordered : shelf.Ordered) (key : ObjectKey) (document : Json) :
    (shelf.insert key document).Ordered := by
  induction shelf with
  | nil => exact List.pairwise_singleton _ _
  | cons first rest ih =>
      obtain ⟨least, orderedRest⟩ := List.pairwise_cons.mp ordered
      unfold Shelf.insert
      split
      · rename_i same
        exact List.pairwise_cons.mpr ⟨fun entry later => same ▸ least entry later, orderedRest⟩
      · rename_i different
        split
        · rename_i before
          have first_lt := ObjectKey.before_iff.mp before
          refine List.pairwise_cons.mpr ⟨fun entry later => ?_, ordered⟩
          rcases List.mem_cons.mp later with rfl | afterwards
          · exact first_lt
          · exact first_lt.trans (least entry afterwards)
        · rename_i notBefore
          have behind : first.1.rank < key.rank := by
            rcases lt_trichotomy first.1.rank key.rank with less | same | more
            · exact less
            · exact absurd (ObjectKey.rank_injective same) different
            · exact absurd (ObjectKey.before_iff.mpr more) notBefore
          refine List.pairwise_cons.mpr ⟨fun entry later => ?_, ih orderedRest⟩
          rcases mem_insert later with same | stored
          · rwa [same]
          · exact least entry stored

end Ordered
end Shelf

/-! ## Clusters -/

namespace Cluster

/-- A cluster that was filled by registering types and by inserting and removing objects, whatever
else became of it. -/
inductive Filled : Cluster → Prop
  | empty : Filled {}
  | register {cluster : Cluster} (filled : Filled cluster) (type : ResourceType) :
      Filled (cluster.register type)
  | insert {cluster : Cluster} (filled : Filled cluster) (type : ResourceType)
      (document : Json) : Filled (cluster.insert type document)
  | remove {cluster : Cluster} (filled : Filled cluster) (type : ResourceType)
      (key : ObjectKey) : Filled (cluster.remove type key)
  | other {before after : Cluster} (filled : Filled before) (types : after.types = before.types)
      (shelves : after.shelves = before.shelves) : Filled after

/-- A cluster with its shelves in order, and without objects of types that it does not know. -/
structure Stocked (cluster : Cluster) : Prop where
  ordered : ∀ type, (cluster.shelf type).Ordered
  known : ∀ type, cluster.shelf type ≠ [] → type.shelfKey ∈ cluster.types

variable {cluster : Cluster}

@[simp] theorem shelf_register (type other : ResourceType) :
    (cluster.register type).shelf other = cluster.shelf other := by
  unfold register
  split <;> rfl

theorem mem_types_register {type : ResourceType} {key : ShelfKey} :
    key ∈ (cluster.register type).types ↔ key ∈ cluster.types ∨ key = type.shelfKey := by
  unfold register
  split
  · rename_i known
    exact ⟨.inl, fun either => either.elim id fun same => same ▸ known⟩
  · simp

theorem shelf_put (shelf : Shelf) (type other : ResourceType) :
    { cluster with shelves := cluster.shelves.put type.shelfKey shelf }.shelf other =
      if type.shelfKey = other.shelfKey then shelf else cluster.shelf other := by
  unfold Cluster.shelf
  rw [Assoc.get?_put]
  split <;> rfl

namespace Stocked

theorem empty : Stocked {} :=
  ⟨fun _ => .nil, fun _ occupied => absurd rfl occupied⟩

theorem register (stocked : cluster.Stocked) (type : ResourceType) :
    (cluster.register type).Stocked where
  ordered other := by
    rw [shelf_register]
    exact stocked.ordered other
  known other occupied := by
    rw [shelf_register] at occupied
    exact mem_types_register.mpr (.inl (stocked.known other occupied))

/-- The shelf of a known type may become any other one that is in order. -/
theorem put (stocked : cluster.Stocked) {type : ResourceType} {shelf : Shelf}
    (ordered : shelf.Ordered) (known : shelf ≠ [] → type.shelfKey ∈ cluster.types) :
    Stocked { cluster with shelves := cluster.shelves.put type.shelfKey shelf } where
  ordered other := by
    rw [shelf_put]
    split
    · exact ordered
    · exact stocked.ordered other
  known other occupied := by
    rw [shelf_put] at occupied
    split at occupied
    · rename_i same
      exact same ▸ known occupied
    · exact stocked.known other occupied

theorem insert (stocked : cluster.Stocked) (type : ResourceType) (document : Json) :
    (cluster.insert type document).Stocked :=
  (stocked.register type).put (((stocked.register type).ordered type).insert _ _)
    fun _ => mem_types_register.mpr (.inr rfl)

theorem remove (stocked : cluster.Stocked) (type : ResourceType) (key : ObjectKey) :
    (cluster.remove type key).Stocked := by
  unfold Cluster.remove
  split
  · rename_i shelf found
    have same : cluster.shelf type = shelf := by simp [Cluster.shelf, found]
    have ordered := stocked.ordered type
    have known := stocked.known type
    rw [same] at ordered known
    refine stocked.put (ordered.erase key) fun occupied => known fun nothing => ?_
    rw [nothing] at occupied
    exact occupied rfl
  · exact stocked

end Stocked

/-- However a cluster was filled, its shelves are in order. -/
theorem Filled.stocked (filled : cluster.Filled) : cluster.Stocked := by
  induction filled with
  | empty => exact .empty
  | register _ type ih => exact ih.register type
  | insert _ type document ih => exact ih.insert type document
  | remove _ type key ih => exact ih.remove type key
  | @other before after _ types shelves ih =>
      have shelf : ∀ type, after.shelf type = before.shelf type := fun type => by
        rw [Cluster.shelf, Cluster.shelf, shelves]
      exact ⟨fun type => shelf type ▸ ih.ordered type,
        fun type occupied => types ▸ ih.known type (shelf type ▸ occupied)⟩

end Cluster
end KubeLens
