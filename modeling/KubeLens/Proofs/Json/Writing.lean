import KubeLens.Json.Printer
import KubeLens.Json.Record
import KubeLens.Proofs.Json.Reading
import Mathlib.Data.List.Induction

/-!
# Documents are read back from their texts

A document has no doubles, its numbers are integers of 64 bits, and the keys of each of its objects
are distinct.  Its compact text is one of its texts, so reading it gives the document back, which
has no repeated keys to merge.
-/

namespace KubeLens
namespace Json

open Text

/-! ## Strings and numbers -/

theorem hexQuad?_control :
    ∀ n < 0x20, hexQuad? '0' '0' (hexDigit (n / 16)) (hexDigit (n % 16)) = some n := by
  decide

theorem spellsChar_writeChar (c : Char) : SpellsChar (writeChar c) c := by
  by_cases special : c ∈ ['"', '\\', '\x08', '\x0c', '\n', '\r', '\t']
  case pos =>
    simp only [List.mem_cons, List.not_mem_nil, or_false] at special
    rcases special with rfl | rfl | rfl | rfl | rfl | rfl | rfl <;> exact .letter rfl
  case neg =>
    simp only [List.mem_cons, List.not_mem_nil, or_false, not_or, ← beq_eq_false_iff_ne] at special
    simp only [writeChar, special, Bool.false_eq_true, if_false]
    split
    case isTrue control =>
      have code : SpellsChar _ (Char.ofNat c.toNat) := .code (hexQuad?_control c.toNat control)
        (by simp [isHighSurrogate]; omega) (by simp [isLowSurrogate]; omega)
      rwa [Char.ofNat_toNat] at code
    case isFalse printable =>
      exact .plain (Nat.not_lt.mp printable) (beq_eq_false_iff_ne.mp special.1)
        (beq_eq_false_iff_ne.mp special.2.1)

theorem spellsString_writeString (s : String) : SpellsString (writeString s) s := by
  refine ⟨s.toList.map writeChar, ?_, by rw [writeString, List.flatMap_def]⟩
  exact List.forall₂_map_left_iff.mpr (List.forall₂_same.mpr fun c _ => spellsChar_writeChar c)

theorem isWhole_toDigits (n : Nat) : IsWhole (Nat.toDigits 10 n) where
  some := Nat.toDigits_ne_nil
  all c present := isDigit_of_isDigit (Nat.isDigit_of_mem_toDigits (by decide) (by decide) present)
  canonical := by
    induction n using Nat.strongRecOn with
    | ind n ih =>
      intro rest zero
      rcases Nat.lt_or_ge n 10 with small | large
      · rw [Nat.toDigits_of_lt_base small] at zero
        exact (List.cons.inj zero).2.symm
      · rw [Nat.toDigits_of_base_le (by decide) large] at zero
        obtain ⟨first, others, front⟩ :=
          List.exists_cons_of_ne_nil (Nat.toDigits_ne_nil (b := 10) (n := n / 10))
        rw [front] at zero
        obtain ⟨rfl, -⟩ := List.cons.inj zero
        have none : others = [] := ih (n / 10) (by omega) others front
        have value : 0 = n / 10 := by
          rw [← Nat.ofDigitChars_ten_toDigits (n := n / 10), front, none]
          rfl
        exact absurd value (by omega)

theorem spellsNumber_writeInt {n : Int} (low : -(Nat.pow 2 63 : Int) ≤ n)
    (high : n < (Nat.pow 2 64 : Int)) : SpellsNumber (writeInt n) (.int n) := by
  cases n with
  | ofNat n =>
      have spelled : SpellsNumber (minus false ++ Nat.toDigits 10 n) _ :=
        .integer (isWhole_toDigits n)
          (by rw [Nat.ofDigitChars_ten_toDigits]; exact Int.ofNat_lt.mp high)
      rwa [Nat.ofDigitChars_ten_toDigits] at spelled
  | negSucc n =>
      have small : n + 1 ≤ Nat.pow 2 63 :=
        Int.ofNat_le.mp (Int.neg_le_neg_iff.mp low)
      have spelled : SpellsNumber (minus true ++ Nat.toDigits 10 (n + 1)) _ :=
        .integer (isWhole_toDigits (n + 1))
          (by rw [Nat.ofDigitChars_ten_toDigits]; exact ⟨Nat.succ_pos n, small⟩)
      rwa [Nat.ofDigitChars_ten_toDigits] at spelled

/-! ## Values -/

/-- Whether a value is a document whose containers nest at most so deep. -/
def IsDocument : Nat → Json → Prop
  | _, .null | _, .bool _ | _, .str _ => True
  | _, .int n => -(Nat.pow 2 63 : Int) ≤ n ∧ n < (Nat.pow 2 64 : Int)
  | _, .double _ => False
  | 0, .arr _ | 0, .obj _ => False
  | depth + 1, .arr items => ∀ item ∈ items, IsDocument depth item
  | depth + 1, .obj members =>
    (Assoc.keys members).Nodup ∧ ∀ member ∈ members, IsDocument depth member.2

theorem isDocument_int {depth : Nat} {n : Int} :
    IsDocument depth (.int n) ↔ -(Nat.pow 2 63 : Int) ≤ n ∧ n < (Nat.pow 2 64 : Int) := by
  cases depth <;> rfl

theorem isDocument_str {depth : Nat} {s : String} : IsDocument depth (.str s) := by
  cases depth <;> trivial

theorem not_isDocument_double {depth : Nat} {bits : UInt64} :
    ¬ IsDocument depth (.double bits) := by
  cases depth <;> exact id

variable {depth : Nat} {value : Json}

theorem isDocument_ofText? (text? : Option String) : IsDocument depth (ofText? text?) := by
  cases text? <;> cases depth <;> trivial

section Containers

variable {spells : List Char → Json → Prop} {items : List Json} {members : List (String × Json)}

theorem listed_writeItems (spelled : ∀ item ∈ items, spells item.write item) :
    Listed (Padded spells) (writeItems items) items := by
  cases items with
  | nil => exact .empty nofun
  | cons first others =>
      refine .parts ?_
      induction others generalizing first with
      | nil => exact .last (.bare (spelled first List.mem_cons_self))
      | cons second others ih =>
          exact .more (.bare (spelled first List.mem_cons_self))
            (ih second fun item present => spelled item (List.mem_cons_of_mem _ present))

theorem listed_writeMembers (spelled : ∀ member ∈ members, spells member.2.write member.2) :
    Listed (SpellsMember spells) (writeMembers members) members := by
  cases members with
  | nil => exact .empty nofun
  | cons first others =>
      refine .parts ?_
      induction others generalizing first with
      | nil =>
          exact .last (.colon (.bare (spellsString_writeString first.1))
            (.bare (spelled first List.mem_cons_self)))
      | cons second others ih =>
          have member : SpellsMember spells (writeString first.1 ++ ':' :: first.2.write) first :=
            .colon (.bare (spellsString_writeString first.1))
              (.bare (spelled first List.mem_cons_self))
          have more := Separated.more member
            (ih second fun member present => spelled member (List.mem_cons_of_mem _ present))
          rwa [List.append_assoc, List.cons_append] at more

theorem normalizeAll_of_normal (normal : ∀ item ∈ items, item.normalize = item) :
    normalizeAll items = items := by
  induction items with
  | nil => rfl
  | cons item rest ih =>
      rw [normalizeAll, normal item List.mem_cons_self,
        ih fun other present => normal other (List.mem_cons_of_mem _ present)]

theorem normalizeMembers_of_normal (normal : ∀ member ∈ members, member.2.normalize = member.2) :
    normalizeMembers members = members := by
  induction members with
  | nil => rfl
  | cons member rest ih =>
      rw [normalizeMembers, normal member List.mem_cons_self,
        ih fun other present => normal other (List.mem_cons_of_mem _ present)]

/-- Members with distinct keys are added one after the other. -/
theorem lastWins_of_nodup (nodup : (Assoc.keys members).Nodup) : lastWins members = members := by
  induction members using List.reverseRecOn with
  | nil => rfl
  | append_singleton rest member ih =>
      simp only [Assoc.keys, List.map_append, List.map_cons, List.map_nil] at nodup
      obtain ⟨distinct, -, apart⟩ := List.nodup_append.mp nodup
      have absent : member.1 ∉ Assoc.keys rest := fun present =>
        apart _ present _ List.mem_cons_self rfl
      calc lastWins (rest ++ [member])
        _ = (lastWins rest).put member.1 member.2 := List.foldl_append
        _ = rest ++ [member] := by rw [ih distinct, Assoc.put_of_not_mem absent]

end Containers

/-- The compact form of a document spells it. -/
theorem spells_write : ∀ {depth : Nat} {value : Json}, IsDocument depth value →
    Spells depth value.write value
  | _, .null, _ => spells_of_scalar .null
  | _, .bool true, _ => spells_of_scalar .yes
  | _, .bool false, _ => spells_of_scalar .no
  | _, .str s, _ => spells_of_scalar (.str (spellsString_writeString s))
  | _, .int _, document =>
    have ⟨low, high⟩ := isDocument_int.mp document
    spells_of_scalar (.number (spellsNumber_writeInt low high))
  | _, .double _, document => absurd document not_isDocument_double
  | _ + 1, .arr items, document =>
    .inr (.inl ⟨_, items,
      listed_writeItems fun item present => spells_write (document item present), rfl, rfl⟩)
  | _ + 1, .obj members, document =>
    .inr (.inr ⟨_, members,
      listed_writeMembers fun member present => spells_write (document.2 member present), rfl, rfl⟩)

/-- A document has no repeated keys to merge. -/
theorem normalize_of_isDocument : ∀ {depth : Nat} {value : Json}, IsDocument depth value →
    value.normalize = value
  | _, .null, _ | _, .bool _, _ | _, .str _, _ | _, .int _, _ | _, .double _, _ => rfl
  | _ + 1, .arr items, document => by
    rw [normalize, normalizeAll_of_normal fun item present =>
      normalize_of_isDocument (document item present)]
  | _ + 1, .obj members, document => by
    rw [normalize, normalizeMembers_of_normal fun member present =>
      normalize_of_isDocument (document.2 member present), lastWins_of_nodup document.1]

theorem isText_compact (document : IsDocument depth value) : IsText depth value.compact value := by
  rw [IsText, compact, String.toList_ofList]
  exact .bare (spells_write document)

/-- A document is read back from its compact text. -/
theorem read?_compact (document : IsDocument nestingLimit value) :
    read? value.compact = some value :=
  read?_of_isText (isText_compact document)

end Json
end KubeLens
