import KubeLens.Error
import KubeLens.Proofs.Cluster.Shelf
import KubeLens.Proofs.Text.Numeral
import Mathlib.Tactic.Common

/-!
# Pages of a list

A token is the number of the objects that were returned so far, and it is read back as this
number.  So the pages that follow each other's tokens cut the list into pieces, in its order.
-/

namespace KubeLens

namespace Shelf

/-- The objects of a namespace, or all of them. -/
def within (shelf : Shelf) (space : Option String) : Shelf :=
  shelf.filter fun entry => space.isNone || entry.1.space == space

theorem select_none (shelf : Shelf) (space : Option String) :
    shelf.select space none = (shelf.within space).map (·.2) := by
  simp [select, within]

theorem mem_within {shelf : Shelf} {space : Option String} {entry : ObjectKey × Json} :
    entry ∈ shelf.within space ↔
      entry ∈ shelf ∧ ∀ name, space = some name → entry.1.space = some name := by
  unfold within
  rw [List.mem_filter]
  refine and_congr_right fun _ => ?_
  cases space with
  | none => simp
  | some name => simp

end Shelf

namespace Cluster

/-- The position in a list that a token stands for. -/
def position (token : Option String) : Nat :=
  (token.bind fun text => (Text.readNumeral (Nat.pow 2 64) text).toOption).getD 0

theorem position_toString {n : Nat} (small : n < 2 ^ 64) : position (some (toString n)) = n := by
  have read : Text.readNumeral (Nat.pow 2 64) (toString n) = .ok n :=
    Text.readNumeral_toString small
  simp only [position, Option.bind_some, read]
  rfl

/-- A page without a limit, from the start. -/
theorem page_whole (documents : List Json) : page documents {} = { items := documents } := by
  simp [page]

theorem page_nil (query : ListQuery) : page [] query = .empty := by
  cases limit : query.limit <;> simp [page, limit, ObjectPage.empty]

/-- No token is empty. -/
theorem page_token_filter (documents : List Json) (query : ListQuery) :
    (page documents query).continueToken.filter (!·.isEmpty) =
      (page documents query).continueToken := by
  unfold page
  dsimp only
  split
  · simp [Nat.toString_eq_repr, Nat.repr_ne_empty, Option.filter]
  · rfl

variable {documents : List Json} {limit : Nat} {token : Option String}

/-- A page that reaches the end of the list is the last one. -/
theorem page_last (inside : position token ≤ documents.length)
    (short : documents.length ≤ position token + limit) :
    page documents { limit := some limit, continueToken := token } =
      { items := documents.drop (position token) } := by
  have start : min (position token) documents.length = position token := Nat.min_eq_left inside
  have stop : min (position token + limit) documents.length = documents.length :=
    Nat.min_eq_right short
  unfold position at start stop ⊢
  simp [page, start, stop]

/-- Any other page says where the next one starts, and how many objects are left for it. -/
theorem page_more (long : position token + limit < documents.length) :
    page documents { limit := some limit, continueToken := token } =
      { items := (documents.drop (position token)).take limit
        continueToken := some (toString (position token + limit))
        remaining := some ((documents.drop (position token + limit)).length : Nat) } := by
  have start : min (position token) documents.length = position token :=
    Nat.min_eq_left (Nat.le_of_lt (Nat.lt_of_le_of_lt (Nat.le_add_right _ _) long))
  have stop : min (position token + limit) documents.length = position token + limit :=
    Nat.min_eq_left (Nat.le_of_lt long)
  have piece : (documents.take (position token + limit)).drop (position token) =
      (documents.drop (position token)).take limit := by
    rw [List.drop_take, Nat.add_sub_cancel_left]
  rw [List.length_drop]
  unfold position at start stop long piece ⊢
  simp only [page, start, stop, long, decide_true, if_true, Option.map_some, Option.getD_some,
    piece]

end Cluster

/-! ## Sequences of pages -/

/-- Whether a page has a token exactly if there are pages after it, and says then how many
documents are left for them. -/
structure ObjectPage.Precedes (page : ObjectPage) (later : List ObjectPage) : Prop where
  last : later = [] → page.continueToken = none ∧ page.remaining = none
  more : later ≠ [] → page.continueToken.isSome = true ∧
    page.remaining = some ((later.flatMap (·.items)).length : Int)

/-- Whether `pages` are the answers from the one with the number `first` up to the first one
without a token, and return the documents. -/
structure Paginates (answer : Nat → Except ServiceError ObjectPage) (first : Nat)
    (documents : List Json) (pages : List ObjectPage) : Prop where
  nonempty : pages ≠ []
  answered : ∀ place page, pages[place]? = some page →
    answer (first + place) = .ok page ∧ page.Precedes (pages.drop (place + 1))
  items : pages.flatMap (·.items) = documents

namespace Paginates

variable {answer : Nat → Except ServiceError ObjectPage} {first : Nat} {documents : List Json}
  {pages : List ObjectPage}

/-- The last page. -/
theorem last (answered : answer first = .ok { items := documents }) :
    Paginates answer first documents [{ items := documents }] := by
  refine ⟨nofun, ?_, by simp⟩
  intro place page found
  cases place with
  | zero =>
      obtain rfl := Option.some.inj found
      exact ⟨answered, fun _ => ⟨rfl, rfl⟩, fun more => absurd rfl more⟩
  | succ => cases found

/-- A page in front of others. -/
theorem cons {items : List Json} {token : String}
    (answered : answer first = .ok ⟨items, some token, some (documents.length : Int)⟩)
    (later : Paginates answer (first + 1) documents pages) :
    Paginates answer first (items ++ documents)
      (⟨items, some token, some (documents.length : Int)⟩ :: pages) := by
  refine ⟨nofun, ?_, by rw [List.flatMap_cons, later.items]⟩
  intro place page found
  cases place with
  | zero =>
      obtain rfl := Option.some.inj found
      refine ⟨answered, fun none => absurd none later.nonempty, fun _ => ⟨rfl, ?_⟩⟩
      rw [List.drop_succ_cons, List.drop_zero, later.items]
  | succ place =>
      rw [List.drop_succ_cons, ← Nat.add_assoc, Nat.add_right_comm]
      exact later.answered place page found

/-- Answers that start where a token says, each of them where the one before it ended, return the
rest of the list. -/
theorem of_positions {limit : Nat} (positive : 1 ≤ limit) (small : documents.length ≤ 2 ^ 64)
    {tokens : Nat → Option String}
    (answers : ∀ number, answer number = .ok
      (Cluster.page documents { limit := some limit, continueToken := tokens number }))
    (follows : ∀ number page, answer number = .ok page → tokens (number + 1) = page.continueToken)
    (number : Nat) (inside : Cluster.position (tokens number) ≤ documents.length) :
    ∃ pages, Paginates answer number
      (documents.drop (Cluster.position (tokens number))) pages := by
  -- What is left gets shorter with each page, as none but the last one is empty.
  induction left : documents.length - Cluster.position (tokens number) using Nat.strong_induction_on
    generalizing number with
  | _ left ih =>
      have answered := answers number
      rcases Nat.lt_or_ge (Cluster.position (tokens number) + limit) documents.length with
        long | short
      · rw [Cluster.page_more long] at answered
        have next : Cluster.position (tokens (number + 1)) =
            Cluster.position (tokens number) + limit := by
          rw [follows number _ answered]
          exact Cluster.position_toString (Nat.lt_of_lt_of_le long small)
        obtain ⟨pages, later⟩ := ih _ (by omega) (number + 1) (by omega) rfl
        rw [next] at later
        have paginates := cons answered later
        rw [← List.drop_drop, List.take_append_drop] at paginates
        exact ⟨_, paginates⟩
      · rw [Cluster.page_last inside short] at answered
        exact ⟨_, last answered⟩

end Paginates
end KubeLens
