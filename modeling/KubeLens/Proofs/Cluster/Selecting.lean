import KubeLens.Proofs.Cluster.Paging
import KubeLens.Proofs.Text.Separators

/-!
# Selectors

A selector that is put together from terms selects what all the terms hold of.  A value can be
written into a term, and is read back from it, when it has no comma in it and no blanks around it.
-/

namespace KubeLens

/-! ## Texts -/

namespace Text

theorem splitAll_eq_splitOn (separator : Char) (cs : List Char) :
    splitAll separator cs = cs.splitOn separator := by
  induction cs with
  | nil => rfl
  | cons c rest ih =>
      rw [splitAll, ih, List.splitOn_cons_eq_if_modifyHead]
      cases parts : rest.splitOn separator with
      | nil => exact absurd parts (List.splitOn_ne_nil _ _)
      | cons first others => simp

end Text

namespace Json

theorem step?_eq_member? (value : Json) {key : String} (unindexed : index? key = none) :
    value.step? key = value.member? key := by
  unfold step? member?
  rw [unindexed]
  cases value <;> rfl

/-- A path of two keys leads to a member of a member. -/
theorem strAt?_pair (value : Json) {outer inner : String} (first : index? outer = none)
    (second : index? inner = none) :
    value.strAt? [outer, inner] = (value.member? outer).bind (·.memberStr? inner) := by
  unfold strAt? at?
  rw [step?_eq_member? value first]
  cases value.member? outer with
  | none => rfl
  | some found =>
      simp only [Option.bind_some, at?, step?_eq_member? found second, memberStr?]
      cases found.member? inner <;> rfl

end Json

/-! ## Terms -/

namespace Selector

/-- Whether a text can be the value in a term. -/
structure IsPlain (text : String) : Prop where
  single : ',' ∉ text.toList
  trimmed : Text.trim text = text

instance (text : String) : Decidable (IsPlain text) :=
  decidable_of_iff (',' ∉ text.toList ∧ Text.trim text = text)
    ⟨fun ⟨single, trimmed⟩ => ⟨single, trimmed⟩, fun plain => ⟨plain.single, plain.trimmed⟩⟩

variable (document : Json)

/-- A selector holds if the parts before and after a comma hold. -/
theorem holds_append (first second : String) :
    holds document (first ++ "," ++ second) =
      (holds document first && holds document second) := by
  have cut : (first ++ "," ++ second).toList = first.toList ++ ',' :: second.toList := by simp
  unfold holds
  rw [cut]
  simp only [Text.splitAll_eq_splitOn, List.splitOn_append_cons_self, List.filter_append,
    List.all_append]

/-- A selector without a comma is a term, or asks for nothing. -/
theorem holds_of_single {selector : String} (single : ',' ∉ selector.toList)
    (nonempty : selector ≠ "") :
    holds document selector = termHolds document selector.toList := by
  have written : selector.toList ≠ [] := by simpa using nonempty
  unfold holds
  rw [Text.splitAll_eq_splitOn, List.splitOn_eq_singleton single]
  simp [written]

/-- A term asks for the string at its path. -/
theorem termHolds_append {path : List Char} (single : '=' ∉ path) (value : List Char) :
    termHolds document (path ++ '=' :: value) =
      (document.strAt? (Json.pointerSteps ((Text.trimChars path).map fun c =>
        if c = '.' then '/' else c)) == some (String.ofList (Text.trimChars value))) := by
  unfold termHolds
  rw [Text.splitOnce_append single]

end Selector

/-! ## Lists -/

namespace Shelf

theorem holds_of_mem_select {shelf : Shelf} {space : Option String} {selector : String}
    {document : Json} (selected : document ∈ shelf.select space (some selector)) :
    Selector.holds document selector = true := by
  obtain ⟨entry, present, rfl⟩ := List.mem_map.mp selected
  have both := (List.mem_filter.mp present).2
  rw [Bool.and_eq_true] at both
  exact both.2

/-- What is selected can be filtered again, by a condition that is at least as strict. -/
theorem filter_select (shelf : Shelf) (space selector : String) {strict : Json → Bool}
    (stricter : ∀ document, strict document = true → Selector.holds document selector = true) :
    (shelf.select (some space) (some selector)).filter strict =
      (shelf.filter fun entry => entry.1.space = some space ∧ strict entry.2 = true).map
        (·.2) := by
  unfold select
  rw [List.filter_map, List.filter_filter]
  refine congrArg _ (List.filter_congr fun entry _ => ?_)
  rw [Bool.eq_iff_iff]
  simp only [Option.isNone_some, Bool.false_or, Option.all_some, Bool.and_eq_true, beq_iff_eq,
    decide_eq_true_eq, Function.comp_apply]
  exact ⟨fun ⟨kept, inside, _⟩ => ⟨inside, kept⟩,
    fun ⟨inside, kept⟩ => ⟨kept, inside, stricter _ kept⟩⟩

end Shelf

namespace Cluster

variable {cluster : Cluster}

/-- A list with a selector is answered with all that is selected. -/
theorem listAnswer_ofSelector {type : ResourceType} {space : Option String} {selector : String}
    {page : ObjectPage} (answer : cluster.listAnswer type space (.ofSelector selector) = .ok page) :
    page.items = (cluster.shelf type).select space (some selector) := by
  unfold listAnswer at answer
  split at answer
  · cases answer
  · split at answer
    · cases answer
    · split at answer
      · cases answer
        simp [Cluster.page, ListQuery.ofSelector]
      · cases answer

end Cluster
end KubeLens
