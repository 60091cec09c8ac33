import KubeLens.Api.Page
import KubeLens.Proofs.Json.Records
import KubeLens.Proofs.Json.Writing

/-!
# Pages are read back from their texts

A page of documents is one document, two levels deeper than its items, whose markers are null on the
last page.  So it comes back from its text with the same items and the same markers.
-/

namespace KubeLens
namespace ObjectPage

open Json

/-- Whether the items of a page are documents that nest at most so deep, and the count is an integer
of 64 bits. -/
structure Fits (depth : Nat) (page : ObjectPage) : Prop where
  items : ∀ item ∈ page.items, item.IsDocument depth
  remaining : ∀ count, page.remaining = some count →
    -(Nat.pow 2 63 : Int) ≤ count ∧ count < (Nat.pow 2 63 : Int)

variable {depth : Nat} {page : ObjectPage}

/-- The page itself adds an object and an array around its items. -/
theorem isDocument_toJson (fits : page.Fits depth) : page.toJson.IsDocument (depth + 2) := by
  refine ⟨(by decide : fieldNames.Nodup), ?_⟩
  simp only [List.forall_mem_cons, List.not_mem_nil, false_implies, implies_true, and_true]
  refine ⟨fits.items, isDocument_ofText? _, ?_⟩
  cases counted : page.remaining with
  | none => trivial
  | some count =>
      obtain ⟨low, high⟩ := fits.remaining count counted
      exact isDocument_int.mpr ⟨low, Int.lt_trans high (by decide)⟩

theorem ofJson?_toJson (fits : page.Fits depth) : ofJson? page.toJson = some page := by
  obtain ⟨record, read, fields⟩ := record?_of_extends
    (extends_self fieldNames
      [("items", .arr page.items), ("continueToken", .ofText? page.continueToken),
        ("remainingItemCount", (page.remaining.map Json.int).getD .null)])
    (fun _ present => present) (by decide : fieldNames.Nodup)
  have items : record.get? "items" = some (.arr page.items) := fields "items"
  have token := Record.optionalText_eq (fields "continueToken")
  have count : record.optional "remainingItemCount"
      (intWithin? (-Nat.pow 2 63) (Nat.pow 2 63)) = some page.remaining := by
    have counted := fields "remainingItemCount"
    cases remaining : page.remaining with
    | none => exact Record.optional_of_none _ (.inr (by rw [counted, remaining]; rfl))
    | some count =>
        have range : (-(Nat.pow 2 63 : Int) ≤ count && count < (Nat.pow 2 63 : Int)) = true := by
          simpa using fits.remaining count remaining
        have found : record.get? "remainingItemCount" = some (.int count) := by
          rw [counted, remaining]
          rfl
        rw [Record.optional_of_some _ found rfl, intWithin?, if_pos range]
        rfl
  have normal : normalizeAll page.items = page.items :=
    normalizeAll_of_normal fun item present => normalize_of_isDocument (fits.items item present)
  simp only [ofJson?, toJson, read, items, token, count, asArr?, normal, bind, Option.bind]

/-- A page that fits is read back from its compact text. -/
theorem read?_compact_toJson (fits : page.Fits (nestingLimit - 2)) :
    (Json.read? page.toJson.compact).bind ofJson? = some page := by
  rw [read?_compact (isDocument_toJson fits), Option.bind_some, ofJson?_toJson fits]

end ObjectPage
end KubeLens
