import KubeLens.Text.Blank
import Mathlib.Data.List.TakeWhile

/-!
# Runs of characters and trimming

A run of characters of one kind ends where the first other character stands.  A text is cut into
blanks, its trimmed part and blanks in one way.  So trimming keeps every character that is not
blank, and trimming twice is trimming once.
-/

namespace KubeLens
namespace Text

/-! ## Runs -/

variable {kind : Char → Bool} {run rest : List Char}

/-- Whether a text does not go on with a character of this kind. -/
def Stops (kind : Char → Bool) (rest : List Char) : Prop :=
  ∀ c ∈ rest.head?, kind c = false

theorem stops_nil (kind : Char → Bool) : Stops kind [] := nofun

theorem stops_cons {c : Char} : Stops kind (c :: rest) ↔ kind c = false := by
  simp [Stops]

theorem stops_mono {wider : Char → Bool} (within : ∀ c, kind c = true → wider c = true)
    (stops : Stops wider rest) : Stops kind rest := fun c first =>
  Bool.eq_false_iff.mpr fun inside => Bool.eq_false_iff.mp (stops c first) (within c inside)

theorem dropWhile_of_stops (stops : Stops kind rest) : rest.dropWhile kind = rest := by
  cases rest with
  | nil => rfl
  | cons c rest => exact List.dropWhile_cons_of_neg (by simp [stops_cons.mp stops])

theorem takeWhile_of_stops (stops : Stops kind rest) : rest.takeWhile kind = [] := by
  cases rest with
  | nil => rfl
  | cons c rest => exact List.takeWhile_cons_of_neg (by simp [stops_cons.mp stops])

/-- A run is dropped up to where it stops. -/
theorem dropWhile_run (inside : ∀ c ∈ run, kind c = true) (stops : Stops kind rest) :
    (run ++ rest).dropWhile kind = rest := by
  rw [List.dropWhile_append_of_pos inside, dropWhile_of_stops stops]

/-- A run is taken up to where it stops. -/
theorem takeWhile_run (inside : ∀ c ∈ run, kind c = true) (stops : Stops kind rest) :
    (run ++ rest).takeWhile kind = run := by
  rw [List.takeWhile_append_of_pos inside, takeWhile_of_stops stops, List.append_nil]

theorem stops_dropWhile (kind : Char → Bool) (cs : List Char) : Stops kind (cs.dropWhile kind) := by
  intro c first
  have kept := List.head?_dropWhile_not kind cs
  rw [first] at kept
  simpa using kept

/-! ## Trimming -/

variable {cs core : List Char}

/-- Whether neither end of a text is blank. -/
structure IsTrimmed (cs : List Char) : Prop where
  head : Stops isBlank cs
  last : Stops isBlank cs.reverse

/-- The trimmed part of a text is what stands between two runs of blanks, and neither starts nor
ends with one. -/
theorem trimChars_eq_iff :
    trimChars cs = core ↔
      IsTrimmed core ∧ ∃ left right, cs = left ++ core ++ right ∧
        (∀ c ∈ left, isBlank c = true) ∧ ∀ c ∈ right, isBlank c = true := by
  constructor
  · rintro rfl
    have front := List.takeWhile_append_dropWhile (p := isBlank) (l := cs)
    have back := List.takeWhile_append_dropWhile (p := isBlank)
      (l := (cs.dropWhile isBlank).reverse)
    have cut : trimChars cs ++ ((cs.dropWhile isBlank).reverse.takeWhile isBlank).reverse =
        cs.dropWhile isBlank := by
      rw [trimChars, ← List.reverse_append, back, List.reverse_reverse]
    refine ⟨⟨fun c first => ?_, ?_⟩, cs.takeWhile isBlank,
      ((cs.dropWhile isBlank).reverse.takeWhile isBlank).reverse, ?_,
      fun c => List.mem_takeWhile_imp, fun c present => ?_⟩
    · refine stops_dropWhile isBlank cs c ?_
      rw [← cut, List.head?_append, Option.mem_def.mp first]
      rfl
    · rw [trimChars, List.reverse_reverse]
      exact stops_dropWhile isBlank _
    · rw [List.append_assoc, cut, front]
    · exact List.mem_takeWhile_imp (List.mem_reverse.mp present)
  · rintro ⟨trimmed, left, right, rfl, blankLeft, blankRight⟩
    rw [trimChars, List.append_assoc, List.dropWhile_append_of_pos blankLeft]
    cases core with
    | nil => rw [List.nil_append, List.dropWhile_eq_nil_iff.mpr blankRight]; rfl
    | cons c core =>
        have whole : Stops isBlank ((c :: core) ++ right) := stops_cons.mpr (trimmed.head c rfl)
        rw [dropWhile_of_stops whole, List.reverse_append,
          dropWhile_run (fun c present => blankRight c (List.mem_reverse.mp present)) trimmed.last,
          List.reverse_reverse]

/-- A text whose ends are not blank is left as it is. -/
theorem IsTrimmed.trimChars_eq (trimmed : IsTrimmed cs) : trimChars cs = cs :=
  trimChars_eq_iff.mpr ⟨trimmed, [], [], by simp, nofun, nofun⟩

@[simp] theorem trimChars_trimChars (cs : List Char) : trimChars (trimChars cs) = trimChars cs :=
  (trimChars_eq_iff.mp rfl).1.trimChars_eq

/-- Trimming only drops characters. -/
theorem mem_of_mem_trimChars {c : Char} (present : c ∈ trimChars cs) : c ∈ cs := by
  obtain ⟨-, left, right, whole, -⟩ := trimChars_eq_iff.mp (rfl : trimChars cs = _)
  rw [whole]
  exact List.mem_append_left _ (List.mem_append_right _ present)

/-- Trimming keeps what is not blank. -/
theorem mem_trimChars {c : Char} (solid : isBlank c = false) (present : c ∈ cs) :
    c ∈ trimChars cs := by
  obtain ⟨-, left, right, whole, blankLeft, blankRight⟩ :=
    trimChars_eq_iff.mp (rfl : trimChars cs = _)
  have outside : ∀ {run : List Char}, (∀ other ∈ run, isBlank other = true) → c ∉ run := by
    intro run blank inside
    exact Bool.false_ne_true (solid.symm.trans (blank c inside))
  rw [whole] at present
  rcases List.mem_append.mp present with front | back
  · exact (List.mem_append.mp front).resolve_left (outside blankLeft)
  · exact absurd back (outside blankRight)

/-- Something is left of a text exactly when not all of it is blank. -/
theorem trimChars_ne_nil_iff : trimChars cs ≠ [] ↔ ∃ c ∈ cs, isBlank c = false := by
  constructor
  · intro kept
    obtain ⟨c, rest, trimmed⟩ := List.exists_cons_of_ne_nil kept
    obtain ⟨ends, left, right, whole, -⟩ := trimChars_eq_iff.mp trimmed
    exact ⟨c, by rw [whole]; simp, ends.head c rfl⟩
  · rintro ⟨c, present, solid⟩
    exact List.ne_nil_of_mem (mem_trimChars solid present)

theorem isBlankText_eq_false_iff {s : String} :
    isBlankText s = false ↔ ∃ c ∈ s.toList, isBlank c = false := by
  simp [isBlankText]

@[simp] theorem toList_trim (s : String) : (trim s).toList = trimChars s.toList :=
  String.toList_ofList

@[simp] theorem trim_trim (s : String) : trim (trim s) = trim s := by
  rw [← String.toList_inj, toList_trim, toList_trim, trimChars_trimChars]

end Text
end KubeLens
