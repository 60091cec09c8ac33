import KubeLens.Text.Blank

/-!
# Texts cut at a separator

A text is cut at its first separator in one way, and at its last one as well.
-/

namespace KubeLens
namespace Text

variable {separator : Char} {cs before after other rest : List Char}

/-- A text is cut at its first separator. -/
theorem splitOnce_append (absent : separator ∉ cs) (rest : List Char) :
    splitOnce separator (cs ++ separator :: rest) = some (cs, rest) := by
  induction cs with
  | nil => simp [splitOnce]
  | cons c others ih =>
      have different : c ≠ separator := fun same => absent (same ▸ List.mem_cons_self)
      have absentLater : separator ∉ others := fun later => absent (List.mem_cons_of_mem _ later)
      rw [List.cons_append, splitOnce, if_neg different, ih absentLater]
      rfl

/-- The part before the first separator does not hold it. -/
theorem splitOnce_eq_some (cut : splitOnce separator cs = some (before, after)) :
    separator ∉ before ∧ cs = before ++ separator :: after := by
  induction cs generalizing before with
  | nil => cases cut
  | cons c rest ih =>
      rw [splitOnce] at cut
      by_cases same : c = separator
      · rw [if_pos same] at cut
        cases cut
        exact ⟨List.not_mem_nil, by rw [same, List.nil_append]⟩
      · rw [if_neg same] at cut
        obtain ⟨⟨first, last⟩, cutRest, equal⟩ := Option.map_eq_some_iff.mp cut
        cases equal
        obtain ⟨absent, whole⟩ := ih cutRest
        refine ⟨fun present => ?_, by rw [whole, List.cons_append]⟩
        rcases List.mem_cons.mp present with equal | later
        · exact same equal.symm
        · exact absent later

theorem splitOnce_eq_some_iff :
    splitOnce separator cs = some (before, after) ↔
      separator ∉ before ∧ cs = before ++ separator :: after :=
  ⟨splitOnce_eq_some, fun ⟨absent, whole⟩ => whole ▸ splitOnce_append absent after⟩

/-- A text is cut at its first separator in one way. -/
theorem append_separator_inj (absent : separator ∉ before) (missing : separator ∉ other) :
    before ++ separator :: after = other ++ separator :: rest ↔
      before = other ∧ after = rest := by
  constructor
  · intro same
    have cuts := splitOnce_append absent after
    rw [same, splitOnce_append missing] at cuts
    cases cuts
    exact ⟨rfl, rfl⟩
  · rintro ⟨rfl, rfl⟩
    rfl

/-- A text is cut at its last separator in one way. -/
theorem append_separator_inj_last (absent : separator ∉ after) (missing : separator ∉ rest) :
    before ++ separator :: after = other ++ separator :: rest ↔
      before = other ∧ after = rest := by
  rw [← List.reverse_inj]
  simp only [List.reverse_append, List.reverse_cons, List.append_assoc, List.singleton_append]
  rw [append_separator_inj (mt List.mem_reverse.mp absent) (mt List.mem_reverse.mp missing),
    List.reverse_inj, List.reverse_inj, and_comm]

end Text
end KubeLens
