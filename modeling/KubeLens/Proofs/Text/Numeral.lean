import KubeLens.Text.Numeral

/-!
# What a numeral is

A numeral is read exactly when it consists of digits, at least one, with at most one plus sign in
front of them, and its value is below the bound.  So the decimal digits of a number are read as that
number.
-/

namespace KubeLens
namespace Text

variable {bound value n : Nat} {digits : List Char} {s : String}

/-- Whether a text is a decimal numeral for a number. -/
def IsNumeral (s : String) (n : Nat) : Prop :=
  ∃ digits : List Char, (s.toList = digits ∨ s.toList = '+' :: digits) ∧ digits ≠ [] ∧
    (∀ c ∈ digits, isDigit c = true) ∧ n = Nat.ofDigitChars 10 digits 0

theorem isDigit_of_isDigit {c : Char} (digit : c.isDigit = true) : isDigit c = true := by
  simp only [Char.isDigit, Bool.and_eq_true, decide_eq_true_eq] at digit
  simp only [isDigit, Bool.and_eq_true, decide_eq_true_eq]
  exact digit

/-- The value only grows while digits are read. -/
theorem le_ofDigitChars (value : Nat) (digits : List Char) :
    value ≤ Nat.ofDigitChars 10 digits value := by
  rw [Nat.ofDigitChars_eq_ofDigitChars_zero]
  have grown := Nat.le_mul_of_pos_left value (Nat.pow_pos (n := digits.length) (by decide : 0 < 10))
  omega

theorem ofDigitChars_cons_eq (c : Char) (rest : List Char) (value : Nat) :
    Nat.ofDigitChars 10 (c :: rest) value =
      Nat.ofDigitChars 10 rest (value * 10 + digitValue c) := by
  rw [Nat.ofDigitChars_cons, Nat.mul_comm, digitValue]

theorem digitsValue_eq (digits : List Char) :
    digitsValue digits = Nat.ofDigitChars 10 digits 0 := by
  suffices ∀ value, digits.foldl (fun value c => value * 10 + digitValue c) value =
      Nat.ofDigitChars 10 digits value from this 0
  induction digits with
  | nil => exact fun _ => rfl
  | cons c rest ih => exact fun value => (ih _).trans (ofDigitChars_cons_eq c rest value).symm

theorem readDigits_of_lt (all : ∀ c ∈ digits, isDigit c = true)
    (small : Nat.ofDigitChars 10 digits value < bound) :
    readDigits bound value digits = .ok (Nat.ofDigitChars 10 digits value) := by
  induction digits generalizing value with
  | nil => rfl
  | cons c rest ih =>
      rw [ofDigitChars_cons_eq] at small ⊢
      have below : value * 10 + digitValue c < bound :=
        Nat.lt_of_le_of_lt (le_ofDigitChars _ rest) small
      unfold readDigits
      simp only [all c List.mem_cons_self, below, if_true]
      exact ih (fun other present => all other (List.mem_cons_of_mem _ present)) small

/-- A run that was read has digits only, and stays below the bound from its first digit on. -/
theorem of_readDigits (read : readDigits bound value digits = .ok n) :
    (∀ c ∈ digits, isDigit c = true) ∧ n = Nat.ofDigitChars 10 digits value ∧
      (digits ≠ [] → n < bound) := by
  induction digits generalizing value with
  | nil =>
      cases read
      exact ⟨nofun, rfl, fun some => absurd rfl some⟩
  | cons c rest ih =>
      unfold readDigits at read
      split at read
      case isFalse => cases read
      case isTrue digit =>
        dsimp only at read
        split at read
        case isFalse => cases read
        case isTrue below =>
          obtain ⟨all, rfl, small⟩ := ih read
          refine ⟨List.forall_mem_cons.mpr ⟨digit, all⟩, (ofDigitChars_cons_eq c rest value).symm,
            fun _ => ?_⟩
          cases rest with
          | nil => exact below
          | cons => exact small (by simp)

theorem readDigits_eq_ok_iff (some : digits ≠ []) :
    readDigits bound 0 digits = .ok n ↔
      (∀ c ∈ digits, isDigit c = true) ∧ n = Nat.ofDigitChars 10 digits 0 ∧ n < bound := by
  constructor
  · intro read
    obtain ⟨all, value, small⟩ := of_readDigits read
    exact ⟨all, value, small some⟩
  · rintro ⟨all, rfl, small⟩
    exact readDigits_of_lt all small

theorem not_isDigit_plus : isDigit '+' = false := by decide

/-- Exactly the numerals of numbers below the bound are read. -/
theorem readNumeral_eq_ok_iff : readNumeral bound s = .ok n ↔ IsNumeral s n ∧ n < bound := by
  unfold readNumeral IsNumeral
  split
  case h_1 empty =>
    refine ⟨nofun, ?_⟩
    rintro ⟨⟨digits, same | same, some, -⟩, -⟩
    · exact absurd (same.symm.trans empty) some
    · exact absurd (same.symm.trans empty) (List.cons_ne_nil _ _)
  case h_2 sign =>
    refine ⟨nofun, ?_⟩
    rintro ⟨⟨digits, same | same, some, all, -⟩, -⟩
    · exact absurd (all '+' (by simp [← same, sign])) (by simp [not_isDigit_plus])
    · exact absurd (List.cons.inj (same.symm.trans sign)).2 some
  case h_3 digits some signed =>
    rw [readDigits_eq_ok_iff some]
    constructor
    · rintro ⟨all, value, small⟩
      exact ⟨⟨digits, .inr signed, some, all, value⟩, small⟩
    · rintro ⟨⟨others, same | same, -, all, value⟩, small⟩
      · exact absurd (all '+' (by simp [← same, signed])) (by simp [not_isDigit_plus])
      · obtain rfl : digits = others := (List.cons.inj (signed.symm.trans same)).2
        exact ⟨all, value, small⟩
  case h_4 some _ unsigned =>
    rw [readDigits_eq_ok_iff some]
    constructor
    · rintro ⟨all, value, small⟩
      exact ⟨⟨_, .inl rfl, some, all, value⟩, small⟩
    · rintro ⟨⟨others, same | same, -, all, value⟩, small⟩
      · rw [same]
        exact ⟨all, value, small⟩
      · exact absurd same (unsigned others)

theorem isNumeral_toString (n : Nat) : IsNumeral (toString n) n := by
  refine ⟨Nat.toDigits 10 n, .inl ?_, Nat.toDigits_ne_nil, fun c present => ?_, ?_⟩
  · rw [Nat.toString_eq_repr, Nat.toList_repr]
  · exact isDigit_of_isDigit (Nat.isDigit_of_mem_toDigits (by decide) (by decide) present)
  · exact Nat.ofDigitChars_ten_toDigits.symm

/-- A number below the bound is read back from its decimal numeral. -/
theorem readNumeral_toString (small : n < bound) : readNumeral bound (toString n) = .ok n :=
  readNumeral_eq_ok_iff.mpr ⟨isNumeral_toString n, small⟩

end Text
end KubeLens
