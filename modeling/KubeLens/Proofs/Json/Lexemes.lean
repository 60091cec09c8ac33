import KubeLens.Proofs.Json.Grammar
import KubeLens.Proofs.Text.Numeral
import KubeLens.Proofs.Text.Trimming

/-!
# Strings and numbers are read

Every text that spells a string or a number is read as it.  A string ends at its closing quote.  A
number ends where the text does not go on with a character of a number, so the digits of the text
after it cannot be taken for its own.
-/

namespace KubeLens
namespace Json

open Text

/-! ## Strings -/

variable {text rest part : List Char} {c : Char}

/-- However a character is spelled, it is read in front of what follows. -/
theorem readString_part (spelled : SpellsChar part c) (cs : List Char) :
    readString (part ++ cs) = (readString cs).map (prepend c) := by
  cases spelled with
  | plain printable notQuote notEscape =>
      simp [readString, notEscape, Nat.not_lt.mpr printable]
  | @letter letter _ stands =>
      have notCode : letter ≠ 'u' := by
        rintro rfl
        cases stands
      simp [readString, notCode, stands]
  | @code a b c d n digits notHigh notLow =>
      -- The reader looks ahead for a second code, and comes back to it.
      by_cases another : ∃ e f g h rest, cs = '\\' :: 'u' :: e :: f :: g :: h :: rest
      case pos =>
        obtain ⟨e, f, g, h, rest, rfl⟩ := another
        simp only [List.cons_append, List.nil_append]
        rw [readString]
        simp only [digits, notHigh, notLow, Bool.false_eq_true, if_false]
      case neg =>
        simp only [List.cons_append, List.nil_append]
        rw [readString]
        · simp only [digits, notHigh, notLow, Bool.false_eq_true, if_false]
        · rintro e f g h rest rfl
          exact another ⟨e, f, g, h, rest, rfl⟩
  | pair first isHigh second isLow =>
      simp [readString, first, isHigh, second, isLow]

theorem readString_parts {parts : List (List Char)} {chars : List Char}
    (spelled : List.Forall₂ SpellsChar parts chars) (rest : List Char) :
    readString (parts.flatten ++ '"' :: rest) = .ok (chars, rest) := by
  induction spelled with
  | nil => simp [readString]
  | cons first _ ih =>
      rw [List.flatten_cons, List.append_assoc, readString_part first, ih]
      rfl

/-! ## Numbers -/

/-- A character that goes on with the digits of a number or starts its fraction. -/
def isPlace (c : Char) : Bool :=
  isDigit c || c == '.'

/-- A character that goes on with a number. -/
def isNumeric (c : Char) : Bool :=
  isPlace c || c == 'e' || c == 'E'

theorem isPlace_of_isDigit (digit : isDigit c = true) : isPlace c = true := by
  simp [isPlace, digit]

theorem isNumeric_of_isPlace (place : isPlace c = true) : isNumeric c = true := by
  simp [isNumeric, place]

variable {digits fraction exponent : List Char} {places? : Option (List Char)}
  {power? : Option Int} {negative : Bool}

theorem IsDigitRun.head_append (run : IsDigitRun digits) (whole : digits ++ rest = c :: text) :
    isDigit c = true := by
  cases digits with
  | nil => exact absurd rfl run.some
  | cons first others =>
      obtain ⟨rfl, -⟩ := List.cons.inj whole
      exact run.all first List.mem_cons_self

theorem readDigitRun_run (run : IsDigitRun digits) (stops : Stops isDigit rest) :
    readDigitRun (digits ++ rest) = .ok (digits, rest) := by
  unfold readDigitRun
  rw [takeWhile_run run.all stops, dropWhile_run run.all stops]
  cases digits with
  | nil => exact absurd rfl run.some
  | cons => rfl

theorem readFraction_append (fractional : SpellsFraction fraction places?)
    (stops : Stops isPlace rest) : readFraction (fraction ++ rest) = .ok (places?, rest) := by
  cases fractional with
  | absent =>
      rw [List.nil_append]
      unfold readFraction
      split
      case h_1 => cases stops_cons.mp stops
      case h_2 => rfl
  | places run =>
      have digitsStop : Stops isDigit rest := stops_mono (fun _ => isPlace_of_isDigit) stops
      simp only [List.cons_append, readFraction, readDigitRun_run run digitsStop]
      rfl

theorem readPower_run (run : IsDigitRun digits) (stops : Stops isDigit rest) :
    readPower negative (digits ++ rest) =
      .ok (some (signed negative (Nat.ofDigitChars 10 digits 0)), rest) := by
  rw [readPower, readDigitRun_run run stops, ← digitsValue_eq]
  rfl

theorem readExponent_append (exponential : SpellsExponent exponent power?)
    (stops : Stops isNumeric rest) : readExponent (exponent ++ rest) = .ok (power?, rest) := by
  cases exponential with
  | absent =>
      cases rest with
      | nil => rfl
      | cons c rest =>
          have other : (c == 'e' || c == 'E') = false := by
            have outside := stops_cons.mp stops
            simp only [isNumeric, Bool.or_eq_false_iff] at outside
            simp [outside]
          simp only [List.nil_append, readExponent, other, Bool.false_eq_true, if_false]
  | @power mark sign digits negative marks signs run =>
      have digitsStop : Stops isDigit rest :=
        stops_mono (fun _ digit => isNumeric_of_isPlace (isPlace_of_isDigit digit)) stops
      have marked : (mark == 'e' || mark == 'E') = true := by simpa using marks
      simp only [List.cons_append, List.append_assoc, readExponent, marked, if_true]
      rcases signs with rfl | ⟨rfl, rfl⟩
      · cases negative with
        | true => exact readPower_run run digitsStop
        | false =>
            rw [minus, if_neg Bool.false_ne_true, List.nil_append, ← readPower_run run digitsStop]
            split
            case h_1 plus => cases run.head_append plus
            case h_2 minus => cases run.head_append minus
            case h_3 => rfl
      · exact readPower_run run digitsStop

/-- The number of a numeral with these parts. -/
def numeral? (negative : Bool) (digits : List Char) (places? : Option (List Char))
    (power? : Option Int) : Except ReadFault Json :=
  match places?, power? with
  | none, none => whole? negative (digitsValue digits)
  | _, _ =>
    double? negative (digitsValue (digits ++ places?.getD []))
      (power?.getD 0 - ((places?.getD []).length : Int))

theorem readUnsigned_append (negative : Bool) (whole : IsWhole digits)
    (fractional : SpellsFraction fraction places?) (exponential : SpellsExponent exponent power?)
    (stops : Stops isNumeric rest) :
    readUnsigned negative (digits ++ (fraction ++ (exponent ++ rest))) =
      (numeral? negative digits places? power?).map (·, rest) := by
  have placesStop : Stops isPlace (exponent ++ rest) := by
    cases exponential with
    | absent => exact stops_mono (fun _ => isNumeric_of_isPlace) stops
    | power marks => rcases marks with rfl | rfl <;> exact stops_cons.mpr (by decide)
  have digitsStop : Stops isDigit (fraction ++ (exponent ++ rest)) := by
    cases fractional with
    | absent => exact stops_mono (fun _ => isPlace_of_isDigit) placesStop
    | places => exact stops_cons.mpr (by decide)
  simp only [readUnsigned, readDigitRun_run whole.toIsDigitRun digitsStop,
    readFraction_append fractional placesStop, readExponent_append exponential stops, bind,
    Except.bind]
  split
  case h_1 => cases whole.canonical _ rfl
  case h_2 => cases places? <;> cases power? <;> rfl

theorem whole?_of_isInteger {size : Nat} (small : IsInteger negative size) :
    whole? negative size = .ok (.int (signed negative size)) := by
  cases negative with
  | true =>
      have inside : (0 < size && size ≤ Nat.pow 2 63) = true := by simpa [IsInteger] using small
      simp only [whole?, inside, if_true, signed]
  | false => exact if_pos small

theorem whole?_of_not_isInteger {size : Nat} (large : ¬ IsInteger negative size) :
    whole? negative size = double? negative size 0 := by
  cases negative with
  | true =>
      have outside : (0 < size && size ≤ Nat.pow 2 63) = false := by simpa [IsInteger] using large
      simp only [whole?, outside, if_true, Bool.false_eq_true, if_false]
  | false => exact if_neg large

theorem double?_of_isFinite {size : Nat} {exponent : Int} {bits : UInt64}
    (nearest : Double.ofDecimal negative size exponent = bits)
    (finite : Double.isFinite bits = true) :
    double? negative size exponent = .ok (.double bits) := by
  subst nearest
  exact if_pos finite

/-- A numeral that is no integer is the nearest double. -/
theorem numeral?_of_not_isInteger
    (notInteger : places? = none → power? = none →
      ¬ IsInteger negative (Nat.ofDigitChars 10 digits 0)) :
    numeral? negative digits places? power? =
      double? negative (Nat.ofDigitChars 10 (digits ++ places?.getD []) 0)
        (power?.getD 0 - ((places?.getD []).length : Int)) := by
  rw [← digitsValue_eq (digits ++ places?.getD [])]
  cases places? with
  | some places => rfl
  | none =>
      cases power? with
      | some power => rfl
      | none =>
          rw [numeral?, digitsValue_eq, whole?_of_not_isInteger (notInteger rfl rfl),
            Option.getD_none, List.append_nil, digitsValue_eq]
          rfl

theorem readNumber_minus (run : IsDigitRun digits) :
    readNumber (minus negative ++ (digits ++ rest)) = readUnsigned negative (digits ++ rest) := by
  cases negative with
  | true => rfl
  | false =>
      rw [minus, if_neg Bool.false_ne_true, List.nil_append]
      unfold readNumber
      split
      case h_1 minus => cases run.head_append minus
      case h_2 => rfl

/-- However a number is spelled, it is read up to where it cannot go on. -/
theorem readNumber_append {value : Json} (spelled : SpellsNumber text value)
    (stops : Stops isNumeric rest) : readNumber (text ++ rest) = .ok (value, rest) := by
  cases spelled with
  | @integer negative digits whole small =>
      have parts := readUnsigned_append negative whole .absent .absent stops
      rw [numeral?, digitsValue_eq, whole?_of_isInteger small] at parts
      rw [List.append_assoc, readNumber_minus whole.toIsDigitRun]
      exact parts
  | double whole fractional exponential notInteger nearest finite =>
      simp only [List.append_assoc]
      rw [readNumber_minus whole.toIsDigitRun,
        readUnsigned_append _ whole fractional exponential stops,
        numeral?_of_not_isInteger notInteger, double?_of_isFinite nearest finite]
      rfl

end Json
end KubeLens
