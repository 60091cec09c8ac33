/-!
# Decimal numerals

Reading a non-negative decimal numeral below a bound.  A numeral is an optional plus sign and
at least one ASCII digit; leading zeros are allowed.
-/

namespace KubeLens
namespace Text

/-- Why a text is not a numeral below the bound. -/
inductive NumeralFault
  | empty
  | badDigit
  | tooLarge
  deriving DecidableEq, Repr

/-- What is said about a numeral that cannot be read. -/
def NumeralFault.message : NumeralFault → String
  | .empty => "cannot parse integer from empty string"
  | .badDigit => "invalid digit found in string"
  | .tooLarge => "number too large to fit in target type"

/-- An ASCII decimal digit. -/
def isDigit (c : Char) : Bool :=
  '0' ≤ c && c ≤ '9'

/-- The value of a decimal digit. -/
def digitValue (c : Char) : Nat :=
  c.toNat - '0'.toNat

/-- The value of a run of digits, most significant first. -/
def digitsValue (digits : List Char) : Nat :=
  digits.foldl (fun value c => value * 10 + digitValue c) 0

/-- Whether a run of digits can be read left to right, and stays below the bound.  The digit
that leaves the bound and the first foreign character are told apart by which comes first. -/
def readDigits (bound : Nat) : Nat → List Char → Except NumeralFault Nat
  | value, [] => .ok value
  | value, c :: rest =>
    if isDigit c then
      let next := value * 10 + digitValue c
      if next < bound then readDigits bound next rest else .error .tooLarge
    else .error .badDigit

/-- Reads a numeral whose value is less than `bound`. -/
def readNumeral (bound : Nat) (s : String) : Except NumeralFault Nat :=
  match s.toList with
  | [] => .error .empty
  | ['+'] => .error .badDigit
  | '+' :: digits => readDigits bound 0 digits
  | digits => readDigits bound 0 digits

end Text
end KubeLens
