import KubeLens.Json.Reader
import Mathlib.Data.List.Forall2

/-!
# What a JSON text is

The grammar of JSON, as a relation between texts and values: which characters spell a value.  A
text may spell a string in many ways, put blanks between any two parts and write a number with a
fraction or an exponent.  A number has to be within the range of doubles, and containers nest up to
a limit.
-/

namespace KubeLens
namespace Json

/-! ## Strings -/

/-- The ways to write one character inside a string. -/
inductive SpellsChar : List Char → Char → Prop
  | plain {c : Char} (printable : 0x20 ≤ c.toNat) (notQuote : c ≠ '"') (notEscape : c ≠ '\\') :
      SpellsChar [c] c
  | letter {letter c : Char} (stands : escape? letter = some c) : SpellsChar ['\\', letter] c
  | code {a b c d : Char} {n : Nat} (digits : hexQuad? a b c d = some n)
      (notHigh : isHighSurrogate n = false) (notLow : isLowSurrogate n = false) :
      SpellsChar ['\\', 'u', a, b, c, d] (Char.ofNat n)
  | pair {a b c d e f g h : Char} {high low : Nat} (first : hexQuad? a b c d = some high)
      (isHigh : isHighSurrogate high = true) (second : hexQuad? e f g h = some low)
      (isLow : isLowSurrogate low = true) :
      SpellsChar ['\\', 'u', a, b, c, d, '\\', 'u', e, f, g, h] (joinSurrogates high low)

/-- Whether a text is a string, written between quotes. -/
def SpellsString (text : List Char) (s : String) : Prop :=
  ∃ parts : List (List Char), List.Forall₂ SpellsChar parts s.toList ∧
    text = '"' :: (parts.flatten ++ ['"'])

/-! ## Numbers -/

/-- Whether a text is a run of digits, at least one. -/
structure IsDigitRun (digits : List Char) : Prop where
  some : digits ≠ []
  all : ∀ c ∈ digits, Text.isDigit c = true

/-- Whether a text is a whole number, without a zero in front of other digits. -/
structure IsWhole (digits : List Char) : Prop extends IsDigitRun digits where
  canonical : ∀ rest, digits = '0' :: rest → rest = []

/-- The number with this size that is negative or not. -/
def signed (negative : Bool) (size : Nat) : Int :=
  if negative then -(size : Int) else size

/-- The sign of a number. -/
def minus (negative : Bool) : List Char :=
  if negative then ['-'] else []

/-- The optional fraction of a number, with its digits. -/
inductive SpellsFraction : List Char → Option (List Char) → Prop
  | absent : SpellsFraction [] none
  | places {digits : List Char} (run : IsDigitRun digits) :
      SpellsFraction ('.' :: digits) (some digits)

/-- The optional exponent of a number. -/
inductive SpellsExponent : List Char → Option Int → Prop
  | absent : SpellsExponent [] none
  | power {mark : Char} {sign digits : List Char} {negative : Bool}
      (marks : mark = 'e' ∨ mark = 'E')
      (signs : sign = minus negative ∨ sign = ['+'] ∧ negative = false)
      (run : IsDigitRun digits) :
      SpellsExponent (mark :: (sign ++ digits))
        (some (signed negative (Nat.ofDigitChars 10 digits 0)))

/-- Whether a whole number is an integer of 64 bits; zero with a minus sign is not. -/
def IsInteger (negative : Bool) (size : Nat) : Prop :=
  if negative then 0 < size ∧ size ≤ Nat.pow 2 63 else size < Nat.pow 2 64

/-- The ways to write a number.  Integers of 64 bits without fraction and exponent stay whole; any
other number is the nearest double, which must be finite. -/
inductive SpellsNumber : List Char → Json → Prop
  | integer {negative : Bool} {digits : List Char} (whole : IsWhole digits)
      (small : IsInteger negative (Nat.ofDigitChars 10 digits 0)) :
      SpellsNumber (minus negative ++ digits)
        (.int (signed negative (Nat.ofDigitChars 10 digits 0)))
  | double {negative : Bool} {digits fraction exponent : List Char}
      {places? : Option (List Char)} {power? : Option Int} {bits : UInt64}
      (whole : IsWhole digits) (fractional : SpellsFraction fraction places?)
      (exponential : SpellsExponent exponent power?)
      (notInteger : places? = none → power? = none →
        ¬ IsInteger negative (Nat.ofDigitChars 10 digits 0))
      (nearest : Double.ofDecimal negative
        (Nat.ofDigitChars 10 (digits ++ places?.getD []) 0)
        (power?.getD 0 - ((places?.getD []).length : Int)) = bits)
      (finite : Double.isFinite bits = true) :
      SpellsNumber (minus negative ++ (digits ++ (fraction ++ exponent))) (.double bits)

/-! ## Values -/

/-- The ways to write a value that is not a container. -/
inductive SpellsScalar : List Char → Json → Prop
  | null : SpellsScalar ['n', 'u', 'l', 'l'] .null
  | yes : SpellsScalar ['t', 'r', 'u', 'e'] (.bool true)
  | no : SpellsScalar ['f', 'a', 'l', 's', 'e'] (.bool false)
  | number {text : List Char} {value : Json} (number : SpellsNumber text value) :
      SpellsScalar text value
  | str {text : List Char} {s : String} (string : SpellsString text s) :
      SpellsScalar text (.str s)

section Parts

variable {α : Type} (spells : List Char → α → Prop)

/-- A part between blanks. -/
inductive Padded : List Char → α → Prop
  | blanks {before text after : List Char} {part : α} (front : ∀ c ∈ before, isSpace c = true)
      (core : spells text part) (back : ∀ c ∈ after, isSpace c = true) :
      Padded (before ++ (text ++ after)) part

theorem Padded.bare {spells : List Char → α → Prop} {text : List Char} {part : α}
    (core : spells text part) : Padded spells text part := by
  have padded : Padded spells ([] ++ (text ++ [])) part := .blanks nofun core nofun
  rwa [List.nil_append, List.append_nil] at padded

/-- At least one part, with a comma between any two. -/
inductive Separated : List Char → List α → Prop
  | last {text : List Char} {part : α} (spelled : spells text part) : Separated text [part]
  | more {text rest : List Char} {part : α} {parts : List α} (spelled : spells text part)
      (others : Separated rest parts) : Separated (text ++ ',' :: rest) (part :: parts)

/-- The inside of a container: blanks only, or parts with commas between them. -/
inductive Listed : List Char → List α → Prop
  | empty {blanks : List Char} (blank : ∀ c ∈ blanks, isSpace c = true) : Listed blanks []
  | parts {text : List Char} {parts : List α} (parted : Separated spells text parts) :
      Listed text parts

end Parts

/-- A member of an object: its key, a colon and its value. -/
inductive SpellsMember (spells : List Char → Json → Prop) : List Char → String × Json → Prop
  | colon {left right : List Char} {key : String} {value : Json}
      (name : Padded SpellsString left key) (content : Padded spells right value) :
      SpellsMember spells (left ++ ':' :: right) (key, value)

/-- The ways to write a value whose containers nest at most so deep. -/
def Spells : Nat → List Char → Json → Prop
  | 0, text, value => SpellsScalar text value
  | depth + 1, text, value =>
    SpellsScalar text value ∨
      (∃ inner items, Listed (Padded (Spells depth)) inner items ∧
        text = '[' :: (inner ++ [']']) ∧ value = .arr items) ∨
      ∃ inner members, Listed (SpellsMember (Spells depth)) inner members ∧
        text = '{' :: (inner ++ ['}']) ∧ value = .obj members

theorem spells_of_scalar {depth : Nat} {text : List Char} {value : Json}
    (spelled : SpellsScalar text value) : Spells depth text value := by
  cases depth with
  | zero => exact spelled
  | succ => exact .inl spelled

/-- Whether a text is the text of a value, with containers nested up to a limit. -/
def IsText (limit : Nat) (text : String) (value : Json) : Prop :=
  Padded (Spells limit) text.toList value

end Json
end KubeLens
