import KubeLens.Decimal.Double
import KubeLens.Json.Basic

/-!
# Writing JSON texts

The compact form: no blanks, members in their order.  In strings only quotes, backslashes and
control characters are escaped.
-/

namespace KubeLens
namespace Json

/-- A hex digit in lower case. -/
def hexDigit (n : Nat) : Char :=
  if n < 10 then Char.ofNat ('0'.toNat + n) else Char.ofNat ('a'.toNat + (n - 10))

/-- One character inside a string. -/
def writeChar (c : Char) : List Char :=
  if c == '"' then ['\\', '"']
  else if c == '\\' then ['\\', '\\']
  else if c == '\x08' then ['\\', 'b']
  else if c == '\x0c' then ['\\', 'f']
  else if c == '\n' then ['\\', 'n']
  else if c == '\r' then ['\\', 'r']
  else if c == '\t' then ['\\', 't']
  else if c.toNat < 0x20 then
    ['\\', 'u', '0', '0', hexDigit (c.toNat / 16), hexDigit (c.toNat % 16)]
  else [c]

/-- A string with its quotes. -/
def writeString (s : String) : List Char :=
  '"' :: (s.toList.flatMap writeChar ++ ['"'])

/-- A whole number. -/
def writeInt : Int → List Char
  | .ofNat n => Nat.toDigits 10 n
  | .negSucc n => '-' :: Nat.toDigits 10 (n + 1)

/-- Digits with a point after the first one, when there are more. -/
def pointed : List Char → List Char
  | first :: second :: rest => first :: '.' :: second :: rest
  | digits => digits

/-- A finite double.  Magnitudes from `10^-5` up to `10^16` are written without an exponent. -/
def writeDouble (bits : UInt64) : List Char :=
  let sign := if Double.isNegative bits then ['-'] else []
  if (Double.fraction bits).1 = 0 then sign ++ ['0', '.', '0']
  else
    let (mantissa, exponent) := Double.shortest bits
    let digits := Nat.toDigits 10 mantissa
    let power := exponent + (digits.length : Int) - 1
    let body :=
      if exponent ≥ 0 && power < 16 then
        digits ++ List.replicate exponent.natAbs '0' ++ ['.', '0']
      else if 0 ≤ power && power < 16 then
        digits.take (power.natAbs + 1) ++ ['.'] ++ digits.drop (power.natAbs + 1)
      else if -5 ≤ power && power < 0 then
        ['0', '.'] ++ List.replicate (power.natAbs - 1) '0' ++ digits
      else pointed digits ++ ['e'] ++ writeInt power
    sign ++ body

mutual

/-- The compact form of a value. -/
def write : Json → List Char
  | null => ['n', 'u', 'l', 'l']
  | bool true => ['t', 'r', 'u', 'e']
  | bool false => ['f', 'a', 'l', 's', 'e']
  | int value => writeInt value
  | double bits => if Double.isFinite bits then writeDouble bits else ['n', 'u', 'l', 'l']
  | str value => writeString value
  | arr items => '[' :: (writeItems items ++ [']'])
  | obj members => '{' :: (writeMembers members ++ ['}'])

/-- Items separated by commas. -/
def writeItems : List Json → List Char
  | [] => []
  | [item] => write item
  | item :: rest => write item ++ (',' :: writeItems rest)

/-- Members separated by commas. -/
def writeMembers : List (String × Json) → List Char
  | [] => []
  | [(key, value)] => writeString key ++ (':' :: write value)
  | (key, value) :: rest => writeString key ++ (':' :: (write value ++ (',' :: writeMembers rest)))

end

/-- The compact text of a value. -/
def compact (value : Json) : String :=
  String.ofList value.write

mutual

/-- The value with the members of every object in the order of their keys. -/
def sortKeys : Json → Json
  | arr items => arr (sortKeysAll items)
  | obj members =>
    obj ((sortKeysMembers members).mergeSort fun a b => decide (a.1 ≤ b.1))
  | value => value

/-- `sortKeys` on the items of an array. -/
def sortKeysAll : List Json → List Json
  | [] => []
  | item :: rest => sortKeys item :: sortKeysAll rest

/-- `sortKeys` on the values of members. -/
def sortKeysMembers : List (String × Json) → List (String × Json)
  | [] => []
  | (key, value) :: rest => (key, sortKeys value) :: sortKeysMembers rest

end

end Json
end KubeLens
