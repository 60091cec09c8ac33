import KubeLens.Decimal.Double
import KubeLens.Yaml.Tree

/-!
# YAML values

A value is a tree whose plain scalars are read as null, booleans, numbers or strings.  A plain
scalar that looks like a number but has leading zeros, and one that is out of the range of
doubles, is a string.
-/

namespace KubeLens
namespace Yaml

/-- A value. -/
inductive Value where
  | null
  | bool (value : Bool)
  | int (value : Int)
  | double (bits : UInt64)
  | str (value : String)
  | seq (items : List Value)
  | map (pairs : List (Value × Value))
  deriving Inhabited

namespace Value

/-- The texts of null. -/
def isNullText (text : String) : Bool :=
  ["null", "Null", "NULL", "~"].contains text

/-- The boolean with this text. -/
def bool? (text : String) : Option Bool :=
  if ["true", "True", "TRUE"].contains text then some true
  else if ["false", "False", "FALSE"].contains text then some false
  else none

/-- The value of a digit in a base. -/
def digitIn? (base : Nat) (c : Char) : Option Nat :=
  (hexValue? c).filter (· < base)

/-- The value of a non-empty run of digits in a base. -/
def natIn? (base : Nat) : List Char → Option Nat
  | [] => none
  | digits => (digits.mapM (digitIn? base)).map (·.foldl (fun value d => value * base + d) 0)

/-- Whether a text has only digits after an optional sign, more than one, and a zero in front. -/
def hasLeadingZero (cs : List Char) : Bool :=
  let digits :=
    match cs with
    | '+' :: rest | '-' :: rest => rest
    | rest => rest
  match digits with
  | '0' :: second :: rest => (second :: rest).all Text.isDigit
  | _ => false

/-- The whole number without sign in a text: decimal, or in a base that its first two
characters tell. -/
def magnitude? (cs : List Char) : Option Nat :=
  match cs with
  | '0' :: 'x' :: digits => natIn? 16 digits
  | '0' :: 'o' :: digits => natIn? 8 digits
  | '0' :: 'b' :: digits => natIn? 2 digits
  | digits => if hasLeadingZero digits then none else natIn? 10 digits

/-- The whole number with this text. -/
def int? (text : String) : Option Int :=
  match text.toList with
  | '-' :: rest => (magnitude? rest).map fun size => -(size : Int)
  | '+' :: rest => (magnitude? rest).map fun size => (size : Int)
  | rest => (magnitude? rest).map fun size => (size : Int)

/-- The exponent after the digits of a decimal number; none of it is zero. -/
def exponent? : List Char → Option Int
  | [] => some 0
  | c :: rest =>
    if c == 'e' || c == 'E' then
      match rest with
      | '-' :: digits => (natIn? 10 digits).map fun size => -(size : Int)
      | '+' :: digits => (natIn? 10 digits).map fun size => (size : Int)
      | digits => (natIn? 10 digits).map fun size => (size : Int)
    else none

/-- The finite double nearest to a decimal number without sign. -/
def decimal? (negative : Bool) (cs : List Char) : Option UInt64 := do
  let whole := cs.takeWhile Text.isDigit
  let (places, rest) :=
    match cs.dropWhile Text.isDigit with
    | '.' :: rest => (rest.takeWhile Text.isDigit, rest.dropWhile Text.isDigit)
    | rest => ([], rest)
  if whole.isEmpty && places.isEmpty then none
  let exponent ← exponent? rest
  let bits :=
    Double.ofDecimal negative (Text.digitsValue (whole ++ places))
      (exponent - (places.length : Int))
  if Double.isFinite bits then some bits else none

/-- The bits of the infinities and of the value that is no number. -/
def infinityBits : UInt64 := 0x7FF0000000000000

/-- The bits of the value that is no number. -/
def nanBits : UInt64 := 0x7FF8000000000000

/-- The double with this text. -/
def double? (text : String) : Option UInt64 :=
  if [".nan", ".NaN", ".NAN"].contains text then some nanBits
  else if [".inf", ".Inf", ".INF", "+.inf", "+.Inf", "+.INF"].contains text then
    some infinityBits
  else if ["-.inf", "-.Inf", "-.INF"].contains text then
    some (infinityBits ||| 0x8000000000000000)
  else
    match text.toList with
    | '-' :: rest => decimal? true rest
    | '+' :: rest => decimal? false rest
    | rest => decimal? false rest

/-- The numbers that a document can hold are those of 64 bits.  A larger whole number that 128
bits can hold is refused, and one beyond that is a double. -/
def ofInt? (value : Int) : Option (Option Value) :=
  if -Nat.pow 2 63 ≤ value && value < Nat.pow 2 64 then some (some (.int value))
  else if -Nat.pow 2 127 ≤ value && value < Nat.pow 2 128 then some none
  else none

/-- The value of a plain scalar. -/
def ofPlain (text : String) : Option Value :=
  if text.isEmpty || isNullText text then some .null
  else
    match bool? text with
    | some value => some (.bool value)
    | none =>
      match (int? text).bind ofInt? with
      | some value => value
      | none =>
        match if hasLeadingZero text.toList then none else double? text with
        | some bits => some (.double bits)
        | none => some (.str text)

/-- The beginning of the tags that need no directive. -/
def coreTag (name : String) : String :=
  "tag:yaml.org,2002:" ++ name

/-- The value of a scalar.  A tag that names a type fixes it, a tag of the document's own is
refused, and any other tag makes a string. -/
def ofScalar (tag : Option String) (text : String) (plain : Bool) : Option Value :=
  match tag with
  | none => if plain then ofPlain text else some (.str text)
  | some tag =>
    if tag == coreTag "bool" then (bool? text).map .bool
    else if tag == coreTag "int" then ((int? text).bind ofInt?).join
    else if tag == coreTag "float" then (double? text).map .double
    else if tag == coreTag "null" then if isNullText text then some .null else none
    else if tag.startsWith "!" then none
    else some (.str text)

mutual

/-- Whether two values are the same key.  The two zeros are, and a value that is no number is
the same as any other such value. -/
def same : Value → Value → Bool
  | null, null => true
  | bool a, bool b => a == b
  | int a, int b => a == b
  | double a, double b =>
    a == b || (Double.isNaN a && Double.isNaN b) || (a <<< 1 == 0 && b <<< 1 == 0)
  | str a, str b => a == b
  | seq a, seq b => sameAll a b
  | map a, map b => a.length == b.length && sameWithin a b
  | _, _ => false

/-- `same` on items. -/
def sameAll : List Value → List Value → Bool
  | [], [] => true
  | a :: as, b :: bs => same a b && sameAll as bs
  | _, _ => false

/-- Whether each of the first pairs is among the second ones. -/
def sameWithin : List (Value × Value) → List (Value × Value) → Bool
  | [], _ => true
  | (key, value) :: rest, pairs => sameAmong key value pairs && sameWithin rest pairs

/-- Whether a pair is among the others. -/
def sameAmong (key value : Value) : List (Value × Value) → Bool
  | [] => false
  | (otherKey, otherValue) :: rest =>
    (same key otherKey && same value otherValue) || sameAmong key value rest

end

/-- Whether a key occurs twice. -/
def repeatsKey : List (Value × Value) → Bool
  | [] => false
  | (key, _) :: rest => rest.any (fun pair => same key pair.1) || repeatsKey rest

/-- A collection may not have a tag of the document's own. -/
def ownTag (tag : Option String) : Bool :=
  tag.any (·.startsWith "!")

mutual

/-- The value of a tree. -/
def ofTree? : Tree → Option Value
  | .scalar tag text plain => ofScalar tag text plain
  | .sequence tag items => do
    if ownTag tag then none
    let items ← ofTrees? items
    some (.seq items)
  | .mapping tag pairs => do
    if ownTag tag then none
    let pairs ← ofPairs? pairs
    if repeatsKey pairs then none
    some (.map pairs)

/-- The values of items. -/
def ofTrees? : List Tree → Option (List Value)
  | [] => some []
  | item :: rest => do
    let item ← ofTree? item
    let rest ← ofTrees? rest
    some (item :: rest)

/-- The values of pairs. -/
def ofPairs? : List (Tree × Tree) → Option (List (Value × Value))
  | [] => some []
  | (key, value) :: rest => do
    let key ← ofTree? key
    let value ← ofTree? value
    let rest ← ofPairs? rest
    some ((key, value) :: rest)

end

/-- The value under a text key of a mapping. -/
def member? (value : Value) (key : String) : Option Value :=
  match value with
  | map pairs => (pairs.find? fun pair => same pair.1 (.str key)).map (·.2)
  | _ => none

/-- The text of a string. -/
def asStr? : Value → Option String
  | str text => some text
  | _ => none

end Value

namespace Tree

/-- The text of a scalar as it is written, whatever its type. -/
def text? : Tree → Option String
  | scalar _ text _ => some text
  | _ => none

/-- Whether the tree is left out: an empty plain scalar. -/
def isMissing : Tree → Bool
  | scalar _ text true => text.isEmpty
  | _ => false

/-- An optional part: none when it is null or left out.  A part that is marked as null must be
null. -/
def optional? : Tree → Option (Option Tree)
  | scalar tag text true =>
    match tag with
    | none => if text.isEmpty || Value.isNullText text then some none else some (scalar none text true)
    | some name =>
      if name == Value.coreTag "null" then if Value.isNullText text then some none else none
      else some (some (scalar tag text true))
  | tree => some (some tree)

end Tree
end Yaml
end KubeLens
