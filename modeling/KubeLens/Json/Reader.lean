import KubeLens.Decimal.Double
import KubeLens.Json.Basic

/-!
# Reading JSON texts

The reader is strict: only the four ASCII blanks may surround values, control characters and
lone surrogates are refused in strings, and a number outside the range of doubles is refused.
Containers may nest up to a limit.  Repeated members of an object are all kept; `normalize`
merges them.  A text that is cut off where it could have gone on is told apart from one that no
continuation could mend.
-/

namespace KubeLens
namespace Json

/-- Why a text cannot be read. -/
inductive ReadFault
  /-- The text ends too early. -/
  | ended
  /-- No continuation of the text could be read. -/
  | malformed
  deriving DecidableEq, Repr

namespace ReadFault

/-- The fault of a text that lacks something in front of `rest`. -/
def before : List Char → ReadFault
  | [] => ended
  | _ :: _ => malformed

end ReadFault

/-- What was read from the front of a text, and the rest of the text. -/
abbrev Reading (α : Type) := Except ReadFault (α × List Char)

/-- The blanks of JSON. -/
def isSpace (c : Char) : Bool :=
  c == ' ' || c == '\t' || c == '\n' || c == '\r'

/-- The text after its leading blanks. -/
def skipSpace (cs : List Char) : List Char :=
  cs.dropWhile isSpace

/-- The value of a hex digit. -/
def hexValue? (c : Char) : Option Nat :=
  if '0' ≤ c && c ≤ '9' then some (c.toNat - '0'.toNat)
  else if 'a' ≤ c && c ≤ 'f' then some (c.toNat - 'a'.toNat + 10)
  else if 'A' ≤ c && c ≤ 'F' then some (c.toNat - 'A'.toNat + 10)
  else none

/-- The value of four hex digits. -/
def hexQuad? (a b c d : Char) : Option Nat := do
  let a ← hexValue? a
  let b ← hexValue? b
  let c ← hexValue? c
  let d ← hexValue? d
  some (((a * 16 + b) * 16 + c) * 16 + d)

/-- The first half of a surrogate pair. -/
def isHighSurrogate (n : Nat) : Bool :=
  0xD800 ≤ n && n < 0xDC00

/-- The second half of a surrogate pair. -/
def isLowSurrogate (n : Nat) : Bool :=
  0xDC00 ≤ n && n < 0xE000

/-- The character that a surrogate pair stands for. -/
def joinSurrogates (high low : Nat) : Char :=
  Char.ofNat (0x10000 + (high - 0xD800) * 0x400 + (low - 0xDC00))

/-- The character that a one-letter escape stands for. -/
def escape? (c : Char) : Option Char :=
  if c == '"' then some '"'
  else if c == '\\' then some '\\'
  else if c == '/' then some '/'
  else if c == 'b' then some '\x08'
  else if c == 'f' then some '\x0c'
  else if c == 'n' then some '\n'
  else if c == 'r' then some '\r'
  else if c == 't' then some '\t'
  else none

/-- Puts a character in front of what was read. -/
def prepend (c : Char) (read : List Char × List Char) : List Char × List Char :=
  (c :: read.1, read.2)

/-- The fault of a first half of a surrogate pair in front of a text that does not hold a whole
escape of four digits. -/
def lonelyFault : List Char → ReadFault
  | [] | ['\\'] | '\\' :: 'u' :: _ => .ended
  | _ => .malformed

/-- Reads the rest of a string after its opening quote: its characters and what follows the
closing quote. -/
def readString : List Char → Reading (List Char)
  | [] => .error .ended
  | '"' :: rest => .ok ([], rest)
  | '\\' :: 'u' :: a :: b :: c :: d :: '\\' :: 'u' :: e :: f :: g :: h :: rest =>
    match hexQuad? a b c d with
    | none => .error .malformed
    | some first =>
      if isHighSurrogate first then
        match hexQuad? e f g h with
        | none => .error .malformed
        | some second =>
          if isLowSurrogate second then
            (readString rest).map (prepend (joinSurrogates first second))
          else .error .malformed
      else if isLowSurrogate first then .error .malformed
      else
        (readString ('\\' :: 'u' :: e :: f :: g :: h :: rest)).map (prepend (Char.ofNat first))
  | '\\' :: 'u' :: a :: b :: c :: d :: rest =>
    match hexQuad? a b c d with
    | none => .error .malformed
    | some n =>
      if isHighSurrogate n then .error (lonelyFault rest)
      else if isLowSurrogate n then .error .malformed
      else (readString rest).map (prepend (Char.ofNat n))
  | '\\' :: 'u' :: _ => .error .ended
  | '\\' :: c :: rest =>
    match escape? c with
    | none => .error .malformed
    | some plain => (readString rest).map (prepend plain)
  | ['\\'] => .error .ended
  | c :: rest =>
    if c.toNat < 0x20 then .error .malformed else (readString rest).map (prepend c)

/-- Reads at least one digit. -/
def readDigitRun (cs : List Char) : Reading (List Char) :=
  match cs.takeWhile Text.isDigit with
  | [] => .error (.before cs)
  | digits => .ok (digits, cs.dropWhile Text.isDigit)

/-- Reads an optional fraction: its digits, none when there is no point. -/
def readFraction : List Char → Reading (Option (List Char))
  | '.' :: rest => (readDigitRun rest).map fun read => (some read.1, read.2)
  | cs => .ok (none, cs)

/-- Reads the digits of an exponent. -/
def readPower (negative : Bool) (cs : List Char) : Reading (Option Int) :=
  (readDigitRun cs).map fun read =>
    let size : Int := Text.digitsValue read.1
    (some (if negative then -size else size), read.2)

/-- Reads an optional exponent. -/
def readExponent : List Char → Reading (Option Int)
  | c :: rest =>
    if c == 'e' || c == 'E' then
      match rest with
      | '+' :: rest => readPower false rest
      | '-' :: rest => readPower true rest
      | _ => readPower false rest
    else .ok (none, c :: rest)
  | [] => .ok (none, [])

/-- A double, unless it is out of range. -/
def double? (negative : Bool) (mantissa : Nat) (exponent : Int) : Except ReadFault Json :=
  let bits := Double.ofDecimal negative mantissa exponent
  if Double.isFinite bits then .ok (.double bits) else .error .malformed

/-- The number of a numeral without fraction and exponent.  Whole numbers beyond 64 bits, and
zero with a minus sign, are doubles. -/
def whole? (negative : Bool) (size : Nat) : Except ReadFault Json :=
  if negative then
    if 0 < size && size ≤ Nat.pow 2 63 then .ok (.int (-(size : Int))) else double? true size 0
  else
    if size < Nat.pow 2 64 then .ok (.int size) else double? false size 0

/-- Reads a number after its sign. -/
def readUnsigned (negative : Bool) (cs : List Char) :
    Except ReadFault (Json × List Char) := do
  let (digits, rest) ← readDigitRun cs
  match digits with
  | '0' :: _ :: _ => .error .malformed
  | _ =>
    let (fraction, rest) ← readFraction rest
    let (exponent, rest) ← readExponent rest
    let value ←
      match fraction, exponent with
      | none, none => whole? negative (Text.digitsValue digits)
      | _, _ =>
        let places := fraction.getD []
        double? negative (Text.digitsValue (digits ++ places))
          (exponent.getD 0 - (places.length : Int))
    .ok (value, rest)

/-- Reads a number. -/
def readNumber : List Char → Reading Json
  | '-' :: rest => readUnsigned true rest
  | cs => readUnsigned false cs

/-- Reads a fixed word. -/
def readWord (word : List Char) (value : Json) (cs : List Char) : Reading Json :=
  if word.isPrefixOf cs then .ok (value, cs.drop word.length)
  else if cs.isPrefixOf word then .error .ended
  else .error .malformed

mutual

/-- Reads one value.  `depth` is how many containers may still be opened; `fuel` bounds the
number of steps. -/
def readValue (fuel depth : Nat) (cs : List Char) : Reading Json :=
  match fuel with
  | 0 => .error .malformed
  | fuel + 1 =>
    match skipSpace cs with
    | [] => .error .ended
    | '"' :: rest => (readString rest).map fun read => (.str (String.ofList read.1), read.2)
    | '[' :: rest =>
      match depth with
      | 0 => .error .malformed
      | depth + 1 =>
        match skipSpace rest with
        | ']' :: rest => .ok (.arr [], rest)
        | rest => (readItems fuel depth rest).map fun read => (.arr read.1, read.2)
    | '{' :: rest =>
      match depth with
      | 0 => .error .malformed
      | depth + 1 =>
        match skipSpace rest with
        | '}' :: rest => .ok (.obj [], rest)
        | rest => (readMembers fuel depth rest).map fun read => (.obj read.1, read.2)
    | 'n' :: rest => readWord ['u', 'l', 'l'] .null rest
    | 't' :: rest => readWord ['r', 'u', 'e'] (.bool true) rest
    | 'f' :: rest => readWord ['a', 'l', 's', 'e'] (.bool false) rest
    | cs => readNumber cs

/-- Reads the items of an array that has at least one, and its closing bracket. -/
def readItems (fuel depth : Nat) (cs : List Char) : Reading (List Json) :=
  match fuel with
  | 0 => .error .malformed
  | fuel + 1 =>
    match readValue fuel depth cs with
    | .error fault => .error fault
    | .ok (item, rest) =>
      match skipSpace rest with
      | ',' :: rest => (readItems fuel depth rest).map fun read => (item :: read.1, read.2)
      | ']' :: rest => .ok ([item], rest)
      | rest => .error (.before rest)

/-- Reads the members of an object that has at least one, and its closing brace. -/
def readMembers (fuel depth : Nat) (cs : List Char) : Reading (List (String × Json)) :=
  match fuel with
  | 0 => .error .malformed
  | fuel + 1 =>
    match skipSpace cs with
    | '"' :: rest =>
      match readString rest with
      | .error fault => .error fault
      | .ok (key, rest) =>
        match skipSpace rest with
        | ':' :: rest =>
          match readValue fuel depth rest with
          | .error fault => .error fault
          | .ok (value, rest) =>
            let member := (String.ofList key, value)
            match skipSpace rest with
            | ',' :: rest =>
              (readMembers fuel depth rest).map fun read => (member :: read.1, read.2)
            | '}' :: rest => .ok ([member], rest)
            | rest => .error (.before rest)
        | rest => .error (.before rest)
    | rest => .error (.before rest)

end

/-- Steps that suffice for any text: each takes a character or goes from a container to its
first part. -/
def stepBound (cs : List Char) : Nat :=
  2 * cs.length + 2

/-- Reads a text that holds one value whose containers nest at most `limit` deep. -/
def readWithin (limit : Nat) (text : String) : Except ReadFault Json :=
  let cs := text.toList
  match readValue (stepBound cs) limit cs with
  | .ok (value, rest) => if (skipSpace rest).isEmpty then .ok value else .error .malformed
  | .error fault => .error fault

/-- How deep containers may nest. -/
def nestingLimit : Nat := 127

/-- Reads a text that holds one value. -/
def read (text : String) : Except ReadFault Json :=
  readWithin nestingLimit text

/-- The value that a text holds, if it can be read. -/
def read? (text : String) : Option Json :=
  (read text).toOption

end Json
end KubeLens
