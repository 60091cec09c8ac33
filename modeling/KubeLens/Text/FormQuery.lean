import KubeLens.Text.Blank
import KubeLens.Text.Utf8

/-!
# Form-encoded query strings

A query is a list of pairs separated by ampersands, each pair a name and a value separated by
the first equals sign.  In both a plus sign stands for a space and a percent sign with two hex
digits for an octet; a percent sign without them stands for itself.
-/

namespace KubeLens
namespace Text

/-- The value of an octet that is an ASCII hex digit. -/
def hexOctet (octet : Nat) : Option Nat :=
  if 0x30 ≤ octet && octet ≤ 0x39 then some (octet - 0x30)
  else if 0x41 ≤ octet && octet ≤ 0x46 then some (octet - 0x41 + 10)
  else if 0x61 ≤ octet && octet ≤ 0x66 then some (octet - 0x61 + 10)
  else none

/-- Undoes plus signs and percent escapes. -/
def unescapeOctets : List Nat → List Nat
  | [] => []
  | [a] => [if a = 0x2B then 0x20 else a]
  | [a, b] => (if a = 0x2B then 0x20 else a) :: unescapeOctets [b]
  | a :: b :: c :: rest =>
    if a = 0x25 then
      match hexOctet b, hexOctet c with
      | some high, some low => (high * 16 + low) :: unescapeOctets rest
      | _, _ => a :: unescapeOctets (b :: c :: rest)
    else (if a = 0x2B then 0x20 else a) :: unescapeOctets (b :: c :: rest)

/-- The text of one name or value. -/
def unescapeForm (cs : List Char) : String :=
  decodeLossy (unescapeOctets (octets (String.ofList cs)))

/-- The pairs of a query string, in order; empty pieces are skipped. -/
def formPairs (query : String) : List (String × String) :=
  ((splitAll '&' query.toList).filter (!·.isEmpty)).map fun piece =>
    match splitOnce '=' piece with
    | some (name, value) => (unescapeForm name, unescapeForm value)
    | none => (unescapeForm piece, "")

end Text
end KubeLens
