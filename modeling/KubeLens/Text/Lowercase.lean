import KubeLens.Text.CaseTable

/-!
# Lower-casing

Full Unicode lower-casing.  Every character maps on its own, with two exceptions: a capital I
with a dot above becomes two characters, and a capital sigma at the end of a word becomes a
final sigma.
-/

namespace KubeLens
namespace Text

/-- Whether `n` lies in one of the inclusive ranges. -/
def inRanges (ranges : List (Nat × Nat)) (n : Nat) : Bool :=
  ranges.any fun range => range.1 ≤ n && n ≤ range.2

/-- Characters that count as letters with a case when a word's end is sought. -/
def isCased (c : Char) : Bool :=
  inRanges casedRanges c.toNat

/-- Characters that are skipped when a word's end is sought. -/
def isCaseIgnorable (c : Char) : Bool :=
  inRanges ignorableRanges c.toNat

/-- The lower-case form of a character away from the end of a word. -/
def lowerChar (c : Char) : List Char :=
  let n := c.toNat
  if 'A' ≤ c && c ≤ 'Z' then [Char.ofNat (n + 32)]
  else if n < 0x80 then [c]
  else if n == 0x130 then ['i', Char.ofNat 0x307]
  else
    match lowerRuns.find? (·.holds n) with
    | some run => [Char.ofNat (n + run.shift).toNat]
    | none => [c]

/-- Whether the first character that is not case-ignorable is cased. -/
def leadsCased (cs : List Char) : Bool :=
  match cs.dropWhile isCaseIgnorable with
  | [] => false
  | c :: _ => isCased c

/-- Lower-cases `rest`, where `before` holds the characters already passed, latest first.  A
capital sigma is final when a cased character precedes it and none follows. -/
def lowerFrom : List Char → List Char → List Char
  | _, [] => []
  | before, c :: rest =>
    let lowered :=
      if c == 'Σ' then
        if leadsCased before && !leadsCased rest then ['ς'] else ['σ']
      else lowerChar c
    lowered ++ lowerFrom (c :: before) rest

/-- The lower-case form of a text. -/
def lowercase (s : String) : String :=
  String.ofList (lowerFrom [] s.toList)

end Text
end KubeLens
