/-!
# Blank characters and trimming

A character is blank when it has the Unicode property White_Space.  `trim` drops blanks from
both ends of a text; it never looks inside.
-/

namespace KubeLens
namespace Text

/-- The characters with the Unicode property White_Space. -/
def isBlank (c : Char) : Bool :=
  let n := c.toNat
  (9 ≤ n && n ≤ 13) || n == 0x20 || n == 0x85 || n == 0xA0 || n == 0x1680 ||
    (0x2000 ≤ n && n ≤ 0x200A) || n == 0x2028 || n == 0x2029 || n == 0x202F ||
    n == 0x205F || n == 0x3000

/-- `trim` on characters. -/
def trimChars (cs : List Char) : List Char :=
  ((cs.dropWhile isBlank).reverse.dropWhile isBlank).reverse

/-- The text without the blanks at its two ends. -/
def trim (s : String) : String :=
  String.ofList (trimChars s.toList)

/-- A text is blank when it has no other characters. -/
def isBlankText (s : String) : Bool :=
  s.toList.all isBlank

/-- Cuts at the first `separator`, which belongs to neither part. -/
def splitOnce (separator : Char) : List Char → Option (List Char × List Char)
  | [] => none
  | c :: rest =>
    if c = separator then some ([], rest)
    else (splitOnce separator rest).map fun parts => (c :: parts.1, parts.2)

/-- Cuts at every `separator`; the result is never empty. -/
def splitAll (separator : Char) : List Char → List (List Char)
  | [] => [[]]
  | c :: rest =>
    match splitAll separator rest with
    | [] => [[c]]
    | first :: others =>
      if c = separator then [] :: first :: others else (c :: first) :: others

/-- Whether `part` occurs in `cs` as a contiguous run. -/
def occursIn (part : List Char) : List Char → Bool
  | [] => part.isEmpty
  | c :: rest => part.isPrefixOf (c :: rest) || occursIn part rest

/-- Whether `part` occurs in `s`. -/
def contains (s part : String) : Bool :=
  occursIn part.toList s.toList

end Text
end KubeLens
