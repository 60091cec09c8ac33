/-!
# Quoted text in messages

A text that is shown inside a message stands between double quotes, with a backslash before
quotes and backslashes and escapes for characters that cannot be shown.
-/

namespace KubeLens
namespace Text

/-- A hexadecimal numeral in lower-case digits without leading zeros. -/
def hexDigits (n : Nat) : List Char :=
  Nat.toDigits 16 n

/-- Characters without a visible form of their own: controls, formats, private use, unassigned
planes and all blanks but the space. -/
def isHidden (n : Nat) : Bool :=
  n < 0x20 || (0x7F ≤ n && n < 0xA1) || n == 0xAD || (0x378 ≤ n && n ≤ 0x379) ||
    (0x600 ≤ n && n ≤ 0x605) || n == 0x61C || n == 0x6DD || n == 0x70F || n == 0x1680 ||
    n == 0x180E || (0x2000 ≤ n && n ≤ 0x200F) || (0x2028 ≤ n && n ≤ 0x202F) ||
    (0x205F ≤ n && n ≤ 0x206F) || n == 0x3000 || (0xE000 ≤ n && n ≤ 0xF8FF) || n == 0xFEFF ||
    (0xFFF0 ≤ n && n ≤ 0xFFFB) || (0xFFFE ≤ n && n ≤ 0xFFFF) || 0xE0000 ≤ n

/-- Characters that attach to the one before them. -/
def isAttached (n : Nat) : Bool :=
  (0x300 ≤ n && n ≤ 0x36F) || (0x483 ≤ n && n ≤ 0x489) || (0x591 ≤ n && n ≤ 0x5BD) ||
    (0x610 ≤ n && n ≤ 0x61A) || (0x64B ≤ n && n ≤ 0x65F) || (0x20D0 ≤ n && n ≤ 0x20F0) ||
    (0xFE00 ≤ n && n ≤ 0xFE0F) || (0xFE20 ≤ n && n ≤ 0xFE2F)

/-- One character between the quotes. -/
def quoteChar (c : Char) : List Char :=
  let n := c.toNat
  if c == '"' || c == '\\' then ['\\', c]
  else if c == '\n' then ['\\', 'n']
  else if c == '\r' then ['\\', 'r']
  else if c == '\t' then ['\\', 't']
  else if n == 0 then ['\\', '0']
  else if isHidden n || isAttached n then "\\u\x7b".toList ++ hexDigits n ++ "\x7d".toList
  else [c]

/-- The text between quotes. -/
def quoted (s : String) : String :=
  String.ofList (['"'] ++ s.toList.flatMap quoteChar ++ ['"'])

end Text
end KubeLens
