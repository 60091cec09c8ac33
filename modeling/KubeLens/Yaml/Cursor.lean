/-!
# A position in a YAML text

A cursor holds what is left of the text, the number of characters passed, and the line and
column reached.  The end of the text counts as a blank.
-/

namespace KubeLens
namespace Yaml

/-- Characters that may occur in a YAML text. -/
def isAllowed (c : Char) : Bool :=
  let n := c.toNat
  n == 0x09 || n == 0x0A || n == 0x0D || (0x20 ≤ n && n ≤ 0x7E) || n == 0x85 ||
    (0xA0 ≤ n && n ≤ 0xD7FF) || (0xE000 ≤ n && n ≤ 0xFFFD) || 0x10000 ≤ n

/-- A space or a tab. -/
def isBlank (c : Char) : Bool :=
  c == ' ' || c == '\t'

/-- A character that ends a line. -/
def isBreak (c : Char) : Bool :=
  c == '\r' || c == '\n' || c.toNat == 0x85 || c.toNat == 0x2028 || c.toNat == 0x2029

/-- A character of a name: an anchor, a tag handle or a directive. -/
def isNameChar (c : Char) : Bool :=
  ('0' ≤ c && c ≤ '9') || ('A' ≤ c && c ≤ 'Z') || ('a' ≤ c && c ≤ 'z') || c == '_' || c == '-'

/-- A position in a text. -/
structure Cursor where
  rest : List Char
  index : Nat := 0
  line : Nat := 0
  column : Nat := 0

namespace Cursor

/-- The next character. -/
def peek? (at_ : Cursor) : Option Char :=
  at_.rest.head?

/-- The character `offset` places further. -/
def peekAt? (at_ : Cursor) (offset : Nat) : Option Char :=
  at_.rest[offset]?

/-- Whether the next character is `c`. -/
def sees (at_ : Cursor) (c : Char) : Bool :=
  at_.peek? == some c

/-- Whether the character `offset` places further satisfies `p`; the end of the text does not. -/
def has (at_ : Cursor) (offset : Nat) (p : Char → Bool) : Bool :=
  match at_.peekAt? offset with
  | some c => p c
  | none => false

/-- Whether a blank, a line break or the end of the text is `offset` places further. -/
def endsWord (at_ : Cursor) (offset : Nat) : Bool :=
  match at_.peekAt? offset with
  | some c => isBlank c || isBreak c
  | none => true

/-- Whether the next character ends the line. -/
def endsLine (at_ : Cursor) : Bool :=
  match at_.peek? with
  | some c => isBreak c
  | none => true

/-- Whether the whole text is passed. -/
def atEnd (at_ : Cursor) : Bool :=
  at_.rest.isEmpty

/-- Passes one character within a line. -/
def skip (at_ : Cursor) : Cursor :=
  { at_ with rest := at_.rest.drop 1, index := at_.index + 1, column := at_.column + 1 }

/-- Passes several characters within a line. -/
def skipMany (at_ : Cursor) (count : Nat) : Cursor :=
  { at_ with
    rest := at_.rest.drop count, index := at_.index + count, column := at_.column + count }

/-- Passes a line break; a carriage return and a line feed together are one. -/
def skipLine (at_ : Cursor) : Cursor :=
  match at_.rest with
  | '\r' :: '\n' :: rest =>
    { rest, index := at_.index + 2, line := at_.line + 1, column := 0 }
  | c :: rest =>
    if isBreak c then { rest, index := at_.index + 1, line := at_.line + 1, column := 0 }
    else at_
  | [] => at_

/-- The content of the line break at the cursor: every break but the two Unicode separators is
a line feed. -/
def lineBreak (at_ : Cursor) : List Char :=
  match at_.rest with
  | c :: _ =>
    if c.toNat == 0x2028 || c.toNat == 0x2029 then [c]
    else if isBreak c then ['\n'] else []
  | [] => []

/-- Passes the characters that satisfy `p`, up to the end of the line. -/
def skipWhile (at_ : Cursor) (p : Char → Bool) : Cursor :=
  at_.skipMany (at_.rest.takeWhile fun c => p c && !isBreak c).length

/-- The run of characters that satisfy `p`, and the cursor after it. -/
def span (at_ : Cursor) (p : Char → Bool) : List Char × Cursor :=
  let run := at_.rest.takeWhile fun c => p c && !isBreak c
  (run, at_.skipMany run.length)

/-- Whether a document marker made of `mark` three times stands at the start of a line. -/
def seesMarker (at_ : Cursor) (mark : Char) : Bool :=
  at_.column == 0 && [mark, mark, mark].isPrefixOf at_.rest && at_.endsWord 3

end Cursor
end Yaml
end KubeLens
