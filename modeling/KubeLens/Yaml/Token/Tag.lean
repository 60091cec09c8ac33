import KubeLens.Text.Utf8
import KubeLens.Yaml.Cursor
import KubeLens.Yaml.Token

/-!
# Scanning names, tags and directives

Anchors and aliases are names.  A tag is a handle and a suffix; a directive says which version
of YAML a document is written in, or what a handle stands for.  As for scalars, each scan gives
nothing when the text is malformed.
-/

namespace KubeLens
namespace Yaml

/-- Characters that may follow a name without a blank between. -/
def endsName (c : Char) : Bool :=
  isBlank c || isBreak c || c == '?' || c == ':' || c == ',' || c == ']' || c == '}' ||
    c == '%' || c == '@' || c == '\x60'

/-- Scans the name of an anchor or an alias after its indicator. -/
def scanName (at_ : Cursor) : Option (String × Cursor) :=
  let (name, next) := at_.span isNameChar
  if name.isEmpty || !(next.atEnd || next.has 0 endsName) then none
  else some (String.ofList name, next)

/-- Characters of a tag's suffix.  A `wide` suffix may also hold a comma and brackets. -/
def isTagChar (wide : Bool) (c : Char) : Bool :=
  isNameChar c || [';', '/', '?', ':', '@', '&', '=', '+', '$', '.', '!', '~', '*', '\'', '(',
    ')'].contains c || (wide && (c == ',' || c == '[' || c == ']'))

/-- An octet written as a percent sign and two hex digits. -/
def escapedOctet? : List Char → Option Nat
  | '%' :: high :: low :: _ => do
    let digit (c : Char) : Option Nat :=
      if '0' ≤ c && c ≤ '9' then some (c.toNat - '0'.toNat)
      else if 'a' ≤ c && c ≤ 'f' then some (c.toNat - 'a'.toNat + 10)
      else if 'A' ≤ c && c ≤ 'F' then some (c.toNat - 'A'.toNat + 10)
      else none
    let high ← digit high
    let low ← digit low
    some (high * 16 + low)
  | _ => none

/-- How many octets a character has that starts with this one. -/
def octetCount? (octet : Nat) : Option Nat :=
  if octet < 0x80 then some 1
  else if 0xC0 ≤ octet && octet < 0xE0 then some 2
  else if 0xE0 ≤ octet && octet < 0xF0 then some 3
  else if 0xF0 ≤ octet && octet < 0xF8 then some 4
  else none

/-- Scans one escaped character of a tag's suffix. -/
def scanTagEscape (at_ : Cursor) : Option (List Char × Cursor) := do
  let first ← escapedOctet? at_.rest
  let count ← octetCount? first
  let octets ← (List.range count).mapM fun k => escapedOctet? (at_.rest.drop (3 * k))
  let text ← Text.decode octets
  some (text.toList, at_.skipMany (3 * count))

/-- Scans the characters of a tag's suffix. -/
def scanTagChars (wide : Bool) : Nat → Cursor → Option (List Char × Cursor)
  | 0, at_ => some ([], at_)
  | fuel + 1, at_ =>
    match at_.peek? with
    | none => some ([], at_)
    | some c =>
      if c == '%' then do
        let (escaped, next) ← scanTagEscape at_
        let (rest, next) ← scanTagChars wide fuel next
        some (escaped ++ rest, next)
      else if isTagChar wide c then do
        let (rest, next) ← scanTagChars wide fuel at_.skip
        some (c :: rest, next)
      else some ([], at_)

/-- Scans a suffix that must not be empty. -/
def scanSuffix (wide : Bool) (at_ : Cursor) : Option (List Char × Cursor) :=
  match scanTagChars wide (at_.rest.length + 1) at_ with
  | some ([], _) => none
  | result => result

/-- Scans a handle: an exclamation mark, a name and maybe another exclamation mark. -/
def scanHandle (at_ : Cursor) : Option (List Char × Cursor) :=
  if !at_.sees '!' then none
  else
    let (name, next) := at_.skip.span isNameChar
    if next.sees '!' then some ('!' :: name ++ ['!'], next.skip) else some ('!' :: name, next)

/-- Scans a tag at its exclamation mark. -/
def scanTag (inFlow : Bool) (at_ : Cursor) : Option (Token × Cursor) := do
  let (handle, suffix, next) ←
    if at_.has 1 (· == '<') then do
      let (suffix, next) ← scanSuffix true (at_.skipMany 2)
      if next.sees '>' then some ([], suffix, next.skip) else none
    else do
      let (handle, next) ← scanHandle at_
      if handle.length > 1 && handle.getLast? == some '!' then do
        let (suffix, next) ← scanSuffix false next
        some (handle, suffix, next)
      else do
        let (rest, next) ← scanTagChars false (next.rest.length + 1) next
        let suffix := handle.drop 1 ++ rest
        if suffix.isEmpty then some ([], ['!'], next) else some (['!'], suffix, next)
  if next.endsWord 0 || (inFlow && next.sees ',') then
    some (.tag (String.ofList handle) (String.ofList suffix), next)
  else none

/-- Scans a part of a version: one to nine digits. -/
def scanVersionPart (at_ : Cursor) : Option (Nat × Cursor) :=
  let (digits, next) := at_.span fun c => '0' ≤ c && c ≤ '9'
  if digits.isEmpty || digits.length > 9 then none
  else some (digits.foldl (fun value c => value * 10 + (c.toNat - '0'.toNat)) 0, next)

/-- Scans the version after `%YAML`. -/
def scanVersion (at_ : Cursor) : Option (Token × Cursor) := do
  let (major, next) ← scanVersionPart at_
  if !next.sees '.' then none
  let (minor, next) ← scanVersionPart next.skip
  some (.version major minor, next)

/-- Scans the handle after `%TAG` and what it stands for. -/
def scanTagHandle (at_ : Cursor) : Option (Token × Cursor) := do
  let (handle, next) ← scanHandle at_
  if handle.length > 1 && handle.getLast? != some '!' then none
  if !next.has 0 isBlank then none
  let (target, next) ← scanSuffix true (next.skipWhile isBlank)
  if !next.endsWord 0 then none
  some (.tagHandle (String.ofList handle) (String.ofList target), next)

/-- Scans a directive at its percent sign, with the rest of its line. -/
def scanDirective (at_ : Cursor) : Option (Token × Cursor) := do
  let (name, next) := at_.skip.span isNameChar
  if !next.endsWord 0 then none
  let (token, next) ←
    if name == "YAML".toList then scanVersion (next.skipWhile isBlank)
    else if name == "TAG".toList then scanTagHandle (next.skipWhile isBlank)
    else none
  let next := next.skipWhile isBlank
  let next := if next.sees '#' then next.skipWhile fun _ => true else next
  if next.endsLine then some (token, next.skipLine) else none

end Yaml
end KubeLens
