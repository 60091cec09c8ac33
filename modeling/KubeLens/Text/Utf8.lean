/-!
# Reading octets as UTF-8

`decode` accepts exactly well-formed UTF-8.  `decodeLossy` always gives a text: each maximal
run of octets that starts a character but does not finish it, and each octet that can start
none, becomes one replacement character.
-/

namespace KubeLens
namespace Text

/-- The octets allowed after a leading octet: how many follow, and the bounds of the first of
them. -/
structure Utf8Lead where
  following : Nat
  low : Nat
  high : Nat

/-- What a leading octet of a character of several octets asks for. -/
def utf8Lead (octet : Nat) : Option Utf8Lead :=
  if 0xC2 ≤ octet && octet ≤ 0xDF then some ⟨1, 0x80, 0xBF⟩
  else if octet == 0xE0 then some ⟨2, 0xA0, 0xBF⟩
  else if octet == 0xED then some ⟨2, 0x80, 0x9F⟩
  else if 0xE1 ≤ octet && octet ≤ 0xEF then some ⟨2, 0x80, 0xBF⟩
  else if octet == 0xF0 then some ⟨3, 0x90, 0xBF⟩
  else if 0xF1 ≤ octet && octet ≤ 0xF3 then some ⟨3, 0x80, 0xBF⟩
  else if octet == 0xF4 then some ⟨3, 0x80, 0x8F⟩
  else none

/-- The payload bits of a leading octet before which `following` octets are due. -/
def utf8Payload (following octet : Nat) : Nat :=
  if following = 1 then octet % 0x20
  else if following = 2 then octet % 0x10
  else octet % 0x08

/-- Reads octets one by one.  The state is the character in progress: the octets still due, the
bounds of the next one and the bits so far.  A broken character is handed to `broken`, which
says what stands for it. -/
def decodeWith (broken : Option Char) :
    Option (Nat × Nat × Nat × Nat) → List Nat → Option (List Char)
  | none, [] => some []
  | some _, [] => broken.map ([·])
  | state, octet :: rest =>
    let fresh : Option (List Char) :=
      if octet < 0x80 then
        (decodeWith broken none rest).map (Char.ofNat octet :: ·)
      else
        match utf8Lead octet with
        | some lead =>
          decodeWith broken
            (some (lead.following, lead.low, lead.high, utf8Payload lead.following octet)) rest
        | none => do
          let mark ← broken
          (decodeWith broken none rest).map (mark :: ·)
    match state with
    | none => fresh
    | some (due, low, high, bits) =>
      if low ≤ octet && octet ≤ high then
        let bits := bits * 0x40 + octet % 0x40
        if due ≤ 1 then (decodeWith broken none rest).map (Char.ofNat bits :: ·)
        else decodeWith broken (some (due - 1, 0x80, 0xBF, bits)) rest
      else do
        let mark ← broken
        fresh.map (mark :: ·)

/-- The text that well-formed octets stand for. -/
def decode (octets : List Nat) : Option String :=
  (decodeWith none none octets).map String.ofList

/-- The text of any octets, with replacement characters for what is not well-formed. -/
def decodeLossy (octets : List Nat) : String :=
  match decodeWith (some (Char.ofNat 0xFFFD)) none octets with
  | some cs => String.ofList cs
  | none => ""

/-- The octets of a text. -/
def octets (s : String) : List Nat :=
  s.toUTF8.toList.map (·.toNat)

end Text
end KubeLens
