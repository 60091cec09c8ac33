import KubeLens.Yaml.Cursor

/-!
# Scanning scalars

Plain, quoted and block scalars.  Line breaks inside a scalar fold: one break becomes a space,
and further breaks stay.  Each scan gives the text of the scalar and the cursor after it, or
nothing when the scalar is malformed.
-/

namespace KubeLens
namespace Yaml

/-- What was passed since the last visible character of a scalar: blanks on the same line, or
the first line break and those after it. -/
structure Gap where
  broken : Bool := false
  blanks : List Char := []
  first : List Char := []
  further : List Char := []

/-- The text that a gap between two visible characters folds to. -/
def Gap.fold (gap : Gap) : List Char :=
  if gap.broken then
    match gap.first with
    | '\n' :: _ => if gap.further.isEmpty then [' '] else gap.further
    | first => first ++ gap.further
  else gap.blanks

/-- Passes blanks and line breaks, collecting them in a gap.  In a plain scalar a tab may not
stand in the indentation of a further line: `least` is the column it may stand at. -/
def passGap (least : Option Int) : Nat → Gap → Cursor → Option (Gap × Cursor)
  | 0, gap, at_ => some (gap, at_)
  | fuel + 1, gap, at_ =>
    match at_.peek? with
    | none => some (gap, at_)
    | some c =>
      if isBlank c then
        let early :=
          match least with
          | some column => gap.broken && (at_.column : Int) < column && c == '\t'
          | none => false
        if early then none
        else
          let gap := if gap.broken then gap else { gap with blanks := gap.blanks ++ [c] }
          passGap least fuel gap at_.skip
      else if isBreak c then
        let gap :=
          if gap.broken then { gap with further := gap.further ++ at_.lineBreak }
          else { gap with broken := true, blanks := [], first := at_.lineBreak }
        passGap least fuel gap at_.skipLine
      else some (gap, at_)

/-- Characters that end a plain scalar inside brackets. -/
def isFlowEnd (c : Char) : Bool :=
  c == ',' || c == '[' || c == ']' || c == '{' || c == '}'

/-- Whether a plain scalar ends here, at a character that is no blank. -/
def endsPlain (inFlow : Bool) (at_ : Cursor) : Bool :=
  (at_.sees ':' && at_.endsWord 1) || (inFlow && at_.has 0 isFlowEnd)

/-- The visible characters of a plain scalar up to the next blank or its end, latest first. -/
def plainRun (inFlow : Bool) : Nat → List Char → Cursor → Option (List Char × Cursor)
  | 0, run, at_ => some (run, at_)
  | fuel + 1, run, at_ =>
    if at_.endsWord 0 then some (run, at_)
    else if inFlow && at_.sees ':' && at_.has 1 (fun c => isFlowEnd c || c == '?') then none
    else if endsPlain inFlow at_ then some (run, at_)
    else
      match at_.peek? with
      | some c => plainRun inFlow fuel (c :: run) at_.skip
      | none => some (run, at_)

/-- Scans a plain scalar whose further lines stand at column `least` or beyond.  The flag tells
whether line breaks were passed after its last character. -/
def scanPlain (inFlow : Bool) (least : Int) :
    Nat → List Char → Gap → Cursor → Option (List Char × Bool × Cursor)
  | 0, text, gap, at_ => some (text, gap.broken, at_)
  | fuel + 1, text, gap, at_ =>
    if at_.seesMarker '-' || at_.seesMarker '.' || at_.sees '#' then
      some (text, gap.broken, at_)
    else do
      let (run, next) ← plainRun inFlow (at_.rest.length + 1) [] at_
      if run.isEmpty then some (text, gap.broken, at_)
      else
        let text := text ++ gap.fold ++ run.reverse
        if next.has 0 fun c => isBlank c || isBreak c then do
          let (gap, next) ← passGap (some least) (next.rest.length + 1) {} next
          if !inFlow && (next.column : Int) < least then some (text, gap.broken, next)
          else scanPlain inFlow least fuel text gap next
        else some (text, false, next)

/-- The value of a hex digit. -/
def hexValue? (c : Char) : Option Nat :=
  if '0' ≤ c && c ≤ '9' then some (c.toNat - '0'.toNat)
  else if 'a' ≤ c && c ≤ 'f' then some (c.toNat - 'a'.toNat + 10)
  else if 'A' ≤ c && c ≤ 'F' then some (c.toNat - 'A'.toNat + 10)
  else none

/-- The character that a one-letter escape in double quotes stands for. -/
def quotedEscape? (c : Char) : Option Char :=
  match c with
  | '0' => some '\x00'
  | 'a' => some '\x07'
  | 'b' => some '\x08'
  | 't' | '\t' => some '\t'
  | 'n' => some '\n'
  | 'v' => some '\x0b'
  | 'f' => some '\x0c'
  | 'r' => some '\r'
  | 'e' => some '\x1b'
  | ' ' => some ' '
  | '"' => some '"'
  | '/' => some '/'
  | '\\' => some '\\'
  | 'N' => some (Char.ofNat 0x85)
  | '_' => some (Char.ofNat 0xA0)
  | 'L' => some (Char.ofNat 0x2028)
  | 'P' => some (Char.ofNat 0x2029)
  | _ => none

/-- How many hex digits follow the letter of a numeric escape. -/
def escapeWidth? (c : Char) : Option Nat :=
  match c with
  | 'x' => some 2
  | 'u' => some 4
  | 'U' => some 8
  | _ => none

/-- Reads an escape after its backslash. -/
def scanEscape (at_ : Cursor) : Option (Char × Cursor) := do
  let letter ← at_.peek?
  match escapeWidth? letter with
  | some width =>
    let digits ← ((at_.rest.drop 1).take width).mapM hexValue?
    let code := digits.foldl (fun value digit => value * 16 + digit) 0
    if digits.length < width || (0xD800 ≤ code && code ≤ 0xDFFF) || code > 0x10FFFF then none
    else some (Char.ofNat code, at_.skipMany (width + 1))
  | none =>
    let c ← quotedEscape? letter
    some (c, at_.skip)

/-- The characters of a quoted scalar up to the next blank, its closing quote or a line break
that is escaped, latest first; the flag tells whether one was. -/
def quotedRun (double : Bool) : Nat → List Char → Cursor → Option (List Char × Bool × Cursor)
  | 0, run, at_ => some (run, false, at_)
  | fuel + 1, run, at_ =>
    match at_.peek? with
    | none => some (run, false, at_)
    | some c =>
      if isBlank c || isBreak c then some (run, false, at_)
      else if !double && c == '\'' && at_.has 1 (· == '\'') then
        quotedRun double fuel ('\'' :: run) (at_.skipMany 2)
      else if c == (if double then '"' else '\'') then some (run, false, at_)
      else if double && c == '\\' && at_.has 1 isBreak then
        some (run, true, at_.skip.skipLine)
      else if double && c == '\\' then do
        let (escaped, next) ← scanEscape at_.skip
        quotedRun double fuel (escaped :: run) next
      else quotedRun double fuel (c :: run) at_.skip

/-- Scans a quoted scalar after its opening quote. -/
def scanQuoted (double : Bool) : Nat → List Char → Cursor → Option (List Char × Cursor)
  | 0, _, _ => none
  | fuel + 1, text, at_ =>
    if at_.seesMarker '-' || at_.seesMarker '.' || at_.atEnd then none
    else do
      let (run, escapedBreak, next) ← quotedRun double (at_.rest.length + 1) [] at_
      let text := text ++ run.reverse
      if next.sees (if double then '"' else '\'') then some (text, next.skip)
      else do
        let gap : Gap := { broken := escapedBreak }
        let (gap, next) ← passGap none (next.rest.length + 1) gap next
        scanQuoted double fuel (text ++ gap.fold) next

/-- What happens to the line breaks at the end of a block scalar. -/
inductive Chomping
  | strip
  | clip
  | keep
  deriving DecidableEq, Repr

/-- Reads the indicators of a block scalar: its chomping and its explicit indentation. -/
def blockHeader (at_ : Cursor) : Option (Chomping × Nat × Cursor) :=
  let chomping? (at_ : Cursor) : Option (Chomping × Cursor) :=
    if at_.sees '+' then some (.keep, at_.skip)
    else if at_.sees '-' then some (.strip, at_.skip)
    else none
  let isDigit (c : Char) : Bool := '0' ≤ c && c ≤ '9'
  let digit? (at_ : Cursor) : Option (Nat × Cursor) :=
    if at_.sees '0' then none
    else
      match at_.peek? with
      | some c => if isDigit c then some (c.toNat - '0'.toNat, at_.skip) else some (0, at_)
      | none => some (0, at_)
  match chomping? at_ with
  | some (chomping, at_) => (digit? at_).map fun (indent, at_) => (chomping, indent, at_)
  | none =>
    (digit? at_).map fun (indent, next) =>
      if indent = 0 then (.clip, 0, next)
      else
        match chomping? next with
        | some (chomping, next) => (chomping, indent, next)
        | none => (.clip, indent, next)

/-- Passes the indentation and the empty lines before a line of a block scalar: the line breaks
passed, and the widest indentation seen.  `indent` is zero while it is not known. -/
def blockBreaks (indent : Nat) :
    Nat → Nat → List Char → Cursor → Option (List Char × Nat × Cursor)
  | 0, widest, breaks, at_ => some (breaks, widest, at_)
  | fuel + 1, widest, breaks, at_ =>
    let room := if indent = 0 then at_.rest.length else indent - at_.column
    let spaces := ((at_.rest.takeWhile (· == ' ')).take room).length
    let at_ := at_.skipMany spaces
    let widest := max widest at_.column
    if (indent = 0 || at_.column < indent) && at_.sees '\t' then none
    else if at_.has 0 isBreak then
      blockBreaks indent fuel widest (breaks ++ at_.lineBreak) at_.skipLine
    else some (breaks, widest, at_)

/-- The lines of a block scalar.  `first` is the line break after the last line, `further` the
breaks after it, and `indented` whether that line began with a blank. -/
def blockLines (literal : Bool) (indent : Nat) :
    Nat → List Char → List Char → List Char → Bool → Cursor →
      Option (List Char × List Char × List Char × Cursor)
  | 0, text, first, further, _, at_ => some (text, first, further, at_)
  | fuel + 1, text, first, further, indented, at_ =>
    if at_.column == indent && !at_.atEnd then
      let blank := at_.has 0 isBlank
      let folds := !literal && first.head? == some '\n' && !indented && !blank
      let joint := if folds then (if further.isEmpty then [' '] else []) else first
      let (line, next) := at_.span fun _ => true
      let text := text ++ joint ++ further ++ line
      let first := next.lineBreak
      do
        let (further, _, next) ← blockBreaks indent (next.rest.length + 1) 0 [] next.skipLine
        blockLines literal indent fuel text first further blank next
    else some (text, first, further, at_)

/-- Scans a block scalar after its indicator; `parent` is the indentation around it. -/
def scanBlock (literal : Bool) (parent : Int) (at_ : Cursor) : Option (List Char × Cursor) := do
  let (chomping, increment, at_) ← blockHeader at_
  let at_ := at_.skipWhile isBlank
  let at_ := if at_.sees '#' then at_.skipWhile fun _ => true else at_
  if !at_.endsLine then none
  let at_ := at_.skipLine
  let given := if increment = 0 then 0 else (max parent 0).toNat + increment
  let (breaks, widest, at_) ← blockBreaks given (at_.rest.length + 1) 0 [] at_
  let indent :=
    if given = 0 then max (max widest (parent + 1).toNat) 1 else given
  let (text, first, further, at_) ←
    blockLines literal indent (at_.rest.length + 1) [] [] breaks false at_
  let text := if chomping = .strip then text else text ++ first
  let text := if chomping = .keep then text ++ further else text
  some (text, at_)

end Yaml
end KubeLens
