import KubeLens.Yaml.Token.Scalar
import KubeLens.Yaml.Token.Tag

/-!
# The tokens of a text

`Token.ofText?` cuts a whole text into tokens.  A colon may make a key of the token before it
although nothing announced one.  The start of such a token is remembered as a candidate, with
the number of tokens before it, and the key indicator is inserted there when the colon comes.
-/

namespace KubeLens
namespace Yaml

/-- A place where an implicit key may have started. -/
structure Candidate where
  /-- Whether the token must be a key, because it stands at the indentation of a block. -/
  required : Bool
  /-- The number of tokens before it. -/
  position : Nat
  index : Nat
  line : Nat
  column : Nat

/-- A text that is being cut into tokens. -/
structure Scanner where
  /-- What is left of the text. -/
  at_ : Cursor
  /-- The tokens so far. -/
  tokens : Array Token := #[]
  /-- The indentation of the innermost block, or a negative number outside of blocks. -/
  indent : Int := -1
  /-- The indentations of the blocks around it, innermost first. -/
  outer : List Int := []
  /-- The key candidate of the innermost bracket, or of the block outside of brackets. -/
  candidate : Option Candidate := none
  /-- The candidates around it, one for each bracket, innermost first. -/
  around : List (Option Candidate) := []
  /-- Whether an implicit key may start here. -/
  keyAllowed : Bool := true

namespace Scanner

/-- Whether brackets are open. -/
def inFlow (s : Scanner) : Bool :=
  !s.around.isEmpty

/-- Adds a token. -/
def push (s : Scanner) (token : Token) : Scanner :=
  { s with tokens := s.tokens.push token }

/-- Adds a token before the one at `position`. -/
def insertAt (s : Scanner) (position : Nat) (token : Token) : Scanner :=
  { s with
    tokens := (s.tokens.extract 0 position).push token ++ s.tokens.extract position }

/-- Gives up the candidate of this level, unless it must be a key. -/
def dropCandidate (s : Scanner) : Option Scanner :=
  match s.candidate with
  | some { required := true, .. } => none
  | _ => some { s with candidate := none }

/-- Makes the next token a candidate for a key. -/
def saveCandidate (s : Scanner) : Option Scanner :=
  if s.keyAllowed then do
    let s ← s.dropCandidate
    some { s with
      candidate := some
        { required := !s.inFlow && s.indent == (s.at_.column : Int)
          position := s.tokens.size, index := s.at_.index, line := s.at_.line
          column := s.at_.column } }
  else some s

/-- A key must be on one line and at most 1024 characters long. -/
def expire (at_ : Cursor) : Option Candidate → Option (Option Candidate)
  | some candidate =>
    if candidate.line < at_.line || candidate.index + 1024 < at_.index then
      if candidate.required then none else some none
    else some (some candidate)
  | none => some none

/-- Drops the candidates that the text has passed. -/
def expireAll (s : Scanner) : Option Scanner := do
  let candidate ← expire s.at_ s.candidate
  let around ← s.around.mapM (expire s.at_)
  some { s with candidate, around }

/-- Opens a block at a column beyond the current indentation. -/
def openBlock (s : Scanner) (column : Nat) (start : Token) (position : Nat) : Scanner :=
  if !s.inFlow && s.indent < (column : Int) then
    { s with indent := column, outer := s.indent :: s.outer }.insertAt position start
  else s

/-- Closes the blocks that are indented deeper than `column`. -/
def closeBlocks (column : Int) : List Int → Scanner → Scanner
  | [], s => s
  | next :: outer, s =>
    if column < s.indent then
      closeBlocks column outer ({ s with indent := next, outer }.push .blockEnd)
    else s

/-- Ends every block, as between documents. -/
def leaveBlocks (s : Scanner) : Option Scanner := do
  let s := if s.inFlow then s else closeBlocks (-1) s.outer s
  let s ← s.dropCandidate
  some { s with keyAllowed := false }

/-- Passes blanks, comments and line breaks up to the next token. -/
def skipGap : Nat → Scanner → Scanner
  | 0, s => s
  | fuel + 1, s =>
    let at_ := s.at_
    let at_ := if at_.column == 0 && at_.has 0 (·.toNat == 0xFEFF) then at_.skip else at_
    let tabs := s.inFlow || !s.keyAllowed
    let at_ := at_.skipWhile fun c => c == ' ' || (tabs && c == '\t')
    let at_ := if at_.sees '#' then at_.skipWhile fun _ => true else at_
    if at_.has 0 isBreak then
      skipGap fuel { s with at_ := at_.skipLine, keyAllowed := s.keyAllowed || !s.inFlow }
    else { s with at_ }

/-- A document marker. -/
def scanMarker (s : Scanner) (token : Token) : Option Scanner := do
  let s ← s.leaveBlocks
  some ({ s with at_ := s.at_.skipMany 3 }.push token)

/-- An opening bracket. -/
def scanOpening (s : Scanner) (token : Token) : Option Scanner := do
  let s ← s.saveCandidate
  some ({ s with
    at_ := s.at_.skip, candidate := none, around := s.candidate :: s.around,
    keyAllowed := true }.push token)

/-- A closing bracket. -/
def scanClosing (s : Scanner) (token : Token) : Option Scanner := do
  let s ← s.dropCandidate
  let (candidate, around) :=
    match s.around with
    | outer :: around => (outer, around)
    | [] => (s.candidate, [])
  some ({ s with at_ := s.at_.skip, candidate, around, keyAllowed := false }.push token)

/-- A comma between brackets. -/
def scanComma (s : Scanner) : Option Scanner := do
  let s ← s.dropCandidate
  some ({ s with at_ := s.at_.skip, keyAllowed := true }.push .flowEntry)

/-- A dash before an item of a block sequence. -/
def scanDash (s : Scanner) : Option Scanner := do
  if !s.inFlow && !s.keyAllowed then none
  let s := s.openBlock s.at_.column .blockSequenceStart s.tokens.size
  let s ← s.dropCandidate
  some ({ s with at_ := s.at_.skip, keyAllowed := true }.push .blockEntry)

/-- A question mark before a key. -/
def scanKey (s : Scanner) : Option Scanner := do
  if !s.inFlow && !s.keyAllowed then none
  let s := s.openBlock s.at_.column .blockMappingStart s.tokens.size
  let s ← s.dropCandidate
  some ({ s with at_ := s.at_.skip, keyAllowed := !s.inFlow }.push .key)

/-- A colon before a value. -/
def scanValue (s : Scanner) : Option Scanner :=
  match s.candidate with
  | some candidate =>
    let s := s.insertAt candidate.position .key
    let s := s.openBlock candidate.column .blockMappingStart candidate.position
    some ({ s with at_ := s.at_.skip, candidate := none, keyAllowed := false }.push .value)
  | none => do
    if !s.inFlow && !s.keyAllowed then none
    let s := s.openBlock s.at_.column .blockMappingStart s.tokens.size
    some ({ s with at_ := s.at_.skip, keyAllowed := !s.inFlow }.push .value)

/-- An anchor or an alias. -/
def scanReference (s : Scanner) (token : String → Token) : Option Scanner := do
  let s ← s.saveCandidate
  let (name, at_) ← scanName s.at_.skip
  some ({ s with at_, keyAllowed := false }.push (token name))

/-- A tag. -/
def scanTagToken (s : Scanner) : Option Scanner := do
  let s ← s.saveCandidate
  let (token, at_) ← scanTag s.inFlow s.at_
  some ({ s with at_, keyAllowed := false }.push token)

/-- A block scalar. -/
def scanBlockScalar (s : Scanner) (literal : Bool) : Option Scanner := do
  let s ← s.dropCandidate
  let (text, at_) ← scanBlock literal s.indent s.at_.skip
  some ({ s with at_, keyAllowed := true }.push (.scalar (String.ofList text) false))

/-- A quoted scalar. -/
def scanQuotedScalar (s : Scanner) (double : Bool) : Option Scanner := do
  let s ← s.saveCandidate
  let (text, at_) ← scanQuoted double (s.at_.rest.length + 1) [] s.at_.skip
  some ({ s with at_, keyAllowed := false }.push (.scalar (String.ofList text) false))

/-- A plain scalar. -/
def scanPlainScalar (s : Scanner) : Option Scanner := do
  let s ← s.saveCandidate
  let (text, broken, at_) ←
    scanPlain s.inFlow (s.indent + 1) (s.at_.rest.length + 1) [] {} s.at_
  some ({ s with at_, keyAllowed := broken }.push (.scalar (String.ofList text) true))

/-- Whether a plain scalar may start here, at none of the other tokens. -/
def startsPlain (s : Scanner) : Bool :=
  let at_ := s.at_
  let indicator (c : Char) : Bool :=
    ['-', '?', ':', ',', '[', ']', '{', '}', '#', '&', '*', '!', '|', '>', '\'', '"', '%', '@',
      '\x60'].contains c
  at_.has 0 (fun c => !isBlank c && !isBreak c && !indicator c) ||
    (at_.sees '-' && !at_.has 1 isBlank) ||
    (!s.inFlow && (at_.sees '?' || at_.sees ':') && !at_.endsWord 1)

/-- Scans the token at the cursor, which is not the end of the text. -/
def scanToken (s : Scanner) : Option Scanner :=
  let at_ := s.at_
  let loose := s.inFlow || at_.endsWord 1
  if at_.column == 0 && at_.sees '%' then do
    let s ← s.leaveBlocks
    let (token, at_) ← scanDirective s.at_
    some ({ s with at_ }.push token)
  else if at_.seesMarker '-' then s.scanMarker .documentStart
  else if at_.seesMarker '.' then s.scanMarker .documentEnd
  else if at_.sees '[' then s.scanOpening .flowSequenceStart
  else if at_.sees '{' then s.scanOpening .flowMappingStart
  else if at_.sees ']' then s.scanClosing .flowSequenceEnd
  else if at_.sees '}' then s.scanClosing .flowMappingEnd
  else if at_.sees ',' then s.scanComma
  else if at_.sees '-' && at_.endsWord 1 then s.scanDash
  else if at_.sees '?' && loose then s.scanKey
  else if at_.sees ':' && loose then s.scanValue
  else if at_.sees '*' then s.scanReference .alias
  else if at_.sees '&' then s.scanReference .anchor
  else if at_.sees '!' then s.scanTagToken
  else if at_.sees '|' && !s.inFlow then s.scanBlockScalar true
  else if at_.sees '>' && !s.inFlow then s.scanBlockScalar false
  else if at_.sees '\'' then s.scanQuotedScalar false
  else if at_.sees '"' then s.scanQuotedScalar true
  else if s.startsPlain then s.scanPlainScalar
  else none

/-- Scans up to the end of the text. -/
def run : Nat → Scanner → Option Scanner
  | 0, _ => none
  | fuel + 1, s => do
    let s ← (skipGap (s.at_.rest.length + 1) s).expireAll
    if s.at_.atEnd then
      let s ← s.leaveBlocks
      some (s.push .streamEnd)
    else
      let s := if s.inFlow then s else closeBlocks s.at_.column s.outer s
      run fuel (← s.scanToken)

end Scanner

/-- The tokens of a text, if it can be cut into tokens. -/
def Token.ofText? (text : String) : Option (List Token) :=
  let cs := text.toList
  if cs.all isAllowed then
    (Scanner.run (cs.length + 2) { at_ := { rest := cs } }).map (·.tokens.toList)
  else none

end Yaml
end KubeLens
