import KubeLens.Assoc
import KubeLens.Yaml.Token.Stream

/-!
# Nodes of a YAML document

A node is an alias of an earlier node, a scalar, a sequence or a mapping.  All but aliases may
carry an anchor and a tag.  `Node.ofTokens?` reads the only document of a stream; a missing key,
value or item is an empty plain scalar.
-/

namespace KubeLens
namespace Yaml

/-- What may stand before a node. -/
structure Properties where
  anchor : Option String := none
  tag : Option String := none
  deriving DecidableEq, Repr

/-- A node as it is written. -/
inductive Node where
  | alias (name : String)
  | scalar (properties : Properties) (text : String) (plain : Bool)
  | sequence (properties : Properties) (items : List Node)
  | mapping (properties : Properties) (pairs : List (Node × Node))
  deriving Inhabited

namespace Node

/-- The node that stands for one that is left out. -/
def missing : Node :=
  .scalar {} "" true

/-- What handles stand for. -/
abbrev Handles := Assoc String String

/-- The handles that need no directive. -/
def defaultHandles : Handles :=
  [("!", "!"), ("!!", "tag:yaml.org,2002:")]

/-- The full text of a tag. -/
def resolveTag (handles : Handles) (handle suffix : String) : Option String :=
  if handle.isEmpty then some suffix
  else (handles.get? handle).map (· ++ suffix)

/-- Reads an anchor and a tag, in either order. -/
def readProperties (handles : Handles) : List Token → Option (Properties × List Token)
  | .anchor name :: .tag handle suffix :: rest
  | .tag handle suffix :: .anchor name :: rest => do
    let tag ← resolveTag handles handle suffix
    some ({ anchor := some name, tag := some tag }, rest)
  | .anchor name :: rest => some ({ anchor := some name }, rest)
  | .tag handle suffix :: rest => do
    let tag ← resolveTag handles handle suffix
    some ({ tag := some tag }, rest)
  | tokens => some ({}, tokens)

/-- A scalar with the tag `!` has no tag. -/
def ofScalar (properties : Properties) (text : String) (plain : Bool) : Node :=
  if properties.tag = some "!" then .scalar { properties with tag := none } text plain
  else .scalar properties text plain

/-- Whether the next token ends an item or a pair of a block. -/
def endsBlockPart : List Token → Bool
  | .key :: _ | .value :: _ | .blockEnd :: _ => true
  | _ => false

/-- Whether the next token ends an item between brackets. -/
def endsFlowItem : List Token → Bool
  | .flowEntry :: _ | .flowSequenceEnd :: _ => true
  | _ => false

/-- Whether the next token ends a pair between braces. -/
def endsFlowPair : List Token → Bool
  | .flowEntry :: _ | .flowMappingEnd :: _ => true
  | _ => false

/-- Where a node stands: between brackets, in a block, or as a key or value of a block mapping,
where a sequence needs no indentation of its own. -/
inductive Place
  | flow
  | block
  | blockPair
  deriving DecidableEq

mutual

/-- Reads one node. -/
def readNode (handles : Handles) : Nat → Place → List Token → Option (Node × List Token)
  | 0, _, _ => none
  | _ + 1, _, .alias name :: rest => some (.alias name, rest)
  | fuel + 1, place, tokens => do
    let (properties, rest) ← readProperties handles tokens
    match rest with
    | .scalar text plain :: rest => some (ofScalar properties text plain, rest)
    | .flowSequenceStart :: rest =>
      let (items, rest) ← readFlowItems handles fuel true rest
      some (.sequence properties items, rest)
    | .flowMappingStart :: rest =>
      let (pairs, rest) ← readFlowPairs handles fuel true rest
      some (.mapping properties pairs, rest)
    | .blockEntry :: _ =>
      if place = .blockPair then
        let (items, rest) ← readLooseItems handles fuel rest
        some (.sequence properties items, rest)
      else if properties = {} then none
      else some (ofScalar properties "" true, rest)
    | .blockSequenceStart :: inner =>
      if place ≠ .flow then
        let (items, rest) ← readItems handles fuel inner
        some (.sequence properties items, rest)
      else if properties = {} then none
      else some (ofScalar properties "" true, rest)
    | .blockMappingStart :: inner =>
      if place ≠ .flow then
        let (pairs, rest) ← readPairs handles fuel inner
        some (.mapping properties pairs, rest)
      else if properties = {} then none
      else some (ofScalar properties "" true, rest)
    | _ =>
      if properties = {} then none else some (ofScalar properties "" true, rest)

/-- Reads the items of a block sequence and its end. -/
def readItems (handles : Handles) : Nat → List Token → Option (List Node × List Token)
  | 0, _ => none
  | fuel + 1, .blockEntry :: rest => do
    let (item, rest) ←
      match rest with
      | .blockEntry :: _ | .blockEnd :: _ => some (missing, rest)
      | _ => readNode handles fuel .block rest
    let (items, rest) ← readItems handles fuel rest
    some (item :: items, rest)
  | _ + 1, .blockEnd :: rest => some ([], rest)
  | _ + 1, _ => none

/-- Reads the items of a sequence without indentation of its own. -/
def readLooseItems (handles : Handles) : Nat → List Token → Option (List Node × List Token)
  | 0, _ => none
  | fuel + 1, .blockEntry :: rest => do
    let (item, rest) ←
      match rest with
      | .blockEntry :: _ => some (missing, rest)
      | _ => if endsBlockPart rest then some (missing, rest) else readNode handles fuel .block rest
    let (items, rest) ← readLooseItems handles fuel rest
    some (item :: items, rest)
  | _ + 1, rest => some ([], rest)

/-- Reads the pairs of a block mapping and its end. -/
def readPairs (handles : Handles) : Nat → List Token → Option (List (Node × Node) × List Token)
  | 0, _ => none
  | fuel + 1, .key :: rest => do
    let (key, rest) ←
      if endsBlockPart rest then some (missing, rest) else readNode handles fuel .blockPair rest
    let (value, rest) ←
      match rest with
      | .value :: rest =>
        if endsBlockPart rest then some (missing, rest)
        else readNode handles fuel .blockPair rest
      | _ => some (missing, rest)
    let (pairs, rest) ← readPairs handles fuel rest
    some ((key, value) :: pairs, rest)
  | _ + 1, .blockEnd :: rest => some ([], rest)
  | _ + 1, _ => none

/-- Reads the items between brackets and the closing bracket. -/
def readFlowItems (handles : Handles) :
    Nat → Bool → List Token → Option (List Node × List Token)
  | 0, _, _ => none
  | _ + 1, _, .flowSequenceEnd :: rest => some ([], rest)
  | fuel + 1, first, tokens => do
    let tokens ←
      match first, tokens with
      | true, _ => some tokens
      | false, .flowEntry :: rest => some rest
      | false, _ => none
    match tokens with
    | .flowSequenceEnd :: rest => some ([], rest)
    | .key :: rest =>
      let (pair, rest) ← readSinglePair handles fuel rest
      let (items, rest) ← readFlowItems handles fuel false rest
      some (.mapping {} [pair] :: items, rest)
    | _ =>
      let (item, rest) ← readNode handles fuel .flow tokens
      let (items, rest) ← readFlowItems handles fuel false rest
      some (item :: items, rest)

/-- Reads a pair that is an item between brackets, after its key indicator.  When the key is
left out, the token in its place is passed. -/
def readSinglePair (handles : Handles) : Nat → List Token → Option ((Node × Node) × List Token)
  | 0, _ => none
  | fuel + 1, tokens => do
    let (key, rest) ←
      match tokens with
      | .value :: rest | .flowEntry :: rest | .flowSequenceEnd :: rest => some (missing, rest)
      | _ => readNode handles fuel .flow tokens
    let (value, rest) ←
      match rest with
      | .value :: rest =>
        if endsFlowItem rest then some (missing, rest) else readNode handles fuel .flow rest
      | _ => some (missing, rest)
    some ((key, value), rest)

/-- Reads the pairs between braces and the closing brace. -/
def readFlowPairs (handles : Handles) :
    Nat → Bool → List Token → Option (List (Node × Node) × List Token)
  | 0, _, _ => none
  | _ + 1, _, .flowMappingEnd :: rest => some ([], rest)
  | fuel + 1, first, tokens => do
    let tokens ←
      match first, tokens with
      | true, _ => some tokens
      | false, .flowEntry :: rest => some rest
      | false, _ => none
    match tokens with
    | .flowMappingEnd :: rest => some ([], rest)
    | .key :: rest =>
      let (key, rest) ←
        match rest with
        | .value :: _ => some (missing, rest)
        | _ => if endsFlowPair rest then some (missing, rest) else readNode handles fuel .flow rest
      let (value, rest) ←
        match rest with
        | .value :: rest =>
          if endsFlowPair rest then some (missing, rest) else readNode handles fuel .flow rest
        | _ => some (missing, rest)
      let (pairs, rest) ← readFlowPairs handles fuel false rest
      some ((key, value) :: pairs, rest)
    | _ =>
      let (key, rest) ← readNode handles fuel .flow tokens
      let (pairs, rest) ← readFlowPairs handles fuel false rest
      some ((key, missing) :: pairs, rest)

end

/-- Reads the directives before a document: the handles that they define.  The version and each
handle may be given once. -/
def readDirectives : Bool → Handles → List Token → Option (Handles × List Token)
  | versioned, handles, .version major minor :: rest =>
    if versioned || major != 1 || (minor != 1 && minor != 2) then none
    else readDirectives true handles rest
  | versioned, handles, .tagHandle handle target :: rest =>
    if handles.has handle then none
    else readDirectives versioned (handles.put handle target) rest
  | _, handles, rest => some (handles, rest)

/-- Whether the next token ends a document without content. -/
def endsDocument : List Token → Bool
  | .version .. :: _ | .tagHandle .. :: _ | .documentStart :: _ | .documentEnd :: _
  | .streamEnd :: _ => true
  | _ => false

/-- Whether nothing follows but document ends. -/
def endsStream : List Token → Bool
  | .documentEnd :: rest => endsStream rest
  | [.streamEnd] => true
  | _ => false

/-- Steps that suffice for any tokens: no two in a row pass none. -/
def stepBound (tokens : List Token) : Nat :=
  2 * tokens.length + 2

/-- Reads the node of a document that is followed by no other. -/
def readOnly (handles : Handles) (tokens : List Token) : Option Node := do
  let (node, rest) ← readNode handles (stepBound tokens) .block tokens
  if endsStream rest then some node else none

/-- Reads a stream of at most one document: its node, or none for an empty stream. -/
def ofTokens? (tokens : List Token) : Option (Option Node) :=
  match tokens with
  | [.streamEnd] => some none
  | .version .. :: _ | .tagHandle .. :: _ | .documentStart :: _ => do
    let (handles, rest) ← readDirectives false [] tokens
    let handles := handles ++ defaultHandles
    match rest with
    | .documentStart :: rest =>
      if endsDocument rest then if endsStream rest then some (some missing) else none
      else (readOnly handles rest).map some
    | _ => none
  | _ => (readOnly defaultHandles tokens).map some

end Node
end Yaml
end KubeLens
