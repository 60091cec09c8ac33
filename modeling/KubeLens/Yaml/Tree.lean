import KubeLens.Yaml.Node

/-!
# Trees without aliases

A tree is a document in which every alias is replaced by the node it stands for.  Documents
that nest too deep, and documents whose aliases would grow out of proportion to their size, are
refused; so is a node that contains itself.

Anchored nodes are numbered by how many different names were in use before them.  When a name is
used again, its node may share a number with another one; an alias then stands for the later of
the two.
-/

namespace KubeLens
namespace Yaml

/-- A document without aliases. -/
inductive Tree where
  | scalar (tag : Option String) (text : String) (plain : Bool)
  | sequence (tag : Option String) (items : List Tree)
  | mapping (tag : Option String) (pairs : List (Tree × Tree))
  deriving Inhabited

/-- A node whose aliases are numbers of anchored nodes. -/
inductive LinkedNode where
  | alias (number : Nat)
  | scalar (tag : Option String) (text : String) (plain : Bool)
  | sequence (tag : Option String) (items : List LinkedNode)
  | mapping (tag : Option String) (pairs : List (LinkedNode × LinkedNode))
  deriving Inhabited

/-- What is known while the nodes of a document are numbered. -/
structure Links where
  /-- The number of each name. -/
  names : Assoc String Nat := []
  /-- How many nodes and ends of collections were passed. -/
  passed : Nat := 0
  /-- The anchored nodes, each with its place and its number. -/
  anchored : List (Nat × Nat × LinkedNode) := []

namespace Links

/-- Passes the start of a node, or the end of a collection. -/
def pass (links : Links) : Links :=
  { links with passed := links.passed + 1 }

/-- Gives the name of an anchor its number. -/
def name (links : Links) : Option String → Links × Option Nat
  | none => (links, none)
  | some anchor =>
    ({ links with names := links.names.put anchor links.names.length },
      some links.names.length)

/-- Remembers an anchored node that started at `place`. -/
def keep (links : Links) (place : Nat) (number : Option Nat) (node : LinkedNode) : Links :=
  match number with
  | some number => { links with anchored := (place, number, node) :: links.anchored }
  | none => links

/-- The node that a number stands for. -/
def target? (links : Links) (number : Nat) : Option LinkedNode :=
  let latest (best : Option (Nat × LinkedNode)) (entry : Nat × Nat × LinkedNode) :
      Option (Nat × LinkedNode) :=
    if entry.2.1 = number && (best.all fun found => decide (found.1 < entry.1)) then
      some (entry.1, entry.2.2)
    else best
  (links.anchored.foldl latest none).map (·.2)

mutual

/-- Numbers the aliases of a node. -/
def link (links : Links) : Node → Option (LinkedNode × Links)
  | .alias name => do
    let number ← links.names.get? name
    some (.alias number, links.pass)
  | .scalar properties text plain =>
    let place := links.passed
    let (links, number) := links.pass.name properties.anchor
    let node := LinkedNode.scalar properties.tag text plain
    some (node, links.keep place number node)
  | .sequence properties items => do
    let place := links.passed
    let (links, number) := links.pass.name properties.anchor
    let (items, links) ← linkAll links items
    let node := LinkedNode.sequence properties.tag items
    some (node, links.pass.keep place number node)
  | .mapping properties pairs => do
    let place := links.passed
    let (links, number) := links.pass.name properties.anchor
    let (pairs, links) ← linkPairs links pairs
    let node := LinkedNode.mapping properties.tag pairs
    some (node, links.pass.keep place number node)

/-- `link` on the items of a sequence. -/
def linkAll (links : Links) : List Node → Option (List LinkedNode × Links)
  | [] => some ([], links)
  | item :: rest => do
    let (item, links) ← link links item
    let (rest, links) ← linkAll links rest
    some (item :: rest, links)

/-- `link` on the pairs of a mapping. -/
def linkPairs (links : Links) :
    List (Node × Node) → Option (List (LinkedNode × LinkedNode) × Links)
  | [] => some ([], links)
  | (key, value) :: rest => do
    let (key, links) ← link links key
    let (value, links) ← link links value
    let (rest, links) ← linkPairs links rest
    some ((key, value) :: rest, links)

end

end Links

namespace Tree

/-- How deep collections may nest. -/
def depthLimit : Nat := 128

/-- How many aliases may be replaced for each part of the document. -/
def aliasFactor : Nat := 100

/-- Replaces the aliases of a node.  `depth` is how many collections may still be opened, and
`budget` how many aliases may still be replaced. -/
def expand (links : Links) : Nat → Nat → LinkedNode → Option (Tree × Nat)
  | 0, budget, node =>
    match node with
    | .scalar tag text plain => some (.scalar tag text plain, budget)
    | .alias number =>
      match links.target? number, budget with
      | some (.scalar tag text plain), budget + 1 => some (.scalar tag text plain, budget)
      | _, _ => none
    | _ => none
  | depth + 1, budget, node =>
    let collection (budget : Nat) : LinkedNode → Option (Tree × Nat)
      | .alias _ => none
      | .scalar tag text plain => some (.scalar tag text plain, budget)
      | .sequence tag items => do
        let (items, budget) ← items.foldlM (fun (done, budget) item => do
          let (item, budget) ← expand links depth budget item
          some (item :: done, budget)) ([], budget)
        some (.sequence tag items.reverse, budget)
      | .mapping tag pairs => do
        let (pairs, budget) ← pairs.foldlM (fun (done, budget) (key, value) => do
          let (key, budget) ← expand links depth budget key
          let (value, budget) ← expand links depth budget value
          some ((key, value) :: done, budget)) ([], budget)
        some (.mapping tag pairs.reverse, budget)
    match node with
    | .alias number =>
      match links.target? number, budget with
      | some target, budget + 1 => collection budget target
      | _, _ => none
    | node => collection budget node

/-- The tree of a node. -/
def ofNode? (node : Node) : Option Tree := do
  let (node, links) ← Links.link {} node
  let (tree, _) ← expand links depthLimit (links.passed * aliasFactor) node
  some tree

/-- The tree of the only document of a text, or none for a text without documents. -/
def ofText? (text : String) : Option (Option Tree) := do
  let tokens ← Token.ofText? text
  let node? ← Node.ofTokens? tokens
  match node? with
  | none => some none
  | some node => (ofNode? node).map some

end Tree
end Yaml
end KubeLens
