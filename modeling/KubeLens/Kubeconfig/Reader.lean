import KubeLens.Kubeconfig.Basic
import KubeLens.Text.Blank

/-!
# Reading kubeconfig documents

A blank text is the document without entries.  Names, the current context and the keys of the
document and of its entries are the texts of scalars, whatever their type; all other values keep
their type.
-/

namespace KubeLens
namespace Kubeconfig

open Yaml (Tree Value)

/-- The fields of a mapping whose keys are scalars; a tree that is left out has none. -/
def fields? : Tree → Option (List (String × Tree))
  | .mapping _ pairs => pairs.mapM fun pair => pair.1.text?.map (·, pair.2)
  | tree => if tree.isMissing then some [] else none

/-- The field with this key, which may occur once. -/
def single? (fields : List (String × Tree)) (key : String) : Option (Option Tree) :=
  match fields.filter fun field => field.1 == key with
  | [] => some none
  | [field] => some (some field.2)
  | _ => none

/-- The values of the fields whose keys are not `known`; no key may occur twice. -/
def otherFields? (known : List String) (fields : List (String × Tree)) :
    Option (Assoc String Value) := do
  let others := fields.filter fun field => !known.contains field.1
  let values ← others.mapM fun field => (Value.ofTree? field.2).map (field.1, ·)
  if (values.map (·.1)).Nodup then some values else none

/-- Reads an entry. -/
def readEntry (tree : Tree) : Option Entry := do
  let fields ← fields? tree
  let name ← (← single? fields "name").bind Tree.text?
  let body ← otherFields? ["name"] fields
  some { name, body }

/-- Reads a list of entries. -/
def readEntries : Tree → Option (List Entry)
  | .sequence _ items => items.mapM readEntry
  | tree => if tree.isMissing then some [] else none

/-- Reads a list of entries that may be left out. -/
def readList (fields : List (String × Tree)) (key : String) : Option (List Entry) := do
  match ← single? fields key with
  | none => some []
  | some tree =>
    match ← tree.optional? with
    | none => some []
    | some tree => readEntries tree

/-- Reads the current context. -/
def readCurrent (fields : List (String × Tree)) : Option (Option String) := do
  match ← single? fields "current-context" with
  | none => some none
  | some tree =>
    match ← tree.optional? with
    | none => some none
    | some tree => tree.text?.map fun text => if text.isEmpty then none else some text

/-- The keys that have a meaning. -/
def knownKeys : List String :=
  ["clusters", "contexts", "users", "current-context"]

/-- Reads a document that is not empty. -/
def ofTree? (tree : Tree) : Option Kubeconfig := do
  let fields ← fields? tree
  let clusters ← readList fields "clusters"
  let contexts ← readList fields "contexts"
  let users ← readList fields "users"
  let current ← readCurrent fields
  let extra ← otherFields? knownKeys fields
  some { clusters, contexts, users, current, extra }

/-- Reads a document. -/
def read? (text : String) : Option Kubeconfig :=
  if Text.isBlankText text then some blank
  else
    match Tree.ofText? text with
    | none => none
    | some none => some {}
    | some (some tree) => ofTree? tree

end Kubeconfig
end KubeLens
