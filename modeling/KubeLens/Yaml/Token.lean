/-!
# Tokens of a YAML text

The scanner cuts a text into tokens.  Indentation and implicit keys become tokens of their own,
so that the grammar of nodes needs neither columns nor line breaks.
-/

namespace KubeLens
namespace Yaml

/-- A token. -/
inductive Token
  | streamEnd
  | version (major minor : Nat)
  | tagHandle (handle target : String)
  | documentStart
  | documentEnd
  | blockSequenceStart
  | blockMappingStart
  | blockEnd
  | flowSequenceStart
  | flowSequenceEnd
  | flowMappingStart
  | flowMappingEnd
  | blockEntry
  | flowEntry
  | key
  | value
  | alias (name : String)
  | anchor (name : String)
  | tag (handle suffix : String)
  | scalar (text : String) (plain : Bool)
  deriving DecidableEq, Repr

end Yaml
end KubeLens
