import KubeLens.Kubeconfig.Basic
import KubeLens.Text.Address

/-!
# Client configurations

What a client can be made from: a kubeconfig document whose parts have the types that clients
expect.  `ClientConfig.ofDocument?` refuses any other document as a whole.  Unknown keys do not
count.  A record may also be written as a list of its fields in order.
-/

namespace KubeLens

open Yaml (Value)

/-- A type of values, as the values that fit. -/
abbrev Shape := Value → Bool

/-- Whether a field may be left out. -/
inductive Presence
  | required
  /-- In a mapping only. -/
  | optional
  /-- In a mapping or at the end of a list. -/
  | defaulted
  deriving DecidableEq, Repr

/-- A field of a record. -/
structure Field where
  key : String
  shape : Shape
  presence : Presence

namespace Shape

/-- Strings. -/
def text : Shape
  | .str _ => true
  | _ => false

/-- Booleans. -/
def flag : Shape
  | .bool _ => true
  | _ => false

/-- One of some strings. -/
def oneOf (texts : List String) : Shape
  | .str value => texts.contains value
  | _ => false

mutual

/-- Values that a JSON text can express: the keys of mappings are strings. -/
def any : Shape
  | .seq items => anyAll items
  | .map pairs => anyPairs pairs
  | _ => true

/-- `any` for each item. -/
def anyAll : List Value → Bool
  | [] => true
  | item :: rest => any item && anyAll rest

/-- `any` for each value, and strings for keys. -/
def anyPairs : List (Value × Value) → Bool
  | [] => true
  | (key, value) :: rest => text key && any value && anyPairs rest

end

/-- Null, or what fits `shape`. -/
def orNull (shape : Shape) : Shape
  | .null => true
  | value => shape value

/-- Lists of what fits `shape`; null is the empty list. -/
def listOf (shape : Shape) : Shape
  | .null => true
  | .seq items => items.all shape
  | _ => false

/-- Mappings from strings to what fits `shape`; null is the empty mapping. -/
def dictOf (shape : Shape) : Shape
  | .null => true
  | .map pairs => pairs.all fun pair => text pair.1 && shape pair.2
  | _ => false

/-- Whether the items fit the fields in order, and all fields that are left over have a
default. -/
def fitsInOrder : List Field → List Value → Bool
  | fields, [] => fields.all (·.presence == .defaulted)
  | field :: fields, item :: items => field.shape item && fitsInOrder fields items
  | [], _ :: _ => false

/-- Records with these fields. -/
def record (fields : List Field) : Shape
  | .map pairs =>
    pairs.all (fun pair => text pair.1) &&
      fields.all fun field =>
        match (Value.map pairs).member? field.key with
        | some value => field.shape value
        | none => field.presence != .required
  | .seq items => fitsInOrder fields items
  | _ => false

end Shape

namespace Field

/-- A field that must be there. -/
def required (key : String) (shape : Shape) : Field :=
  ⟨key, shape, .required⟩

/-- A field that may be missing or null. -/
def optional (key : String) (shape : Shape) : Field :=
  ⟨key, shape.orNull, .optional⟩

/-- Optional strings. -/
def texts (keys : List String) : List Field :=
  keys.map fun key => optional key .text

end Field

namespace ClientConfig

/-- Extensions. -/
def extensions : Shape :=
  .listOf (.record [.required "name" .text, .required "extension" .any])

/-- Preferences. -/
def preferences : Shape :=
  .record [.optional "colors" .flag, .optional "extensions" extensions]

/-- The fields of a cluster. -/
def clusterFields : List Field :=
  [.optional "server" .text, .optional "insecure-skip-tls-verify" .flag,
    .optional "certificate-authority" .text, .optional "certificate-authority-data" .text,
    .optional "proxy-url" .text, .optional "disable-compression" .flag,
    .optional "tls-server-name" .text, .optional "extensions" extensions]

/-- The fields of a context. -/
def contextFields : List Field :=
  [.required "cluster" .text, .optional "user" .text, .optional "namespace" .text,
    .optional "extensions" extensions]

/-- How a user is authenticated by a provider. -/
def authProvider : Shape :=
  .record [.required "name" .text, ⟨"config", .dictOf .text, .defaulted⟩]

/-- How a user is authenticated by a command. -/
def exec : Shape :=
  .record
    [.optional "apiVersion" .text, .optional "command" .text,
      .optional "args" (.listOf .text), .optional "env" (.listOf (.dictOf .text)),
      .optional "interactiveMode" (.oneOf ["Never", "IfAvailable", "Always"]),
      ⟨"provideClusterInfo", .flag, .defaulted⟩]

/-- The fields of a user. -/
def userFields : List Field :=
  Field.texts
      ["username", "password", "token", "tokenFile", "client-certificate",
        "client-certificate-data", "client-key", "client-key-data", "as"] ++
    [.optional "as-groups" (.listOf .text), .optional "auth-provider" authProvider,
      .optional "exec" exec]

/-- The parts of the document besides its lists. -/
def extraFields : List Field :=
  [.optional "kind" .text, .optional "apiVersion" .text, .optional "preferences" preferences,
    .optional "extensions" extensions]

/-- The value of a field of a record that fits. -/
def fieldOf? (fields : List Field) (key : String) (value : Value) : Option Value :=
  match value with
  | .seq items => items[fields.findIdx (·.key == key)]?
  | value => value.member? key

/-- The string in a field of a record that fits. -/
def textOf? (fields : List Field) (key : String) (value : Value) : Option String :=
  (fieldOf? fields key value).bind Value.asStr?

/-- Whether the section of an entry fits, if it is there. -/
def sectionFits (key : String) (fields : List Field) (entry : Entry) : Bool :=
  match entry.body.get? key with
  | some value => Shape.orNull (.record fields) value
  | none => true

/-- The section of an entry, if it is there and not null. -/
def section? (key : String) (entry : Entry) : Option Value :=
  (entry.body.get? key).bind fun value =>
    match value with
    | .null => none
    | value => some value

/-- Whether every part of a document fits. -/
def accepts (document : Kubeconfig) : Bool :=
  (extraFields.all fun field =>
    match document.extra.get? field.key with
    | some value => field.shape value
    | none => true) &&
  document.clusters.all (sectionFits "cluster" clusterFields) &&
  document.contexts.all (sectionFits "context" contextFields) &&
  document.users.all (sectionFits "user" userFields)

end ClientConfig

/-- What a client can be made from. -/
structure ClientConfig where
  /-- The contexts, each with the name of its cluster, if it has a section. -/
  contexts : List (String × Option String) := []
  /-- The clusters, each with its server address; the outer option is the section. -/
  clusters : List (String × Option (Option String)) := []
  users : List String := []
  current : Option String := none

namespace ClientConfig

/-- The client configuration that a document describes. -/
def ofDocument? (document : Kubeconfig) : Option ClientConfig :=
  if accepts document then
    some
      { contexts := document.contexts.map fun entry =>
          (entry.name, (section? "context" entry).map fun value =>
            (textOf? contextFields "cluster" value).getD "")
        clusters := document.clusters.map fun entry =>
          (entry.name, (section? "cluster" entry).map (textOf? clusterFields "server"))
        users := document.users.map (·.name)
        current := document.current }
  else none

/-- The server address of a context, if the configuration has one. -/
def server? (config : ClientConfig) (context : String) : Option String := do
  let cluster ← (← Assoc.get? config.contexts context)
  let server ← (← (← Assoc.get? config.clusters cluster))
  if Text.isAddress server.toList then some server else none

end ClientConfig
end KubeLens
