import KubeLens.Text.Blank

/-!
# API groups and versions

An `apiVersion` names a group and a version, separated by a slash; the core group has no name
and is written as the version alone.
-/

namespace KubeLens

/-- What is wrong with an `apiVersion`. -/
inductive ApiVersionFault
  /-- There is not exactly one slash. -/
  | shape
  /-- Nothing but blanks before the slash. -/
  | noGroup
  /-- Nothing but blanks after the slash. -/
  | noVersion
  deriving DecidableEq, Repr

/-- What is said about the faulty text `raw`. -/
def ApiVersionFault.message (raw : String) : ApiVersionFault → String
  | .shape => s!"invalid apiVersion format: {raw}, expected group/version"
  | .noGroup => s!"invalid apiVersion format: {raw}, group is required"
  | .noVersion => s!"invalid apiVersion format: {raw}, version is required"

/-- A group and one of its versions.  The core group is empty. -/
structure GroupVersion where
  group : String
  version : String
  deriving DecidableEq, Repr

namespace GroupVersion

/-- Reads `group/version`.  Blanks around either part do not count. -/
def parse (raw : String) : Except ApiVersionFault GroupVersion :=
  match Text.splitOnce '/' raw.toList with
  | none => .error .shape
  | some (group, version) =>
    if '/' ∈ version then .error .shape
    else
      let group := Text.trimChars group
      let version := Text.trimChars version
      if group.isEmpty then .error .noGroup
      else if version.isEmpty then .error .noVersion
      else .ok ⟨String.ofList group, String.ofList version⟩

/-- Reads `group/version`, or a version of the core group alone. -/
def parseAllowCore (raw : String) : Except ApiVersionFault GroupVersion :=
  let trimmed := Text.trimChars raw.toList
  if !trimmed.isEmpty && !trimmed.contains '/' then .ok ⟨"", String.ofList trimmed⟩
  else parse raw

/-- Whether this is the core group. -/
def isCore (gv : GroupVersion) : Bool :=
  gv.group.isEmpty

/-- The text that `parseAllowCore` reads back. -/
def apiVersion (gv : GroupVersion) : String :=
  if gv.isCore then gv.version else gv.group ++ "/" ++ gv.version

end GroupVersion
end KubeLens
