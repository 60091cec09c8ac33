import KubeLens.Error
import KubeLens.Kubeconfig.ClientConfig
import KubeLens.Kubeconfig.Reader
import KubeLens.Settings

/-!
# The kubeconfig file

The part of the file system that this program looks at: one kubeconfig file, and the directory
where the credentials of a service account are mounted.
-/

namespace KubeLens

/-- What is found at the path of the kubeconfig. -/
inductive KubeconfigFile where
  | absent
  | directory
  /-- Octets that are no text. -/
  | binary
  | text (raw : String)
  /-- A document that this program wrote. -/
  | saved (document : Kubeconfig)
  deriving Inhabited

/-- The steps of storing a document. -/
inductive SaveStep where
  /-- The directory of the kubeconfig file is made. -/
  | makeDirectory
  /-- A new file is made beside the kubeconfig file. -/
  | makeFile
  /-- The document is written to the new file. -/
  | fillFile
  /-- The new file takes the place of the kubeconfig file. -/
  | replace
  deriving DecidableEq, Repr

/-- The files that hold the credentials of a service account. -/
def credentialFiles : List String :=
  ["token", "ca.crt"]

/-- The files that matter. -/
structure Host where
  kubeconfig : KubeconfigFile := .absent
  /-- The steps of storing a document that the file system does not allow. -/
  faults : List SaveStep := []
  /-- The names of the files in the directory of the service account, if there is one. -/
  accountFiles? : Option (List String) := none
  deriving Inhabited

namespace Kubeconfig

/-- Reads a document. -/
def parse (raw : String) : Except ServiceError Kubeconfig :=
  match read? raw with
  | some document => .ok document
  | none => .error .kubeconfigUnreadable

/-- The client configuration that a document describes. -/
def clientConfig (document : Kubeconfig) : Except ServiceError ClientConfig :=
  match ClientConfig.ofDocument? document with
  | some config => .ok config
  | none => .error .kubeconfigInvalid

end Kubeconfig

namespace Host

/-- Whether there is anything at the path of the kubeconfig. -/
def isOccupied (host : Host) : Bool :=
  match host.kubeconfig with
  | .absent => false
  | _ => true

/-- The stored document. -/
def load (settings : Settings) (host : Host) : Except ServiceError Kubeconfig :=
  match host.kubeconfig with
  | .absent => .error (.kubeconfigMissing settings.kubeconfigPath)
  | .directory | .binary => .error .file
  | .text raw => Kubeconfig.parse raw
  | .saved document => .ok document.reread

/-- The stored document, or the blank one when there is no file. -/
def loadOrBlank (settings : Settings) (host : Host) : Except ServiceError Kubeconfig :=
  if host.isOccupied then host.load settings else .ok .blank

/-- Stores a document.  It is written to a new file, which takes the place of the stored one; so
when a step fails, what was stored is stored still.  A directory is not replaced. -/
def save (host : Host) (document : Kubeconfig) : Except ServiceError Unit × Host :=
  let fails (step : SaveStep) : Bool := host.faults.contains step
  if fails .makeDirectory || fails .makeFile || fails .fillFile || fails .replace then
    (.error .file, host)
  else
    match host.kubeconfig with
    | .directory => (.error .file, host)
    | _ => (.ok (), { host with kubeconfig := .saved document })

/-- Whether the credentials of a service account are mounted. -/
def inCluster (host : Host) : Bool :=
  host.accountFiles?.any fun files => credentialFiles.all files.contains

end Host
end KubeLens
