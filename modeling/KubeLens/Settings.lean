import KubeLens.Error
import KubeLens.Text.Numeral

/-!
# Settings

The settings of the inspection core and of the listener, read from environment variables.  A
lookup gives the value of a variable, if it is set.  Spans of time are milliseconds.
-/

namespace KubeLens

/-- The value of an environment variable, if it is set. -/
abbrev Lookup := String → Option String

/-- The settings of the inspection core. -/
structure Settings where
  /-- The path of the kubeconfig file. -/
  kubeconfigPath : String
  /-- The directory that holds credentials inside a cluster. -/
  serviceAccountDir : String := "/var/run/secrets/kubernetes.io/serviceaccount"
  /-- How long collected managed resources stay fresh. -/
  cacheTtl : Nat := 300000
  /-- How long a connectivity probe may take. -/
  probeTimeout : Nat := 10000
  /-- The time between two reads of a watched object. -/
  resync : Nat := 30000
  /-- How many list calls run at the same time. -/
  maxConcurrent : Nat := 16
  deriving DecidableEq, Repr

namespace Settings

/-- The variable that bounds concurrent list calls. -/
def maxConcurrentVar : String := "INSPECTOR_MAX_CONCURRENT_QUERIES"

/-- The variable for the time between reads, in seconds. -/
def resyncVar : String := "INSPECTOR_WATCH_RESYNC_SECS"

/-- The variable for the freshness of managed resources, in seconds. -/
def cacheTtlVar : String := "INSPECTOR_MANAGED_CACHE_TTL_SECS"

/-- The variable for the time of a probe, in seconds. -/
def probeTimeoutVar : String := "INSPECTOR_PROBE_TIMEOUT_SECS"

/-- The path of the kubeconfig file of a user with this home directory, if there is one. -/
def defaultKubeconfigPath (home? : Option String) : String :=
  match home? with
  | some home => home ++ "/.kube/config"
  | none => ".kube/config"

/-- The settings of a user with this home directory, if there is one. -/
def defaults (home? : Option String) : Settings :=
  { kubeconfigPath := defaultKubeconfigPath home? }

/-- The value of a variable that is not empty. -/
def nonEmpty (lookup : Lookup) (name : String) : Option String :=
  (lookup name).filter fun raw => !raw.isEmpty

/-- The value of a variable that is not blank. -/
def nonBlank (lookup : Lookup) (name : String) : Option String :=
  (lookup name).filter fun raw => !Text.isBlankText raw

/-- A number in a variable, or the default when it is not set or blank.  Blanks around the
number do not count. -/
def number (lookup : Lookup) (name : String) (default : Nat) : Except ServiceError Nat :=
  match nonBlank lookup name with
  | none => .ok default
  | some raw =>
    match Text.readNumeral (Nat.pow 2 64) (Text.trim raw) with
    | .ok value => .ok value
    | .error _ => .error (.config s!"{name} must be a number, got '{raw}'")

/-- A number in a variable that must not be zero. -/
def positive (lookup : Lookup) (name : String) (default : Nat) : Except ServiceError Nat :=
  match number lookup name default with
  | .ok 0 => .error (.config s!"{name} must be at least 1")
  | result => result

/-- The settings that the environment of a user with this home directory asks for. -/
def ofLookup (home? : Option String) (lookup : Lookup) : Except ServiceError Settings := do
  let base := defaults home?
  let maxConcurrent ← positive lookup maxConcurrentVar base.maxConcurrent
  let resync ← positive lookup resyncVar (base.resync / 1000)
  let cacheTtl ← number lookup cacheTtlVar (base.cacheTtl / 1000)
  let probeTimeout ← number lookup probeTimeoutVar (base.probeTimeout / 1000)
  return {
    kubeconfigPath := (nonEmpty lookup "KUBECONFIG").getD base.kubeconfigPath
    serviceAccountDir :=
      (nonEmpty lookup "INSPECTOR_SERVICE_ACCOUNT_DIR").getD base.serviceAccountDir
    cacheTtl := cacheTtl * 1000
    probeTimeout := probeTimeout * 1000
    resync := resync * 1000
    maxConcurrent }

end Settings

/-- Where the server listens. -/
structure Listener where
  host : String := "0.0.0.0"
  port : Nat := 3001
  deriving DecidableEq, Repr

/-- A port that cannot be read. -/
structure PortFault where
  raw : String
  fault : Text.NumeralFault
  deriving DecidableEq, Repr

/-- What is said about a port that cannot be read. -/
def PortFault.message (fault : PortFault) : String :=
  s!"Invalid configuration: invalid port '{fault.raw}': " ++ fault.fault.message

namespace Listener

/-- The variable that names the port.  A set `SERVER_PORT` hides `PORT`, also when it is
blank. -/
def portText (lookup : Lookup) : Option String :=
  ((lookup "SERVER_PORT").or (lookup "PORT")).filter fun raw => !Text.isBlankText raw

/-- The listener that an environment asks for. -/
def ofLookup (lookup : Lookup) : Except PortFault Listener :=
  let host := ((Settings.nonBlank lookup "SERVER_HOST").map Text.trim).getD "0.0.0.0"
  match portText lookup with
  | none => .ok { host }
  | some raw =>
    match Text.readNumeral (Nat.pow 2 16) (Text.trim raw) with
    | .ok port => .ok { host, port }
    | .error fault => .error ⟨raw, fault⟩

/-- The address to bind. -/
def address (listener : Listener) : String :=
  s!"{listener.host}:{listener.port}"

end Listener
end KubeLens
