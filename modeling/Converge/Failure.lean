/-!
# What can go wrong

The failures of every part of a run: reading the configuration, the ledger of secret versions,
the control plane, finding resources by name, planning and applying.  Each constructor is a
cause; the wording of all of them is in `Failure.message` and the functions that it calls.
-/

namespace Converge

/-- Failures of reading or checking a configuration. -/
inductive ConfigError where
  | fileNotFound (path : String)
  | parse (message : String) (location : Option String)
  | validation (message : String) (field : Option String)
  | missingEnvVar (name : String)
  | serialize (message : String)
  deriving DecidableEq, Repr, Inhabited

def ConfigError.message : ConfigError → String
  | .fileNotFound path => "Configuration file not found: " ++ path
  | .parse message _ => "Failed to parse configuration: " ++ message
  | .validation message _ => "Configuration validation failed: " ++ message
  | .missingEnvVar name => "Missing environment variable: " ++ name
  | .serialize message => "Failed to serialize configuration: " ++ message

/-- Failures of the ledger of secret versions. -/
inductive LedgerError where
  | corrupted (message : String)
  | serialization (message : String)
  | versionMismatch (expected found : UInt32)
  | unavailable (message : String)
  deriving DecidableEq, Repr, Inhabited

def LedgerError.message : LedgerError → String
  | .corrupted message => "Ledger is corrupted: " ++ message
  | .serialization message => "Ledger serialization error: " ++ message
  | .versionMismatch expected found =>
    "Ledger version mismatch: expected " ++ toString expected ++ ", found " ++ toString found
  | .unavailable message => "Ledger store unavailable: " ++ message

/-- Failures of the control plane and of the way to it. -/
inductive ApiError where
  | authenticationFailed (message : String)
  | requestFailed (status : UInt16) (message : String)
  | rateLimited (retryAfter : UInt64)
  | network (message : String)
  | invalidResponse (message : String)
  deriving DecidableEq, Repr, Inhabited

def ApiError.message : ApiError → String
  | .authenticationFailed message => "AppRun authentication failed: " ++ message
  | .requestFailed status message =>
    "AppRun API request failed: " ++ toString status ++ " - " ++ message
  | .rateLimited retryAfter =>
    "AppRun API rate limited, retry after " ++ toString retryAfter ++ " seconds"
  | .network message => "Network error communicating with AppRun: " ++ message
  | .invalidResponse message => "Invalid response from AppRun API: " ++ message

/-- Failures of finding a resource by its name. -/
inductive ResolveError where
  | clusterNotFound (name : String)
  | applicationNotFound (name : String)
  | noActiveVersion (application : String)
  | noVersions (application : String)
  | versionNotFound (application : String) (version : Int32)
  deriving DecidableEq, Repr, Inhabited

def ResolveError.message : ResolveError → String
  | .clusterNotFound name => "cluster \"" ++ name ++ "\" not found"
  | .applicationNotFound name => "application \"" ++ name ++ "\" not found in cluster"
  | .noActiveVersion application =>
    "no active version exists for application \"" ++ application ++ "\""
  | .noVersions application => "no versions exist for application \"" ++ application ++ "\""
  | .versionNotFound application version =>
    "version " ++ toString version ++ " not found for application \"" ++ application ++ "\""

/-- Two specs that cannot be compared. -/
structure PlanError where
  resource : String
  reason : String
  deriving DecidableEq, Repr, Inhabited

def PlanError.message (e : PlanError) : String :=
  "Failed to compare specs for " ++ e.resource ++ ": " ++ e.reason

/-- The stages of an apply, in their order. -/
inductive Stage where
  | clusterSettings
  | deleteLoadBalancers
  | deleteGroups
  | createGroups
  | createLoadBalancers
  | applications
  deriving DecidableEq, Repr, Inhabited

def Stage.title : Stage → String
  | .clusterSettings => "cluster settings"
  | .deleteLoadBalancers => "delete load balancers"
  | .deleteGroups => "delete auto-scaling groups"
  | .createGroups => "create auto-scaling groups"
  | .createLoadBalancers => "create load balancers"
  | .applications => "applications"

/-- Failures of applying a plan, apart from the failures that stop a stage. -/
inductive ApplyError where
  /-- A resource was still there when the waiting ended. -/
  | deletionTimeout (resourceType name : String) (elapsed : UInt64)
  /-- The plan names a resource that is not configured. -/
  | missingConfig (resourceType name : String)
  /-- The identifier that an action needs is not known. -/
  | missingIdentifier (operation resourceType name reason : String)
  deriving DecidableEq, Repr, Inhabited

def ApplyError.message : ApplyError → String
  | .deletionTimeout resourceType name elapsed =>
    "timed out after " ++ toString elapsed ++ "s waiting for " ++ resourceType ++ " '" ++ name
      ++ "' to be deleted"
  | .missingConfig resourceType name =>
    resourceType ++ " '" ++ name ++ "' not found in desired configuration"
  | .missingIdentifier operation resourceType name reason =>
    "cannot " ++ operation ++ " " ++ resourceType ++ " '" ++ name ++ "': " ++ reason

/-- What stopped an operation. -/
inductive Failure where
  | config (e : ConfigError)
  | ledger (e : LedgerError)
  | api (e : ApiError)
  | resolve (e : ResolveError)
  | plan (e : PlanError)
  | apply (e : ApplyError)
  /-- A stage of an apply was stopped by another failure. -/
  | stage (stage : Stage) (resource : String) (source : Failure)
  | io (message : String)
  | cancelled
  deriving DecidableEq, Repr, Inhabited

namespace Failure

/-- The wording of a failure. -/
def message : Failure → String
  | .config e => "Configuration error: " ++ e.message
  | .ledger e => "Ledger error: " ++ e.message
  | .api e => "AppRun API error: " ++ e.message
  | .resolve e => e.message
  | .plan e => "Planning error: " ++ e.message
  | .apply e => "Apply error: " ++ e.message
  | .stage s resource source =>
    "Apply error: stage '" ++ s.title ++ "' failed for " ++ resource ++ ": " ++ source.message
  | .io message => "IO error: " ++ message
  | .cancelled => "Operation cancelled"

/-- Whether asking again may help. -/
def isRetryable : Failure → Bool
  | .api (.rateLimited _) => true
  | .api (.network _) => true
  | _ => false

/-- The seconds that the control plane asked to wait. -/
def retryDelay : Failure → Option UInt64
  | .api (.rateLimited n) => some n
  | _ => none

/-- Whether the control plane refused the credentials. -/
def isAuthFailure : Failure → Bool
  | .api (.authenticationFailed _) => true
  | _ => false

/-- A request that named something the control plane does not know. -/
def notFound (what : String) : Failure := .api (.requestFailed 404 what)

/-- A configuration that breaks a rule. -/
def invalid (message field : String) : Failure := .config (.validation message (some field))

end Failure

end Converge
