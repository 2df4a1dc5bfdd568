import Converge.Data.Lookup
import Converge.Simulation.Basic
/-!
# Simulated control planes as documents

A simulated control plane, its outages and the failures that they cause, read from a document, so
that a situation can be written down and tried out.
-/

namespace Converge.Fixture

open Lookup

/-! ## 1. Failures -/

/-- The short name of the cause of a failure. -/
def kindOf : Failure → String
  | .config (.fileNotFound _) => "Config.FileNotFound"
  | .config (.parse _ _) => "Config.ParseError"
  | .config (.validation _ _) => "Config.ValidationError"
  | .config (.missingEnvVar _) => "Config.MissingEnvVar"
  | .config (.serialize _) => "Config.SerializeError"
  | .ledger (.corrupted _) => "Ledger.Corrupted"
  | .ledger (.serialization _) => "Ledger.SerializationError"
  | .ledger (.versionMismatch _ _) => "Ledger.VersionMismatch"
  | .ledger (.unavailable _) => "Ledger.Unavailable"
  | .api (.authenticationFailed _) => "Api.AuthenticationFailed"
  | .api (.requestFailed _ _) => "Api.RequestFailed"
  | .api (.rateLimited _) => "Api.RateLimited"
  | .api (.network _) => "Api.NetworkError"
  | .api (.invalidResponse _) => "Api.InvalidResponse"
  | .resolve (.clusterNotFound _) => "Resolve.ClusterNotFound"
  | .resolve (.applicationNotFound _) => "Resolve.ApplicationNotFound"
  | .resolve (.noActiveVersion _) => "Resolve.NoActiveVersion"
  | .resolve (.noVersions _) => "Resolve.NoVersions"
  | .resolve (.versionNotFound _ _) => "Resolve.VersionNotFound"
  | .plan _ => "Plan.ComparisonFailed"
  | .apply (.deletionTimeout _ _ _) => "Apply.DeletionTimeout"
  | .apply (.missingConfig _ _) => "Apply.MissingConfig"
  | .apply (.missingIdentifier _ _ _ _) => "Apply.MissingIdentifier"
  | .stage _ _ _ => "Apply.StageFailed"
  | .io _ => "Io"
  | .cancelled => "Cancelled"

/-- A stage by its name. -/
def stage? : String → Option Stage
  | "ClusterSettings" => some .clusterSettings
  | "DeleteLoadBalancers" => some .deleteLoadBalancers
  | "DeleteAutoScalingGroups" => some .deleteGroups
  | "CreateAutoScalingGroups" => some .createGroups
  | "CreateLoadBalancers" => some .createLoadBalancers
  | "Applications" => some .applications
  | _ => none

/-- A failure, with at most a number of stages around its cause. -/
def failureWithin : Nat → Node → Option Failure
  | stages, n => do
    let kind ← get .text n "kind"
    let str := fun key => getOr .text n key ""
    match kind with
    | "Config.FileNotFound" => some (.config (.fileNotFound (← str "path")))
    | "Config.ParseError" =>
      some (.config (.parse (← str "message") (← opt .text n "location")))
    | "Config.ValidationError" =>
      some (.config (.validation (← str "message") (← opt .text n "field")))
    | "Config.MissingEnvVar" => some (.config (.missingEnvVar (← str "name")))
    | "Config.SerializeError" => some (.config (.serialize (← str "message")))
    | "Ledger.Corrupted" => some (.ledger (.corrupted (← str "message")))
    | "Ledger.SerializationError" => some (.ledger (.serialization (← str "message")))
    | "Ledger.VersionMismatch" =>
      some (.ledger (.versionMismatch (← getOr .uint32 n "expected" 0)
        (← getOr .uint32 n "found" 0)))
    | "Ledger.Unavailable" => some (.ledger (.unavailable (← str "message")))
    | "Api.AuthenticationFailed" => some (.api (.authenticationFailed (← str "message")))
    | "Api.RequestFailed" =>
      some (.api (.requestFailed (← getOr .uint16 n "status" 0) (← str "message")))
    | "Api.RateLimited" => some (.api (.rateLimited (← getOr .uint64 n "retry_after_secs" 0)))
    | "Api.NetworkError" => some (.api (.network (← str "message")))
    | "Api.InvalidResponse" => some (.api (.invalidResponse (← str "message")))
    | "Resolve.ClusterNotFound" => some (.resolve (.clusterNotFound (← str "name")))
    | "Resolve.ApplicationNotFound" => some (.resolve (.applicationNotFound (← str "name")))
    | "Resolve.NoActiveVersion" => some (.resolve (.noActiveVersion (← str "application")))
    | "Resolve.NoVersions" => some (.resolve (.noVersions (← str "application")))
    | "Resolve.VersionNotFound" =>
      some (.resolve (.versionNotFound (← str "application") (← getOr .int32 n "version" 0)))
    | "Plan.ComparisonFailed" =>
      let resource ← str "resource"
      some (.plan ⟨(← opt .text n "for_resource").getD resource, ← str "message"⟩)
    | "Apply.DeletionTimeout" =>
      some (.apply (.deletionTimeout (← str "resource_type") (← str "name")
        (← getOr .uint64 n "elapsed_secs" 0)))
    | "Apply.MissingConfig" =>
      some (.apply (.missingConfig (← str "resource_type") (← str "name")))
    | "Apply.MissingIdentifier" =>
      some (.apply (.missingIdentifier (← str "operation") (← str "resource_type")
        (← str "name") (← str "reason")))
    | "Apply.StageFailed" =>
      match stages with
      | 0 => none
      | stages + 1 =>
        some (.stage (← stage? (← get .text n "stage")) (← str "resource")
          (← failureWithin stages (← field? n "source")))
    | "Io" => some (.io (← str "message"))
    | "Cancelled" => some .cancelled
    | _ => none

/-- The failure that a document describes. -/
def failure? (n : Node) : Option Failure := failureWithin (depth n) n

/-! ## 2. Control planes -/

/-- Values under identifiers. -/
def byId? (c : Codec α) (n : Node) (key : String) : Option (ById α) :=
  match field? n key with
  | none => some []
  | some v => do
    (← entries v).mapM fun (k, v) => do
      some (← Uuid.ofText? k, ← decode c v)

/-- An outage. -/
def outage? (n : Node) : Option Outage := do
  some ⟨← get .text n "call", ← (field? n "error").bind failure?,
    (← getOr .uint64 n "skip" 0).toNat, (← opt .uint64 n "times").map (·.toNat)⟩

/-- A list of outages. -/
def outages? (n : Node) : Option (List Outage) := do (← items n).mapM outage?

/-- A list that may be missing. -/
def listOr (c : Codec α) (n : Node) (key : String) : Option (List α) := getOr c.list n key []

/-- The control plane that a document describes. -/
def simulation? (n : Node) : Option Simulation := do
  some {
    pageSize := (← getOr .uint64 n "pageSize" 30).toNat
    linger := (← getOr .uint64 n "linger" 0).toNat
    clusters := ← listOr ClusterSummary.codec n "clusters"
    details := ← listOr ClusterDetail.codec n "details"
    groups := ← listOr Group.codec n "asgs"
    balancers := ← byId? Balancer.codec.list n "lbs"
    applications := ← listOr Application.codec n "apps"
    versions := ← byId? ApplicationVersion.codec.list n "versions"
    summaries := ← byId? VersionSummary.codec.list n "summaries"
    pending := []
    issued := 0
    outages := ← match field? n "failures" with
      | none => some []
      | some v => outages? v }

end Converge.Fixture
