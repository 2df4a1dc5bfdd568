import Converge.Data.Codec
import Converge.Plan.Basic
/-!
# What an apply did

The resources that were deleted and created, the versions that were written, and whether the
ledger changed.  `ExecutionResult.text` is the report as it is shown.
-/

namespace Converge

/-- A version that was written. -/
structure CreatedVersion where
  application : String
  version : Int32
  activated : Bool
  deriving DecidableEq, Repr, Inhabited

/-- What an apply did, in the order in which it was done. -/
structure ExecutionResult where
  clusterUpdated : Bool
  /-- Each with its owner in front. -/
  deletedBalancers : List String
  deletedGroups : List String
  createdGroups : List String
  createdBalancers : List String
  createdApplications : List String
  versions : List CreatedVersion
  ledgerModified : Bool
  deriving DecidableEq, Repr, Inhabited

namespace ExecutionResult

/-- Nothing was done. -/
def nothing : ExecutionResult := ⟨false, [], [], [], [], [], [], false⟩

/-- Whether nothing was written. -/
def isEmpty (r : ExecutionResult) : Bool :=
  !r.clusterUpdated && r.deletedBalancers.isEmpty && r.deletedGroups.isEmpty
    && r.createdGroups.isEmpty && r.createdBalancers.isEmpty && r.createdApplications.isEmpty
    && r.versions.isEmpty

/-- One line for each of some names. -/
def lines (start : String) (names : List String) : String :=
  String.join (names.map fun name => start ++ name ++ "\n")

/-- The line for a version. -/
def versionLine (v : CreatedVersion) : String :=
  "  + " ++ v.application ++ " version " ++ toString v.version
    ++ (if v.activated then " (activated)" else "") ++ "\n"

/-- The report as it is shown. -/
def text (r : ExecutionResult) : String :=
  if r.isEmpty then "Apply complete: no changes"
  else
    "Apply complete:\n"
    ++ (if r.clusterUpdated then "  cluster settings updated\n" else "")
    ++ lines "  - load balancer " r.deletedBalancers
    ++ lines "  - auto-scaling group " r.deletedGroups
    ++ lines "  + auto-scaling group " r.createdGroups
    ++ lines "  + load balancer " r.createdBalancers
    ++ lines "  + application " r.createdApplications
    ++ String.join (r.versions.map versionLine)

end ExecutionResult

/-! ## 1. Written form -/

open Converge.Field

def CreatedVersion.codec : Codec CreatedVersion :=
  .record "CreatedVersion"
    (.and (required "application" .text) <|
     .and (required "version" .int32) <|
     .and (required "activated" .bool) .none)
    (fun (application, version, activated, ()) => ⟨application, version, activated⟩)
    (fun v => (v.application, v.version, v.activated, ()))

def ExecutionResult.codec : Codec ExecutionResult :=
  .record "ExecutionResult"
    (.and (withDefault "clusterUpdated" .bool false) <|
     .and (withDefault "deletedLoadBalancers" (.list .text) []) <|
     .and (withDefault "deletedAutoScalingGroups" (.list .text) []) <|
     .and (withDefault "createdAutoScalingGroups" (.list .text) []) <|
     .and (withDefault "createdLoadBalancers" (.list .text) []) <|
     .and (withDefault "createdApplications" (.list .text) []) <|
     .and (withDefault "versions" (.list CreatedVersion.codec) []) <|
     .and (withDefault "ledgerModified" .bool false) .none)
    (fun (cluster, deletedB, deletedG, createdG, createdB, createdA, versions, ledger, ()) =>
      ⟨cluster, deletedB, deletedG, createdG, createdB, createdA, versions, ledger⟩)
    (fun r => (r.clusterUpdated, r.deletedBalancers, r.deletedGroups, r.createdGroups,
      r.createdBalancers, r.createdApplications, r.versions, r.ledgerModified, ()))

end Converge
