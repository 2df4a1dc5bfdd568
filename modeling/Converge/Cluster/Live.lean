import Converge.Cluster.Resource
import Converge.Data.SortedMap
import Converge.Ledger.Basic
/-!
# The live cluster

A snapshot of everything that lives in one cluster, as it was observed: the cluster itself, its
groups, the load balancers of each group, and the applications with their latest version.
-/

namespace Converge

/-- A cluster that was found by its name. -/
structure ClusterIdentity where
  name : String
  id : Uuid
  deriving DecidableEq, Repr, Inhabited

/-- A live application and its version with the highest number. -/
structure LiveApplication where
  application : Application
  latestVersion : Option ApplicationVersion
  deriving DecidableEq, Repr, Inhabited

/-- Everything that lives in a cluster. -/
structure LiveState where
  cluster : ClusterIdentity
  detail : ClusterDetail
  groups : List Group
  /-- Load balancers by the name of their owner. -/
  balancers : SortedMap (List Balancer)
  applications : List LiveApplication
  deriving DecidableEq, Repr, Inhabited

namespace LiveState

/-- The first live group with a name. -/
def group? (live : LiveState) (name : String) : Option Group :=
  live.groups.find? (·.name = name)

/-- The first load balancer with a name under an owner. -/
def balancer? (live : LiveState) (owner name : String) : Option Balancer :=
  (live.balancers.get? owner).bind fun bs => bs.find? (·.name = name)

/-- The last live application with a name. -/
def application? (live : LiveState) (name : String) : Option LiveApplication :=
  live.applications.reverse.find? (·.application.name = name)

end LiveState

/-! ## 1. Written form -/

open Converge.Field

def ClusterIdentity.codec : Codec ClusterIdentity :=
  .record "ClusterIdentity"
    (.and (required "name" .text) <| .and (required "id" Uuid.codec) .none)
    (fun (name, id, ()) => ⟨name, id⟩)
    (fun c => (c.name, c.id, ()))

def LiveApplication.codec : Codec LiveApplication :=
  .record "LiveApplication"
    (.and (required "application" Application.codec) <|
     .and (orNull "latestVersion" ApplicationVersion.codec) .none)
    (fun (application, latest, ()) => ⟨application, latest⟩)
    (fun a => (a.application, a.latestVersion, ()))

def LiveState.codec : Codec LiveState :=
  .record "LiveState"
    (.and (required "cluster" ClusterIdentity.codec) <|
     .and (required "detail" ClusterDetail.codec) <|
     .and (required "autoScalingGroups" (.list Group.codec)) <|
     .and (required "loadBalancers" (SortedMap.codec (.list Balancer.codec))) <|
     .and (required "applications" (.list LiveApplication.codec)) .none)
    (fun (cluster, detail, groups, balancers, applications, ()) =>
      ⟨cluster, detail, groups, balancers, applications⟩)
    (fun l => (l.cluster, l.detail, l.groups, l.balancers, l.applications, ()))

end Converge
