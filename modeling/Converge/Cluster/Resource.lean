import Converge.Config.Basic
import Converge.Uuid
/-!
# What lives on the control plane

Clusters, worker groups, load balancers, applications and their versions as the control plane
shows them.  Interfaces, address ranges, ports and health checks are the same things as in a
configuration and share its types; what differs is how they are written: the control plane spells
out what is not set.
-/

namespace Converge

/-- A cluster in a listing. -/
structure ClusterSummary where
  id : Uuid
  name : String
  deriving DecidableEq, Repr, Inhabited

/-- A cluster with its settings. -/
structure ClusterDetail where
  id : Uuid
  name : String
  servicePrincipalId : String
  /-- Whether a contact address is set; which one is not shown. -/
  hasLetsEncryptEmail : Bool
  deriving DecidableEq, Repr, Inhabited

/-- A live group of worker nodes. -/
structure Group where
  id : Uuid
  name : String
  zone : String
  workerServiceClassPath : String
  minNodes : Int32
  maxNodes : Int32
  nameServers : List String
  interfaces : List GroupInterface
  deriving DecidableEq, Repr, Inhabited

/-- A load balancer in a listing. -/
structure BalancerSummary where
  id : Uuid
  name : String
  deriving DecidableEq, Repr, Inhabited

/-- A live load balancer. -/
structure Balancer where
  id : Uuid
  name : String
  serviceClassPath : String
  nameServers : List String
  interfaces : List BalancerInterface
  deriving DecidableEq, Repr, Inhabited

/-- A live application. -/
structure Application where
  id : Uuid
  name : String
  clusterId : Uuid
  /-- The version that serves. -/
  activeVersion : Option Int32
  deriving DecidableEq, Repr, Inhabited

/-- An environment variable of a version; the value of a secret one is not shown. -/
structure EnvVar where
  key : String
  value : Option String
  secret : Bool
  deriving DecidableEq, Repr, Inhabited

/-- A version in a listing. -/
structure VersionSummary where
  version : Int32
  image : String
  /-- Seconds since the beginning of 1970. -/
  created : Int64
  activeNodeCount : Int64
  deriving DecidableEq, Repr, Inhabited

/-- A version of an application. -/
structure ApplicationVersion where
  version : Int32
  cpu : Int64
  memory : Int64
  scalingMode : String
  fixedScale : Option Int32
  minScale : Option Int32
  maxScale : Option Int32
  scaleInThreshold : Option Int32
  scaleOutThreshold : Option Int32
  image : String
  cmd : List String
  registryUsername : Option String
  exposedPorts : List ExposedPort
  env : List EnvVar
  deriving DecidableEq, Repr, Inhabited

/-- One page of a listing, and where the next one starts. -/
structure Page (α : Type) where
  items : List α
  next : Option String
  deriving DecidableEq, Repr, Inhabited

/-! ## 1. Written form -/

open Converge.Field

def ClusterSummary.codec : Codec ClusterSummary :=
  .record "ClusterSummary"
    (.and (required "clusterId" Uuid.codec) <| .and (required "name" .text) .none)
    (fun (id, name, ()) => ⟨id, name⟩)
    (fun c => (c.id, c.name, ()))

def ClusterDetail.codec : Codec ClusterDetail :=
  .record "ClusterDetail"
    (.and (required "clusterId" Uuid.codec) <|
     .and (required "name" .text) <|
     .and (withDefault "servicePrincipalId" .text "") <|
     .and (withDefault "hasLetsEncryptEmail" .bool false) .none)
    (fun (id, name, principal, email, ()) => ⟨id, name, principal, email⟩)
    (fun c => (c.id, c.name, c.servicePrincipalId, c.hasLetsEncryptEmail, ()))

/-- A group's interface as the control plane writes it. -/
def GroupInterface.liveCodec : Codec GroupInterface := GroupInterface.codec "AsgInterface" "IpRange"

/-- A load balancer's interface as the control plane writes it. -/
def BalancerInterface.liveCodec : Codec BalancerInterface :=
  BalancerInterface.codec "LbInterface" "IpRange"

def Group.codec : Codec Group :=
  .record "AutoScalingGroup"
    (.and (required "autoScalingGroupId" Uuid.codec) <|
     .and (required "name" .text) <|
     .and (withDefault "zone" .text "") <|
     .and (withDefault "workerServiceClassPath" .text "") <|
     .and (withDefault "minNodes" .int32 0) <|
     .and (withDefault "maxNodes" .int32 0) <|
     .and (withDefault "nameServers" (.list .text) []) <|
     .and (withDefault "interfaces" (.list GroupInterface.liveCodec) []) .none)
    (fun (id, name, zone, path, min, max, servers, interfaces, ()) =>
      ⟨id, name, zone, path, min, max, servers, interfaces⟩)
    (fun g => (g.id, g.name, g.zone, g.workerServiceClassPath, g.minNodes, g.maxNodes,
      g.nameServers, g.interfaces, ()))

def BalancerSummary.codec : Codec BalancerSummary :=
  .record "LoadBalancerSummary"
    (.and (required "loadBalancerId" Uuid.codec) <| .and (required "name" .text) .none)
    (fun (id, name, ()) => ⟨id, name⟩)
    (fun b => (b.id, b.name, ()))

def Balancer.codec : Codec Balancer :=
  .record "LoadBalancer"
    (.and (required "loadBalancerId" Uuid.codec) <|
     .and (required "name" .text) <|
     .and (withDefault "serviceClassPath" .text "") <|
     .and (withDefault "nameServers" (.list .text) []) <|
     .and (withDefault "interfaces" (.list BalancerInterface.liveCodec) []) .none)
    (fun (id, name, path, servers, interfaces, ()) => ⟨id, name, path, servers, interfaces⟩)
    (fun b => (b.id, b.name, b.serviceClassPath, b.nameServers, b.interfaces, ()))

def Application.codec : Codec Application :=
  .record "Application"
    (.and (required "applicationId" Uuid.codec) <|
     .and (required "name" .text) <|
     .and (required "clusterId" Uuid.codec) <|
     .and (orNull "activeVersion" .int32) .none)
    (fun (id, name, cluster, active, ()) => ⟨id, name, cluster, active⟩)
    (fun a => (a.id, a.name, a.clusterId, a.activeVersion, ()))

/-- A port as the control plane writes it: what is not set is spelled out. -/
def ExposedPort.liveCodec : Codec ExposedPort :=
  .record "ExposedPort"
    (.and (required "targetPort" .int32) <|
     .and (orNull "loadBalancerPort" .int32) <|
     .and (withDefault "useLetsEncrypt" .bool false) <|
     .and (withDefault "host" (.list .text) []) <|
     .and (orNull "healthCheck" (HealthCheck.codec "HealthCheck")) .none)
    (fun (target, port, tls, host, check, ()) => ⟨target, port, tls, host, check⟩)
    (fun p => (p.targetPort, p.loadBalancerPort, p.useLetsEncrypt, p.host, p.healthCheck, ()))

def EnvVar.codec : Codec EnvVar :=
  .record "EnvironmentVariable"
    (.and (required "key" .text) <|
     .and (orNull "value" .text) <|
     .and (withDefault "secret" .bool false) .none)
    (fun (key, value, secret, ()) => ⟨key, value, secret⟩)
    (fun e => (e.key, e.value, e.secret, ()))

def VersionSummary.codec : Codec VersionSummary :=
  .record "VersionSummary"
    (.and (required "version" .int32) <|
     .and (withDefault "image" .text "") <|
     .and (withDefault "created" .int64 0) <|
     .and (withDefault "activeNodeCount" .int64 0) .none)
    (fun (version, image, created, nodes, ()) => ⟨version, image, created, nodes⟩)
    (fun v => (v.version, v.image, v.created, v.activeNodeCount, ()))

def ApplicationVersion.codec : Codec ApplicationVersion :=
  .record "ApplicationVersion"
    (.and (required "version" .int32) <|
     .and (withDefault "cpu" .int64 0) <|
     .and (withDefault "memory" .int64 0) <|
     .and (withDefault "scalingMode" .text "") <|
     .and (orNull "fixedScale" .int32) <|
     .and (orNull "minScale" .int32) <|
     .and (orNull "maxScale" .int32) <|
     .and (orNull "scaleInThreshold" .int32) <|
     .and (orNull "scaleOutThreshold" .int32) <|
     .and (withDefault "image" .text "") <|
     .and (withDefault "cmd" (.list .text) []) <|
     .and (orNull "registryUsername" .text) <|
     .and (withDefault "exposedPorts" (.list ExposedPort.liveCodec) []) <|
     .and (withDefault "env" (.list EnvVar.codec) []) .none)
    (fun (version, cpu, memory, mode, fixed, min, max, inAt, outAt, image, cmd, user, ports, env,
        ()) =>
      ⟨version, cpu, memory, mode, fixed, min, max, inAt, outAt, image, cmd, user, ports, env⟩)
    (fun v => (v.version, v.cpu, v.memory, v.scalingMode, v.fixedScale, v.minScale, v.maxScale,
      v.scaleInThreshold, v.scaleOutThreshold, v.image, v.cmd, v.registryUsername,
      v.exposedPorts, v.env, ()))

end Converge
