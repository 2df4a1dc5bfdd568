import Converge.Data.Codec
/-!
# The desired cluster

A configuration describes one cluster that already exists: its settings, its groups of worker
nodes, the load balancers that belong to the groups, and the applications that run on it.  The
types say what can be written in a configuration file; the codecs beside them say how.
-/

namespace Converge

/-- Settings of the cluster itself. -/
structure ClusterSettings where
  /-- Contact address for certificates; the control plane never shows it. -/
  letsEncryptEmail : Option String
  servicePrincipalId : String
  deriving DecidableEq, Repr, Inhabited

/-- A range of addresses with both ends in it. -/
structure IpRange where
  start : String
  stop : String
  deriving DecidableEq, Repr, Inhabited

/-- A network interface of a worker group. -/
structure GroupInterface where
  interfaceIndex : Int16
  /-- The network that it is attached to. -/
  network : String
  /-- Whether it faces the load balancers. -/
  connectsToLb : Bool
  ipPool : List IpRange
  netmaskLen : Option Int16
  defaultGateway : Option String
  packetFilterId : Option String
  deriving DecidableEq, Repr, Inhabited

/-- A group of worker nodes that grows and shrinks between two sizes. -/
structure GroupConfig where
  name : String
  zone : String
  workerServiceClassPath : String
  minNodes : Int32
  maxNodes : Int32
  nameServers : List String
  interfaces : List GroupInterface
  deriving DecidableEq, Repr, Inhabited

/-- A network interface of a load balancer. -/
structure BalancerInterface where
  interfaceIndex : Int16
  /-- The network that it is attached to. -/
  network : String
  ipPool : List IpRange
  netmaskLen : Option Int16
  defaultGateway : Option String
  vip : Option String
  virtualRouterId : Option Int16
  packetFilterId : Option String
  deriving DecidableEq, Repr, Inhabited

/-- A load balancer and the group that owns it. -/
structure BalancerConfig where
  name : String
  groupName : String
  serviceClassPath : String
  nameServers : List String
  interfaces : List BalancerInterface
  deriving DecidableEq, Repr, Inhabited

/-- A check that an application answers. -/
structure HealthCheck where
  path : String
  intervalSeconds : Int32
  timeoutSeconds : Int32
  deriving DecidableEq, Repr, Inhabited

/-- A port of an application that the load balancers expose. -/
structure ExposedPort where
  targetPort : Int32
  loadBalancerPort : Option Int32
  useLetsEncrypt : Bool
  host : List String
  healthCheck : Option HealthCheck
  deriving DecidableEq, Repr, Inhabited

/-- An environment variable as it is configured. -/
structure EnvEntry where
  key : String
  value : Option String
  secret : Bool
  /-- The number by which the operator marks a new secret value. -/
  secretVersion : Option Int64
  deriving DecidableEq, Repr, Inhabited

/-- What a version of an application should look like. -/
structure ApplicationSpec where
  cpu : Int64
  memory : Int64
  scalingMode : String
  fixedScale : Option Int32
  minScale : Option Int32
  maxScale : Option Int32
  scaleInThreshold : Option Int32
  scaleOutThreshold : Option Int32
  /-- Used only when the application is created. -/
  image : String
  cmd : List String
  registryUsername : Option String
  /-- Never shown by the control plane. -/
  registryPassword : Option String
  /-- The number by which the operator marks a new password. -/
  registryPasswordVersion : Option Int64
  exposedPorts : List ExposedPort
  env : List EnvEntry
  deriving DecidableEq, Repr, Inhabited

/-- An application under its name. -/
structure ApplicationConfig where
  name : String
  spec : ApplicationSpec
  deriving DecidableEq, Repr, Inhabited

/-- The desired cluster. -/
structure ClusterConfig where
  clusterName : String
  cluster : Option ClusterSettings
  groups : List GroupConfig
  balancers : List BalancerConfig
  applications : List ApplicationConfig
  deriving DecidableEq, Repr, Inhabited

/-! ## 1. Scaling -/

/-- How the number of replicas is chosen. -/
inductive ScalingMode where
  /-- A fixed number. -/
  | manual
  /-- By the use of processors, between two bounds. -/
  | cpu
  deriving DecidableEq, Repr, Inhabited

namespace ScalingMode

/-- The word for a mode. -/
def word : ScalingMode → String
  | .manual => "manual"
  | .cpu => "cpu"

/-- The mode that a word names. -/
def ofWord? (s : String) : Option ScalingMode :=
  if s = "manual" then some .manual else if s = "cpu" then some .cpu else none

end ScalingMode

/-- The scaling mode, when the word is a known one. -/
def ApplicationSpec.scaling (spec : ApplicationSpec) : Option ScalingMode :=
  ScalingMode.ofWord? spec.scalingMode

/-- Whether any environment variable is secret. -/
def ApplicationSpec.hasSecretEnv (spec : ApplicationSpec) : Bool := spec.env.any (·.secret)

namespace ClusterConfig

/-- The first application with a name. -/
def application? (c : ClusterConfig) (name : String) : Option ApplicationConfig :=
  c.applications.find? (·.name = name)

/-- The first group with a name. -/
def group? (c : ClusterConfig) (name : String) : Option GroupConfig :=
  c.groups.find? (·.name = name)

/-- The first load balancer with a name under an owner. -/
def balancer? (c : ClusterConfig) (owner name : String) : Option BalancerConfig :=
  c.balancers.find? fun b => b.groupName = owner ∧ b.name = name

end ClusterConfig

/-! ## 2. Written form -/

open Converge.Field

def ClusterSettings.codec : Codec ClusterSettings :=
  .record "ClusterSettings"
    (.and (ifAny "letsEncryptEmail" .text) <|
     .and (required "servicePrincipalId" .text) .none)
    (fun (email, principal, ()) => ⟨email, principal⟩)
    (fun s => (s.letsEncryptEmail, s.servicePrincipalId, ()))

/-- A range of addresses, under the name by which reports ask for it. -/
def IpRange.codec (name : String) : Codec IpRange :=
  .record name
    (.and (required "start" .text) <| .and (required "end" .text) .none)
    (fun (start, stop, ()) => ⟨start, stop⟩)
    (fun r => (r.start, r.stop, ()))

/-- A group's interface, under the names by which reports ask for it and its ranges. -/
def GroupInterface.codec (name rangeName : String) : Codec GroupInterface :=
  .record name
    (.and (required "interfaceIndex" .int16) <|
     .and (required "upstream" .text) <|
     .and (withDefault "connectsToLb" .bool false) <|
     .and (withDefault "ipPool" (.list (IpRange.codec rangeName)) []) <|
     .and (ifAny "netmaskLen" .int16) <|
     .and (ifAny "defaultGateway" .text) <|
     .and (ifAny "packetFilterId" .text) .none)
    (fun (index, network, lb, pool, mask, gateway, filter, ()) =>
      ⟨index, network, lb, pool, mask, gateway, filter⟩)
    (fun i => (i.interfaceIndex, i.network, i.connectsToLb, i.ipPool, i.netmaskLen,
      i.defaultGateway, i.packetFilterId, ()))

def GroupConfig.codec : Codec GroupConfig :=
  .record "AutoScalingGroupConfig"
    (.and (required "name" .text) <|
     .and (required "zone" .text) <|
     .and (required "workerServiceClassPath" .text) <|
     .and (required "minNodes" .int32) <|
     .and (required "maxNodes" .int32) <|
     .and (withDefault "nameServers" (.list .text) []) <|
     .and (withDefault "interfaces"
       (.list (GroupInterface.codec "AsgInterfaceConfig" "IpRangeConfig")) []) .none)
    (fun (name, zone, path, min, max, servers, interfaces, ()) =>
      ⟨name, zone, path, min, max, servers, interfaces⟩)
    (fun g => (g.name, g.zone, g.workerServiceClassPath, g.minNodes, g.maxNodes, g.nameServers,
      g.interfaces, ()))

/-- A load balancer's interface, under the names by which reports ask for it and its ranges. -/
def BalancerInterface.codec (name rangeName : String) : Codec BalancerInterface :=
  .record name
    (.and (required "interfaceIndex" .int16) <|
     .and (required "upstream" .text) <|
     .and (withDefault "ipPool" (.list (IpRange.codec rangeName)) []) <|
     .and (ifAny "netmaskLen" .int16) <|
     .and (ifAny "defaultGateway" .text) <|
     .and (ifAny "vip" .text) <|
     .and (ifAny "virtualRouterId" .int16) <|
     .and (ifAny "packetFilterId" .text) .none)
    (fun (index, network, pool, mask, gateway, vip, router, filter, ()) =>
      ⟨index, network, pool, mask, gateway, vip, router, filter⟩)
    (fun i => (i.interfaceIndex, i.network, i.ipPool, i.netmaskLen, i.defaultGateway, i.vip,
      i.virtualRouterId, i.packetFilterId, ()))

def BalancerConfig.codec : Codec BalancerConfig :=
  .record "LoadBalancerConfig"
    (.and (required "name" .text) <|
     .and (required "autoScalingGroupName" .text) <|
     .and (required "serviceClassPath" .text) <|
     .and (withDefault "nameServers" (.list .text) []) <|
     .and (withDefault "interfaces"
       (.list (BalancerInterface.codec "LbInterfaceConfig" "IpRangeConfig")) []) .none)
    (fun (name, group, path, servers, interfaces, ()) => ⟨name, group, path, servers, interfaces⟩)
    (fun b => (b.name, b.groupName, b.serviceClassPath, b.nameServers, b.interfaces, ()))

/-- A health check, under the name by which reports ask for it. -/
def HealthCheck.codec (name : String) : Codec HealthCheck :=
  .record name
    (.and (required "path" .text) <|
     .and (required "intervalSeconds" .int32) <|
     .and (required "timeoutSeconds" .int32) .none)
    (fun (path, interval, timeout, ()) => ⟨path, interval, timeout⟩)
    (fun h => (h.path, h.intervalSeconds, h.timeoutSeconds, ()))

/-- A port in a configuration: what is not set is left out. -/
def ExposedPort.configCodec : Codec ExposedPort :=
  .record "ExposedPortConfig"
    (.and (required "targetPort" .int32) <|
     .and (ifAny "loadBalancerPort" .int32) <|
     .and (withDefault "useLetsEncrypt" .bool false) <|
     .and (unlessEmpty "host" .text) <|
     .and (ifAny "healthCheck" (HealthCheck.codec "HealthCheckConfig")) .none)
    (fun (target, port, tls, host, check, ()) => ⟨target, port, tls, host, check⟩)
    (fun p => (p.targetPort, p.loadBalancerPort, p.useLetsEncrypt, p.host, p.healthCheck, ()))

def EnvEntry.codec : Codec EnvEntry :=
  .record "EnvVarConfig"
    (.and (required "key" .text) <|
     .and (ifAny "value" .text) <|
     .and (withDefault "secret" .bool false) <|
     .and (ifAny "secretVersion" .int64) .none)
    (fun (key, value, secret, version, ()) => ⟨key, value, secret, version⟩)
    (fun e => (e.key, e.value, e.secret, e.secretVersion, ()))

def ApplicationSpec.codec : Codec ApplicationSpec :=
  .record "ApplicationSpec"
    (.and (required "cpu" .int64) <|
     .and (required "memory" .int64) <|
     .and (withDefault "scalingMode" .text "") <|
     .and (ifAny "fixedScale" .int32) <|
     .and (ifAny "minScale" .int32) <|
     .and (ifAny "maxScale" .int32) <|
     .and (ifAny "scaleInThreshold" .int32) <|
     .and (ifAny "scaleOutThreshold" .int32) <|
     .and (withDefault "image" .text "") <|
     .and (unlessEmpty "cmd" .text) <|
     .and (ifAny "registryUsername" .text) <|
     .and (ifAny "registryPassword" .text) <|
     .and (ifAny "registryPasswordVersion" .int64) <|
     .and (withDefault "exposedPorts" (.list ExposedPort.configCodec) []) <|
     .and (unlessEmpty "env" EnvEntry.codec) .none)
    (fun (cpu, memory, mode, fixed, min, max, inAt, outAt, image, cmd, user, password, version,
        ports, env, ()) =>
      ⟨cpu, memory, mode, fixed, min, max, inAt, outAt, image, cmd, user, password, version,
        ports, env⟩)
    (fun s => (s.cpu, s.memory, s.scalingMode, s.fixedScale, s.minScale, s.maxScale,
      s.scaleInThreshold, s.scaleOutThreshold, s.image, s.cmd, s.registryUsername,
      s.registryPassword, s.registryPasswordVersion, s.exposedPorts, s.env, ()))

def ApplicationConfig.codec : Codec ApplicationConfig :=
  .record "ApplicationConfig"
    (.and (required "name" .text) <| .and (required "spec" ApplicationSpec.codec) .none)
    (fun (name, spec, ()) => ⟨name, spec⟩)
    (fun a => (a.name, a.spec, ()))

def ClusterConfig.codec : Codec ClusterConfig :=
  .record "ClusterConfig"
    (.and (withDefault "clusterName" .text "") <|
     .and (ifAny "cluster" ClusterSettings.codec) <|
     .and (unlessEmpty "autoScalingGroups" GroupConfig.codec) <|
     .and (unlessEmpty "loadBalancers" BalancerConfig.codec) <|
     .and (withDefault "applications" (.list ApplicationConfig.codec) []) .none)
    (fun (name, cluster, groups, balancers, applications, ()) =>
      ⟨name, cluster, groups, balancers, applications⟩)
    (fun c => (c.clusterName, c.cluster, c.groups, c.balancers, c.applications, ()))

end Converge
