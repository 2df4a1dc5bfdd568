import Converge.Cluster.Resource
/-!
# What is asked of the control plane

The bodies of the requests that change something, and how they follow from a configuration.  The
body of a new version is the desired spec laid over the version before it: what the spec sets
counts, what it leaves open is inherited, and numbers that do not belong to the scaling mode are
dropped.
-/

namespace Converge

/-- New settings of a cluster. -/
structure UpdateClusterRequest where
  servicePrincipalId : String
  /-- Left out to leave it unset. -/
  letsEncryptEmail : Option String
  deriving DecidableEq, Repr, Inhabited

/-- A new worker group. -/
structure CreateGroupRequest where
  name : String
  zone : String
  workerServiceClassPath : String
  minNodes : Int32
  maxNodes : Int32
  nameServers : List String
  interfaces : List GroupInterface
  deriving DecidableEq, Repr, Inhabited

/-- A new load balancer. -/
structure CreateBalancerRequest where
  name : String
  serviceClassPath : String
  nameServers : List String
  interfaces : List BalancerInterface
  deriving DecidableEq, Repr, Inhabited

/-- A new application. -/
structure CreateApplicationRequest where
  name : String
  clusterId : Uuid
  deriving DecidableEq, Repr, Inhabited

/-- The version that should serve; none serves without one. -/
structure UpdateApplicationRequest where
  activeVersion : Option Int32
  deriving DecidableEq, Repr, Inhabited

/-- What becomes of the stored registry password. -/
inductive PasswordAction where
  /-- The password that comes with the request is stored. -/
  | new
  /-- The password of the version before is kept. -/
  | keep
  /-- No password is stored any more. -/
  | remove
  deriving DecidableEq, Repr, Inhabited

/-- The word for what becomes of the password. -/
def PasswordAction.word : PasswordAction → String
  | .new => "new"
  | .keep => "keep"
  | .remove => "remove"

/-- A new version of an application. -/
structure CreateVersionRequest where
  cpu : Int64
  memory : Int64
  scalingMode : String
  fixedScale : Option Int32
  minScale : Option Int32
  maxScale : Option Int32
  scaleInThreshold : Option Int32
  scaleOutThreshold : Option Int32
  image : String
  cmd : List String
  registryUsername : Option String
  registryPassword : Option String
  passwordAction : PasswordAction
  exposedPorts : List ExposedPort
  env : List EnvVar
  deriving DecidableEq, Repr, Inhabited

/-! ## 1. Requests that follow from a configuration -/

/-- The request for new settings. -/
def ClusterSettings.request (s : ClusterSettings) : UpdateClusterRequest :=
  ⟨s.servicePrincipalId, s.letsEncryptEmail⟩

/-- The request for a configured group. -/
def GroupConfig.request (g : GroupConfig) : CreateGroupRequest :=
  ⟨g.name, g.zone, g.workerServiceClassPath, g.minNodes, g.maxNodes, g.nameServers, g.interfaces⟩

/-- The request for a configured load balancer. -/
def BalancerConfig.request (b : BalancerConfig) : CreateBalancerRequest :=
  ⟨b.name, b.serviceClassPath, b.nameServers, b.interfaces⟩

/-- A variable as it is sent. -/
def EnvEntry.sent (e : EnvEntry) : EnvVar := ⟨e.key, e.value, e.secret⟩

/-- A variable as it is passed on from a version to the next: a secret without its value. -/
def EnvVar.inherited (e : EnvVar) : EnvVar := { e with value := if e.secret then none else e.value }

namespace ApplicationSpec

variable (spec : ApplicationSpec) (base : Option ApplicationVersion)

/-- A number of the spec, or that of the version before where the spec has zero. -/
def inheritNumber (desired : Int64) (ofBase : ApplicationVersion → Int64) : Int64 :=
  if desired ≠ 0 then desired else (base.map ofBase).getD 0

/-- A number of the spec, or that of the version before where the spec has none. -/
def inheritScale (desired : Option Int32) (ofBase : ApplicationVersion → Option Int32) :
    Option Int32 :=
  desired.or (base.bind ofBase)

/-- A list of the spec, or that of the version before where the spec's is empty. -/
def inheritList (desired : List α) (ofBase : ApplicationVersion → List α) : List α :=
  if desired.isEmpty then (base.map ofBase).getD [] else desired

/-- The scaling mode of the spec, or that of the version before where the spec has none. -/
def inheritMode : String :=
  if spec.scalingMode.isEmpty then (base.map (·.scalingMode)).getD "" else spec.scalingMode

/-- A user name, unless it is empty. -/
def userName (name : Option String) : Option String := name.filter (fun u => !u.isEmpty)

/-- What becomes of the password: one that is set is sent; otherwise it is kept with a user
before, awaited with a user now, and removed without any. -/
def passwordAction : PasswordAction :=
  if spec.registryPassword.isSome then .new
  else if (userName (base.bind (·.registryUsername))).isSome then .keep
  else if (userName spec.registryUsername).isSome then .new
  else .remove

/-- The request for a version that follows the spec, laid over the version before it. -/
def request : CreateVersionRequest :=
  let mode := spec.inheritMode base
  let scaling := ScalingMode.ofWord? mode
  let ofCpu := fun (n : Option Int32) => if scaling = some .manual then none else n
  let action := spec.passwordAction base
  { cpu := inheritNumber base spec.cpu (·.cpu)
    memory := inheritNumber base spec.memory (·.memory)
    scalingMode := mode
    fixedScale :=
      if scaling = some .cpu then none else inheritScale base spec.fixedScale (·.fixedScale)
    minScale := ofCpu (inheritScale base spec.minScale (·.minScale))
    maxScale := ofCpu (inheritScale base spec.maxScale (·.maxScale))
    scaleInThreshold := ofCpu (inheritScale base spec.scaleInThreshold (·.scaleInThreshold))
    scaleOutThreshold := ofCpu (inheritScale base spec.scaleOutThreshold (·.scaleOutThreshold))
    image := (base.map (·.image)).getD spec.image
    cmd := inheritList base spec.cmd (·.cmd)
    registryUsername :=
      (userName spec.registryUsername).or (userName (base.bind (·.registryUsername)))
    registryPassword := if action = .new then spec.registryPassword else none
    passwordAction := action
    exposedPorts := inheritList base spec.exposedPorts (·.exposedPorts)
    env := inheritList base (spec.env.map (·.sent)) (fun b => b.env.map (·.inherited)) }

end ApplicationSpec

/-! ## 2. Written form -/

open Converge.Field

def UpdateClusterRequest.codec : Codec UpdateClusterRequest :=
  .record "UpdateClusterRequest"
    (.and (required "servicePrincipalId" .text) <|
     .and (ifAnyInPlace "letsEncryptEmail" .text) .none)
    (fun (principal, email, ()) => ⟨principal, email⟩)
    (fun r => (r.servicePrincipalId, r.letsEncryptEmail, ()))

def CreateGroupRequest.codec : Codec CreateGroupRequest :=
  .record "CreateAutoScalingGroupRequest"
    (.and (required "name" .text) <|
     .and (required "zone" .text) <|
     .and (required "workerServiceClassPath" .text) <|
     .and (required "minNodes" .int32) <|
     .and (required "maxNodes" .int32) <|
     .and (required "nameServers" (.list .text)) <|
     .and (required "interfaces" (.list GroupInterface.liveCodec)) .none)
    (fun (name, zone, path, min, max, servers, interfaces, ()) =>
      ⟨name, zone, path, min, max, servers, interfaces⟩)
    (fun g => (g.name, g.zone, g.workerServiceClassPath, g.minNodes, g.maxNodes, g.nameServers,
      g.interfaces, ()))

def CreateBalancerRequest.codec : Codec CreateBalancerRequest :=
  .record "CreateLoadBalancerRequest"
    (.and (required "name" .text) <|
     .and (required "serviceClassPath" .text) <|
     .and (required "nameServers" (.list .text)) <|
     .and (required "interfaces" (.list BalancerInterface.liveCodec)) .none)
    (fun (name, path, servers, interfaces, ()) => ⟨name, path, servers, interfaces⟩)
    (fun b => (b.name, b.serviceClassPath, b.nameServers, b.interfaces, ()))

def CreateApplicationRequest.codec : Codec CreateApplicationRequest :=
  .record "CreateApplicationRequest"
    (.and (required "name" .text) <| .and (required "clusterId" Uuid.codec) .none)
    (fun (name, cluster, ()) => ⟨name, cluster⟩)
    (fun r => (r.name, r.clusterId, ()))

def UpdateApplicationRequest.codec : Codec UpdateApplicationRequest :=
  .record "UpdateApplicationRequest"
    (.and (orNullInPlace "activeVersion" .int32) .none)
    (fun (active, ()) => ⟨active⟩)
    (fun r => (r.activeVersion, ()))

def PasswordAction.codec : Codec PasswordAction :=
  .oneOf [("new", .new), ("keep", .keep), ("remove", .remove)] PasswordAction.word

def CreateVersionRequest.codec : Codec CreateVersionRequest :=
  .record "CreateVersionRequest"
    (.and (required "cpu" .int64) <|
     .and (required "memory" .int64) <|
     .and (required "scalingMode" .text) <|
     .and (ifAnyInPlace "fixedScale" .int32) <|
     .and (ifAnyInPlace "minScale" .int32) <|
     .and (ifAnyInPlace "maxScale" .int32) <|
     .and (ifAnyInPlace "scaleInThreshold" .int32) <|
     .and (ifAnyInPlace "scaleOutThreshold" .int32) <|
     .and (required "image" .text) <|
     .and (required "cmd" (.list .text)) <|
     .and (orNullInPlace "registryUsername" .text) <|
     .and (ifAnyInPlace "registryPassword" .text) <|
     .and (required "registryPasswordAction" PasswordAction.codec) <|
     .and (required "exposedPorts" (.list ExposedPort.liveCodec)) <|
     .and (required "env" (.list EnvVar.codec)) .none)
    (fun (cpu, memory, mode, fixed, min, max, inAt, outAt, image, cmd, user, password, action,
        ports, env, ()) =>
      ⟨cpu, memory, mode, fixed, min, max, inAt, outAt, image, cmd, user, password, action,
        ports, env⟩)
    (fun r => (r.cpu, r.memory, r.scalingMode, r.fixedScale, r.minScale, r.maxScale,
      r.scaleInThreshold, r.scaleOutThreshold, r.image, r.cmd, r.registryUsername,
      r.registryPassword, r.passwordAction, r.exposedPorts, r.env, ()))

end Converge
