import Converge.Cluster.Resource
import Converge.Failure
/-!
# Comparing specs and versions

A desired spec and a live version are brought to one normal form -- ports in the order of their
numbers, host names sorted and joined, the command on one line -- and compared field by field.
Each difference is one line of text.  Secrets are no part of the normal form: they cannot be seen
on the live side.
-/

namespace Converge

/-- A port in normal form. -/
structure NormalPort where
  targetPort : Int32
  loadBalancerPort : Option Int32
  useLetsEncrypt : Bool
  /-- Sorted host names with commas between them. -/
  hosts : String
  /-- Empty without a health check. -/
  healthCheckPath : String
  /-- Zero without a health check. -/
  healthCheckInterval : Int32
  healthCheckTimeout : Int32
  deriving DecidableEq, Repr, Inhabited

/-- A spec or version in normal form. -/
structure NormalSpec where
  cpu : Int64
  memory : Int64
  scalingMode : String
  fixedScale : Option Int32
  minScale : Option Int32
  maxScale : Option Int32
  scaleInThreshold : Option Int32
  scaleOutThreshold : Option Int32
  image : String
  /-- The words of the command with a space between them. -/
  cmd : String
  /-- Empty without a registry user. -/
  registryUsername : String
  /-- In the order of the target ports. -/
  exposedPorts : List NormalPort
  deriving DecidableEq, Repr, Inhabited

/-- Names in order. -/
def sortedNames (names : List String) : List String :=
  names.mergeSort fun a b => decide (a ≤ b)

/-- The normal form of a port. -/
def ExposedPort.normal (p : ExposedPort) : NormalPort where
  targetPort := p.targetPort
  loadBalancerPort := p.loadBalancerPort
  useLetsEncrypt := p.useLetsEncrypt
  hosts := ",".intercalate (sortedNames p.host)
  healthCheckPath := (p.healthCheck.map (·.path)).getD ""
  healthCheckInterval := (p.healthCheck.map (·.intervalSeconds)).getD 0
  healthCheckTimeout := (p.healthCheck.map (·.timeoutSeconds)).getD 0

/-- Ports in the order of their numbers; equal numbers keep their order. -/
def normalPorts (ports : List ExposedPort) : List NormalPort :=
  (ports.map ExposedPort.normal).mergeSort fun a b => decide (a.targetPort ≤ b.targetPort)

/-- The normal form of a desired spec. -/
def ApplicationSpec.normal (s : ApplicationSpec) : NormalSpec where
  cpu := s.cpu
  memory := s.memory
  scalingMode := s.scalingMode
  fixedScale := s.fixedScale
  minScale := s.minScale
  maxScale := s.maxScale
  scaleInThreshold := s.scaleInThreshold
  scaleOutThreshold := s.scaleOutThreshold
  image := s.image
  cmd := " ".intercalate s.cmd
  registryUsername := s.registryUsername.getD ""
  exposedPorts := normalPorts s.exposedPorts

/-- The normal form of a live version. -/
def ApplicationVersion.normal (v : ApplicationVersion) : NormalSpec where
  cpu := v.cpu
  memory := v.memory
  scalingMode := v.scalingMode
  fixedScale := v.fixedScale
  minScale := v.minScale
  maxScale := v.maxScale
  scaleInThreshold := v.scaleInThreshold
  scaleOutThreshold := v.scaleOutThreshold
  image := v.image
  cmd := " ".intercalate v.cmd
  registryUsername := v.registryUsername.getD ""
  exposedPorts := normalPorts v.exposedPorts

/-! ## 1. Lines of change -/

namespace Change

/-- How a missing value is shown. -/
def unset : String := "(unset)"

/-- A value that may be missing. -/
def shown [ToString α] (value : Option α) : String :=
  match value with
  | none => unset
  | some a => toString a

/-- Text; quotes stand for an empty one. -/
def shownText (s : String) : String := if s.isEmpty then "\"\"" else s

/-- One line with both sides. -/
def line (field before after : String) : String := field ++ ": " ++ before ++ " -> " ++ after

/-- The line for a value that differs. -/
def scalar [DecidableEq α] [ToString α] (field : String) (before after : α) : List String :=
  if before = after then [] else [line field (toString before) (toString after)]

/-- The line for a text that differs. -/
def text (field before after : String) : List String :=
  if before = after then [] else [line field (shownText before) (shownText after)]

/-- The line for a value that differs and may be missing. -/
def optional [DecidableEq α] [ToString α] (field : String) (before after : Option α) :
    List String :=
  if before = after then [] else [line field (shown before) (shown after)]

end Change

/-! ## 2. Comparing normal forms -/

namespace NormalSpec

/-- The lines for the numbers that belong to the scaling mode of the new side. -/
def scaleChanges (before after : NormalSpec) : List String :=
  match ScalingMode.ofWord? after.scalingMode with
  | some .manual => Change.optional "FixedScale" before.fixedScale after.fixedScale
  | some .cpu =>
    Change.optional "MinScale" before.minScale after.minScale
    ++ Change.optional "MaxScale" before.maxScale after.maxScale
    ++ Change.optional "ScaleInThreshold" before.scaleInThreshold after.scaleInThreshold
    ++ Change.optional "ScaleOutThreshold" before.scaleOutThreshold after.scaleOutThreshold
  | none => []

/-- The lines for the fields other than the ports. -/
def fieldChanges (skipImage : Bool) (before after : NormalSpec) : List String :=
  Change.scalar "CPU" before.cpu after.cpu
  ++ Change.scalar "Memory" before.memory after.memory
  ++ Change.text "ScalingMode" before.scalingMode after.scalingMode
  ++ scaleChanges before after
  ++ (if skipImage then [] else Change.text "Image" before.image after.image)
  ++ Change.text "Cmd" before.cmd after.cmd
  ++ Change.text "RegistryUsername" before.registryUsername after.registryUsername

/-- The lines for a port that is on both sides. -/
def portChanges (before after : NormalPort) : List String :=
  let field := fun (name : String) => "ExposedPorts[" ++ toString after.targetPort ++ "]." ++ name
  Change.optional (field "LoadBalancerPort") before.loadBalancerPort after.loadBalancerPort
  ++ Change.scalar (field "UseLetsEncrypt") before.useLetsEncrypt after.useLetsEncrypt
  ++ Change.text (field "Hosts") before.hosts after.hosts
  ++ Change.text (field "HealthCheckPath") before.healthCheckPath after.healthCheckPath
  ++ Change.scalar (field "HealthCheckInterval") before.healthCheckInterval
    after.healthCheckInterval
  ++ Change.scalar (field "HealthCheckTimeout") before.healthCheckTimeout after.healthCheckTimeout

/-- The port with a number. -/
def port? (s : NormalSpec) (target : Int32) : Option NormalPort :=
  s.exposedPorts.find? (·.targetPort = target)

/-- The lines for ports: those of the new side in order, then those that are gone. -/
def allPortChanges (before after : NormalSpec) : List String :=
  (after.exposedPorts.flatMap fun p =>
    match before.port? p.targetPort with
    | none => ["ExposedPort add: " ++ toString p.targetPort]
    | some old => portChanges old p)
  ++ before.exposedPorts.flatMap fun p =>
    if (after.port? p.targetPort).isSome then []
    else ["ExposedPort remove: " ++ toString p.targetPort]

/-- The first number that stands in a list for the second time. -/
def firstRepeated [DecidableEq α] : List α → List α → Option α
  | _, [] => none
  | seen, a :: rest => if a ∈ seen then some a else firstRepeated (a :: seen) rest

/-- The number of a port that is listed twice. -/
def repeatedPort (s : NormalSpec) : Option Int32 :=
  firstRepeated [] (s.exposedPorts.map (·.targetPort))

/-- The failure for a side that lists a port twice. -/
def refusal (side : String) (s : NormalSpec) : Option Failure :=
  s.repeatedPort.map fun target =>
    .plan ⟨side ++ " spec", "duplicate target port " ++ toString target⟩

/-- Every difference, in the order of the fields.  A side that lists a port twice cannot be
compared. -/
def compare (before after : NormalSpec) (skipImage : Bool) : Except Failure (List String) :=
  match before.refusal "current", after.refusal "desired" with
  | some f, _ => .error f
  | none, some f => .error f
  | none, none => .ok (fieldChanges skipImage before after ++ allPortChanges before after)

/-! ## 3. Describing what is created -/

/-- The lines for the numbers that belong to the scaling mode. -/
def scaleLines (s : NormalSpec) : List String :=
  match ScalingMode.ofWord? s.scalingMode with
  | some .manual => ["FixedScale: " ++ Change.shown s.fixedScale]
  | some .cpu =>
    ["MinScale: " ++ Change.shown s.minScale ++ ", MaxScale: " ++ Change.shown s.maxScale]
    ++ (if s.scaleInThreshold.isSome || s.scaleOutThreshold.isSome then
        ["ScaleInThreshold: " ++ Change.shown s.scaleInThreshold ++ ", ScaleOutThreshold: "
          ++ Change.shown s.scaleOutThreshold]
      else [])
  | none => []

/-- A spec in lines, as the changes of an application that is created. -/
def describe (s : NormalSpec) : List String :=
  ["CPU: " ++ toString s.cpu, "Memory: " ++ toString s.memory, "ScalingMode: " ++ s.scalingMode]
  ++ s.scaleLines
  ++ ["Image: " ++ s.image]
  ++ (if s.cmd.isEmpty then [] else ["Cmd: " ++ s.cmd])
  ++ (if s.registryUsername.isEmpty then [] else ["RegistryUsername: " ++ s.registryUsername])
  ++ (if s.exposedPorts.isEmpty then []
    else ["ExposedPorts: "
      ++ ", ".intercalate (s.exposedPorts.map fun p => toString p.targetPort)])

end NormalSpec

/-! ## 4. Written form -/

def NormalPort.codec : Codec NormalPort :=
  .record "NormalPort"
    (.and (.required "targetPort" .int32) <|
     .and (.orNull "loadBalancerPort" .int32) <|
     .and (.required "useLetsEncrypt" .bool) <|
     .and (.required "hosts" .text) <|
     .and (.required "healthCheckPath" .text) <|
     .and (.required "healthCheckInterval" .int32) <|
     .and (.required "healthCheckTimeout" .int32) .none)
    (fun (target, port, tls, hosts, path, interval, timeout, ()) =>
      ⟨target, port, tls, hosts, path, interval, timeout⟩)
    (fun p => (p.targetPort, p.loadBalancerPort, p.useLetsEncrypt, p.hosts, p.healthCheckPath,
      p.healthCheckInterval, p.healthCheckTimeout, ()))

def NormalSpec.codec : Codec NormalSpec :=
  .record "NormalSpec"
    (.and (.required "cpu" .int64) <|
     .and (.required "memory" .int64) <|
     .and (.required "scalingMode" .text) <|
     .and (.orNull "fixedScale" .int32) <|
     .and (.orNull "minScale" .int32) <|
     .and (.orNull "maxScale" .int32) <|
     .and (.orNull "scaleInThreshold" .int32) <|
     .and (.orNull "scaleOutThreshold" .int32) <|
     .and (.required "image" .text) <|
     .and (.required "cmd" .text) <|
     .and (.required "registryUsername" .text) <|
     .and (.required "exposedPorts" NormalPort.codec.list) .none)
    (fun (cpu, memory, mode, fixed, min, max, inAt, outAt, image, cmd, user, ports, ()) =>
      ⟨cpu, memory, mode, fixed, min, max, inAt, outAt, image, cmd, user, ports⟩)
    (fun s => (s.cpu, s.memory, s.scalingMode, s.fixedScale, s.minScale, s.maxScale,
      s.scaleInThreshold, s.scaleOutThreshold, s.image, s.cmd, s.registryUsername,
      s.exposedPorts, ()))

end Converge
