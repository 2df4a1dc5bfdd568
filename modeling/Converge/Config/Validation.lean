import Converge.Config.Basic
import Converge.Failure
import Converge.Text.Blank
/-!
# The rules for a configuration

A configuration is checked rule by rule, in the order of its parts, and every broken rule is
reported with the place that breaks it.  `Report.errors` are rules; `Report.warnings` are things
worth a look that do not make the configuration wrong.
-/

namespace Converge

/-- A broken rule and the place that breaks it. -/
structure Violation where
  field : String
  message : String
  deriving DecidableEq, Repr, Inhabited

/-- The place and the rule. -/
def Violation.text (v : Violation) : String := v.field ++ ": " ++ v.message

/-- The outcome of a check. -/
structure Report where
  errors : List Violation
  warnings : List String
  deriving DecidableEq, Repr, Inhabited

namespace Report

/-- Whether no rule is broken. -/
def isValid (r : Report) : Bool := r.errors.isEmpty

end Report

namespace Validation

/-- The violation, if a condition holds. -/
def when (broken : Bool) (field message : String) : List Violation :=
  if broken then [⟨field, message⟩] else []

/-- A place such as `items[3]`. -/
def item (name : String) (i : Nat) : String := name ++ "[" ++ toString i ++ "]"

/-- Goes through a list with the position of each entry, and the keys of the entries before it.
An entry without a key leaves no key behind. -/
def eachWithKeys [BEq κ] (key : α → Option κ) (check : Nat → List κ → α → List β) :
    Nat → List κ → List α → List β
  | _, _, [] => []
  | i, seen, a :: rest =>
    check i seen a ++ eachWithKeys key check (i + 1) ((key a).toList ++ seen) rest

/-- A name, unless it is empty. -/
def nameKey (name : String) : Option String := if name.isEmpty then none else some name

/-! ## 1. Groups and load balancers -/

/-- The rules for a group: a name of its own, a zone, a class, and sizes in order. -/
def group (i : Nat) (seen : List String) (g : GroupConfig) : List Violation :=
  let at_ := item "autoScalingGroups" i
  (if g.name.isEmpty then [⟨at_, "name is required"⟩]
    else when (seen.contains g.name) at_ ("duplicate auto-scaling group name '" ++ g.name ++ "'"))
  ++ when g.zone.isEmpty (at_ ++ ".zone") "zone is required"
  ++ when g.workerServiceClassPath.isEmpty (at_ ++ ".workerServiceClassPath")
    "workerServiceClassPath is required"
  ++ when (g.minNodes < 0 || g.maxNodes < g.minNodes) (at_ ++ ".minNodes")
    ("minNodes (" ++ toString g.minNodes ++ ") must be between 0 and maxNodes ("
      ++ toString g.maxNodes ++ ")")

/-- The rules for all groups. -/
def groups (gs : List GroupConfig) : List Violation :=
  eachWithKeys (fun g => nameKey g.name) group 0 [] gs

/-- What tells a load balancer from the others: its owner and its name, unless that is empty. -/
def balancerKey (b : BalancerConfig) : Option (String × String) :=
  if b.name.isEmpty then none else some (b.groupName, b.name)

/-- The rules for a load balancer: a name of its own under its owner, an owner, and a class. -/
def balancer (i : Nat) (seen : List (String × String)) (b : BalancerConfig) : List Violation :=
  let at_ := item "loadBalancers" i
  (if b.name.isEmpty then [⟨at_, "name is required"⟩]
    else when (seen.contains (b.groupName, b.name)) at_
      ("duplicate load balancer name '" ++ b.name ++ "' in auto-scaling group '" ++ b.groupName
        ++ "'"))
  ++ when b.groupName.isEmpty (at_ ++ ".autoScalingGroupName") "autoScalingGroupName is required"
  ++ when b.serviceClassPath.isEmpty (at_ ++ ".serviceClassPath") "serviceClassPath is required"

/-- The rules for all load balancers. -/
def balancers (bs : List BalancerConfig) : List Violation :=
  eachWithKeys balancerKey balancer 0 [] bs

/-- A load balancer whose owner is named but not declared is worth a look. -/
def balancerWarnings (c : ClusterConfig) : List String :=
  c.balancers.flatMap fun b =>
    if b.groupName.isEmpty || (c.group? b.groupName).isSome then []
    else ["Load balancer '" ++ b.name ++ "' references auto-scaling group '" ++ b.groupName
      ++ "' which is not declared in this file"]

/-! ## 2. Applications -/

/-- Whether a number that may be missing lies outside two bounds. -/
def outside (lo hi : Int32) : Option Int32 → Bool
  | none => false
  | some n => n < lo || hi < n

/-- The rules that look at one field of a spec each. -/
def specFields (at_ : String) (s : ApplicationSpec) : List Violation :=
  when (s.cpu < 100 || 64000 < s.cpu) (at_ ++ ".cpu") "cpu must be between 100 and 64000"
  ++ when s.exposedPorts.isEmpty (at_ ++ ".exposedPorts") "at least one exposed port is required"
  ++ when s.image.isEmpty (at_ ++ ".image") "image is required"
  ++ when (s.memory < 128 || 131072 < s.memory) (at_ ++ ".memory")
    "memory must be between 128 and 131072"
  ++ when (outside 30 70 s.scaleInThreshold) (at_ ++ ".scaleInThreshold")
    "scaleInThreshold must be between 30 and 70"
  ++ when (outside 50 99 s.scaleOutThreshold) (at_ ++ ".scaleOutThreshold")
    "scaleOutThreshold must be between 50 and 99"

/-- Each scaling mode needs its own numbers. -/
def specScaling (at_ : String) (s : ApplicationSpec) : List Violation :=
  match s.scaling with
  | some .manual =>
    when s.fixedScale.isNone (at_ ++ ".fixedScale")
      "fixedScale is required when scalingMode is 'manual'"
  | some .cpu =>
    when (s.minScale.isNone || s.maxScale.isNone) (at_ ++ ".minScale")
      "minScale and maxScale are required when scalingMode is 'cpu'"
    ++ match s.minScale, s.maxScale with
      | some min, some max =>
        when (max < min) (at_ ++ ".minScale")
          ("minScale (" ++ toString min ++ ") must not exceed maxScale (" ++ toString max ++ ")")
      | _, _ => []
  | none => [⟨at_ ++ ".scalingMode", "scalingMode must be 'manual' or 'cpu'"⟩]

/-- The rules for a port: a number that a port can have, and one of its own. -/
def port (at_ : String) (j : Nat) (seen : List Int32) (p : ExposedPort) : List Violation :=
  let field := at_ ++ "." ++ item "exposedPorts" j ++ ".targetPort"
  when (p.targetPort < 1 || 65535 < p.targetPort) field
    ("targetPort " ++ toString p.targetPort ++ " is out of range")
  ++ when (seen.contains p.targetPort) field ("duplicate targetPort " ++ toString p.targetPort)

/-- The rules for an environment variable: a name, and a version where it is secret. -/
def envEntry (at_ : String) (j : Nat) (e : EnvEntry) : List Violation :=
  let field := at_ ++ "." ++ item "env" j
  when e.key.isEmpty field "key is required"
  ++ when (e.secret && e.secretVersion.isNone) field
    ("secretVersion is required when secret is true (key: " ++ e.key ++ ")")

/-- The rules for a spec. -/
def spec (at_ : String) (s : ApplicationSpec) : List Violation :=
  specFields at_ s
  ++ specScaling at_ s
  ++ when (s.registryPassword.isSome && s.registryPasswordVersion.isNone)
    (at_ ++ ".registryPasswordVersion")
    "registryPasswordVersion is required when registryPassword is set"
  ++ eachWithKeys (fun p => some p.targetPort) (port at_) 0 [] s.exposedPorts
  ++ (s.env.zipIdx.flatMap fun (e, j) => envEntry at_ j e)

/-- The rules for an application: a name of its own, and those for its spec. -/
def application (i : Nat) (seen : List String) (a : ApplicationConfig) : List Violation :=
  let at_ := item "applications" i
  (if a.name.isEmpty then [⟨at_, "name is required"⟩]
    else when (seen.contains a.name) at_ ("duplicate application name '" ++ a.name ++ "'"))
  ++ spec (at_ ++ ".spec") a.spec

/-- The rules for all applications. -/
def applications (as : List ApplicationConfig) : List Violation :=
  eachWithKeys (fun a => nameKey a.name) application 0 [] as

/-- A configuration without applications is worth a look, and so is an image tag that moves. -/
def applicationWarnings (latestTag : Bool) (as : List ApplicationConfig) : List String :=
  (if as.isEmpty then ["No applications defined"] else [])
  ++ as.flatMap fun a =>
    if latestTag && a.spec.image.endsWith ":latest" then
      ["Application '" ++ a.name
        ++ "' uses a ':latest' image tag; image changes are not tracked after creation"]
    else []

/-! ## 3. The whole configuration -/

/-- Every broken rule, in the order of the parts. -/
def errors (c : ClusterConfig) : List Violation :=
  when (trimBlank c.clusterName).isEmpty "clusterName" "clusterName is required"
  ++ (match c.cluster with
    | some settings =>
      when (trimBlank settings.servicePrincipalId).isEmpty "cluster.servicePrincipalId"
        "servicePrincipalId is required when cluster settings are given"
    | none => [])
  ++ groups c.groups
  ++ balancers c.balancers
  ++ applications c.applications

/-- Everything worth a look, in the order of the parts. -/
def warnings (latestTag : Bool) (c : ClusterConfig) : List String :=
  balancerWarnings c ++ applicationWarnings latestTag c.applications

end Validation

/-- Checks every rule; `latestTag` says whether moving image tags are worth a look. -/
def ClusterConfig.check (c : ClusterConfig) (latestTag : Bool) : Report :=
  ⟨Validation.errors c, Validation.warnings latestTag c⟩

/-- The failure that the first broken rule is. -/
def Report.failure? (r : Report) : Option Failure :=
  r.errors.head?.map fun v => .invalid v.message v.field

/-- The report of a configuration that breaks no rule, or its first violation. -/
def ClusterConfig.validate (c : ClusterConfig) (latestTag : Bool) : Except Failure Report :=
  let report := c.check latestTag
  match report.failure? with
  | some f => .error f
  | none => .ok report

end Converge
