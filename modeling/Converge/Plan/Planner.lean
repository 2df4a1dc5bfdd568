import Converge.Plan.Basic
import Converge.Plan.Diff
/-!
# Making a plan

A plan joins the configuration with the live cluster.  Configured resources come first, in the
order of the configuration, and then what lives without being configured; that is left alone,
except that a load balancer goes with its group when the group is recreated.

Planning only reads.  It fails for one reason: an application whose live version or spec lists a
port twice cannot be compared.
-/

namespace Converge

/-- Said of infrastructure that lives but is not configured. -/
def orphanNote : String := "not in YAML, skipping"

/-- Said of a live application without versions. -/
def initialVersionNote : String := "Create initial version (no versions exist)"

namespace Planner

/-! ## 1. Infrastructure -/

/-- The action for the settings of the cluster. -/
def clusterAction (desired : ClusterConfig) (live : LiveState) : ClusterAction :=
  match desired.cluster with
  | none => .noop
  | some settings =>
    let changes := Diff.cluster live.detail settings
    if changes.isEmpty then .noop else ⟨.update, changes⟩

/-- The action for a configured group. -/
def groupAction (live : LiveState) (wanted : GroupConfig) : GroupAction :=
  match live.group? wanted.name with
  | none => ⟨wanted.name, .create, none, Diff.describeGroup wanted⟩
  | some current =>
    let changes := Diff.group current wanted
    ⟨wanted.name, if changes.isEmpty then .noop else .recreate, some current.id, changes⟩

/-- The actions for groups: the configured ones, then the others. -/
def groupActions (desired : ClusterConfig) (live : LiveState) : List GroupAction :=
  desired.groups.map (groupAction live)
  ++ (live.groups.filter fun g => (desired.group? g.name).isNone).map fun g =>
    ⟨g.name, .skip, some g.id, [orphanNote]⟩

/-- Whether a group is deleted and created again. -/
def recreated (actions : List GroupAction) (name : String) : Bool :=
  actions.any fun a => a.action = .recreate && a.name = name

/-- The action for a configured load balancer: it goes with its group, even without changes of
its own. -/
def balancerAction (live : LiveState) (groups : List GroupAction) (wanted : BalancerConfig) :
    BalancerAction :=
  let owner := wanted.groupName
  match live.group? owner with
  | none => ⟨wanted.name, owner, .create, none, none, Diff.describeBalancer wanted⟩
  | some group =>
    match live.balancer? owner wanted.name with
    | none => ⟨wanted.name, owner, .create, some group.id, none, Diff.describeBalancer wanted⟩
    | some current =>
      let own := Diff.balancer current wanted
      let changes :=
        if own.isEmpty && recreated groups owner then
          ["AutoScalingGroup " ++ owner ++ " is recreated"]
        else own
      ⟨wanted.name, owner, if changes.isEmpty then .noop else .recreate, some group.id,
        some current.id, changes⟩

/-- The live load balancers that are not configured, each with its owner. -/
def orphanBalancers (desired : ClusterConfig) (live : LiveState) : List (String × Balancer) :=
  live.balancers.entries.flatMap fun (owner, bs) =>
    (bs.filter fun b => (desired.balancer? owner b.name).isNone).map fun b => (owner, b)

/-- The warning for a load balancer that is not configured while its owner is recreated. -/
def lossWarning (groups : List GroupAction) (orphan : String × Balancer) : List String :=
  if recreated groups orphan.1 then
    ["AutoScalingGroup " ++ orphan.1 ++ " is recreated; unlisted load balancer "
      ++ orphan.2.name ++ " will be lost"]
  else []

/-- The action for a load balancer that is not configured. -/
def orphanAction (live : LiveState) (groups : List GroupAction) (orphan : String × Balancer) :
    BalancerAction :=
  ⟨orphan.2.name, orphan.1, .skip, (live.group? orphan.1).map (·.id), some orphan.2.id,
    orphanNote :: lossWarning groups orphan⟩

/-- The actions for load balancers: the configured ones, then the others by owner. -/
def balancerActions (desired : ClusterConfig) (live : LiveState) (groups : List GroupAction) :
    List BalancerAction :=
  desired.balancers.map (balancerAction live groups)
  ++ (orphanBalancers desired live).map (orphanAction live groups)

/-- The warnings for load balancers that will be lost. -/
def lossWarnings (desired : ClusterConfig) (live : LiveState) (groups : List GroupAction) :
    List String :=
  (orphanBalancers desired live).flatMap (lossWarning groups)

/-! ## 2. Applications -/

/-- The action for a configured application. -/
def applicationAction (live : LiveState) (ledger : SecretLedger) (wanted : ApplicationConfig) :
    Except Failure ApplicationAction :=
  match live.application? wanted.name with
  | none => .ok ⟨wanted.name, .create, none, Diff.describeApplication wanted.name wanted.spec ledger⟩
  | some current =>
    let id := current.application.id
    match current.latestVersion with
    | none => .ok ⟨wanted.name, .update, some id, [initialVersionNote]⟩
    | some latest =>
      match Diff.application wanted.name latest wanted.spec ledger with
      | .error (.plan e) => .error (.plan { e with resource := wanted.name })
      | .error f => .error f
      | .ok changes =>
        .ok ⟨wanted.name, if changes.isEmpty then .noop else .update, some id, changes⟩

/-- The actions for applications, or the first failure. -/
def applicationActions (desired : ClusterConfig) (live : LiveState) (ledger : SecretLedger) :
    Except Failure (List ApplicationAction) :=
  desired.applications.mapM (applicationAction live ledger)

/-- The names of live applications that are not configured. -/
def orphanApplications (desired : ClusterConfig) (live : LiveState) : List String :=
  (live.applications.map (·.application.name)).filter fun name =>
    (desired.application? name).isNone

/-- The warning for an application that is not configured. -/
def orphanWarning (name : String) : String :=
  "application \"" ++ name ++ "\" exists in the cluster but is not in YAML"

end Planner

open Planner

/-- The plan that leads from the live cluster to the desired one. -/
def plan (desired : ClusterConfig) (live : LiveState) (ledger : SecretLedger)
    (now : Timestamp) : Except Failure Plan :=
  let groups := groupActions desired live
  match applicationActions desired live ledger with
  | .error f => .error f
  | .ok applications =>
    .ok {
      cluster := live.cluster
      clusterAction := clusterAction desired live
      groupActions := groups
      balancerActions := balancerActions desired live groups
      applicationActions := applications
      warnings := lossWarnings desired live groups
        ++ (orphanApplications desired live).map orphanWarning
      createdAt := now }

namespace Planner

/-! ## 3. What the log says -/

/-- What is said about the password of a live application, when its version is looked at. -/
def applicationNotices (live : LiveState) (ledger : SecretLedger) (wanted : ApplicationConfig) :
    List String :=
  match live.application? wanted.name with
  | none => Diff.passwordNotice wanted.name wanted.spec.registryPasswordVersion ledger
  | some current =>
    match current.latestVersion with
    | none => []
    | some latest =>
      match Diff.application wanted.name latest wanted.spec ledger with
      | .error _ => []
      | .ok _ => Diff.passwordNotice wanted.name wanted.spec.registryPasswordVersion ledger

/-- The configured applications up to the first that cannot be compared, and whether there is
one. -/
def comparable (live : LiveState) (ledger : SecretLedger) :
    List ApplicationConfig → List ApplicationConfig × Bool
  | [] => ([], true)
  | wanted :: rest =>
    match applicationAction live ledger wanted with
    | .error _ => ([], false)
    | .ok _ =>
      let (others, all) := comparable live ledger rest
      (wanted :: others, all)

/-- The warnings that the log gets while the plan is made. -/
def notices (desired : ClusterConfig) (live : LiveState) (ledger : SecretLedger) :
    List String :=
  let (compared, all) := comparable live ledger desired.applications
  lossWarnings desired live (groupActions desired live)
  ++ compared.flatMap (applicationNotices live ledger)
  ++ (if all then (orphanApplications desired live).map fun name =>
      "Application " ++ name ++ " exists in the cluster but not in the configuration"
    else [])

end Planner

end Converge
