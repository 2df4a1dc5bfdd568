import Converge.Apply.Deletion
import Converge.Apply.Result
import Converge.Apply.Script
import Converge.Cluster.Observe
import Converge.Ledger.Recording
/-!
# Applying a plan

The steps of a plan are taken one after the other until one fails.  What was done up to then is
kept: the report, the identifiers of the groups that were created, and the ledger, which is
changed right after each write that it describes.  At the end, failure or not, the ledger is
saved once if it changed.
-/

namespace Converge

/-- How a plan is applied. -/
structure ApplyOptions where
  poll : PollSettings
  /-- Whether every new version is activated. -/
  activate : Bool
  /-- The limit on the rounds of each loop. -/
  limit : Nat
  deriving DecidableEq, Repr, Inhabited

/-- What the steps of an apply depend on. -/
structure ApplyContext extends ApplyOptions where
  desired : ClusterConfig
  cluster : ClusterIdentity

/-- What an apply has done so far. -/
structure Progress where
  result : ExecutionResult
  ledger : SecretLedger
  /-- Groups that were created, the latest first. -/
  created : List (String × Uuid)
  deriving DecidableEq, Repr, Inhabited

/-- A part of an apply: what it has done stays when it fails. -/
abbrev Execution := ExceptT Failure (StateT Progress (Program Session.interface))

namespace Execution

/-- An operation on the cluster. -/
def session (s : Session α) : Execution α := ExceptT.mk (StateT.lift s.run)

/-- Notes what has been done. -/
def note (change : Progress → Progress) : Execution Unit := modify change

/-- Adds to the report. -/
def report (change : ExecutionResult → ExecutionResult) : Execution Unit :=
  note fun p => { p with result := change p.result }

/-- Something that has to be there for a step. -/
def need (a : Option α) (missing : ApplyError) : Execution α :=
  match a with
  | some a => pure a
  | none => throw (.apply missing)

/-- Says in which stage and for which resource a step failed. -/
def inStage (stage : Stage) (resource : String) (e : Execution α) : Execution α :=
  ExceptT.mk do
    match ← e.run with
    | .ok a => pure (.ok a)
    | .error f => pure (.error (.stage stage resource f))

end Execution

open Execution

namespace ApplyContext

variable (c : ApplyContext)

/-- Gives the cluster its configured settings. -/
def updateSettings : Execution Unit := do
  let settings ← need c.desired.cluster (.missingConfig "cluster settings" c.cluster.name)
  session do
    Session.info ("Updating cluster settings: " ++ c.cluster.id.text)
    Session.call (.updateCluster c.cluster.id settings.request)
  report fun r => { r with clusterUpdated := true }

/-- Said of an identifier that a plan lacks. -/
def noIdentifier : String := "no live identifier in plan"

/-- Deletes a load balancer. -/
def deleteBalancer (a : BalancerAction) : Execution Unit := do
  let missing := ApplyError.missingIdentifier "delete" "load balancer" a.label noIdentifier
  let owner ← need a.groupId missing
  let id ← need a.existingId missing
  session (Deletion.balancer c.limit c.poll c.cluster.id owner a.name id)
  report fun r => { r with deletedBalancers := r.deletedBalancers ++ [a.label] }

/-- Deletes a group. -/
def deleteGroup (a : GroupAction) : Execution Unit := do
  let id ← need a.existingId
    (.missingIdentifier "delete" "auto-scaling group" a.name noIdentifier)
  session (Deletion.group c.limit c.poll c.cluster.id a.name id)
  report fun r => { r with deletedGroups := r.deletedGroups ++ [a.name] }

/-- Creates a group and remembers its identifier. -/
def createGroup (a : GroupAction) : Execution Unit := do
  let config ← need (c.desired.group? a.name) (.missingConfig "auto-scaling group" a.name)
  let id ← session do
    Session.info ("Creating auto-scaling group: " ++ config.name)
    let id ← Session.call (.createGroup c.cluster.id config.request)
    Session.info ("Created auto-scaling group " ++ config.name ++ " (" ++ id.text ++ ")")
    pure id
  note fun p =>
    { p with
      created := (a.name, id) :: p.created
      result := { p.result with createdGroups := p.result.createdGroups ++ [a.name] } }

/-- The identifier of a load balancer's owner: one created in this apply comes before the one in
the plan, because a group that was recreated has a new identifier; an owner that is in neither is
looked up by its name. -/
def owner (a : BalancerAction) : Execution Uuid := do
  match (← get).created.lookup a.groupName with
  | some id => pure id
  | none =>
    match a.groupId with
    | some id => pure id
    | none =>
      let groups ← session do
        Session.debug ("Looking up auto-scaling group " ++ a.groupName ++ " for load balancer "
          ++ a.name)
        Observe.listGroups c.limit c.cluster.id
      need ((groups.find? (·.name = a.groupName)).map (·.id))
        (.missingIdentifier "create" "load balancer" a.name
          ("auto-scaling group " ++ a.groupName ++ " does not exist"))

/-- Creates a load balancer. -/
def createBalancer (a : BalancerAction) : Execution Unit := do
  let config ← need (c.desired.balancer? a.groupName a.name)
    (.missingConfig "load balancer" a.label)
  let owner ← c.owner a
  session do
    Session.info ("Creating load balancer: " ++ config.name ++ " (auto-scaling group "
      ++ config.groupName ++ ")")
    let id ← Session.call (.createBalancer c.cluster.id owner config.request)
    Session.info ("Created load balancer " ++ config.name ++ " (" ++ id.text ++ ")")
  report fun r => { r with createdBalancers := r.createdBalancers ++ [a.label] }

/-- The identifier of an application and the version that a new one is laid over; the
application is created if that is what the plan says. -/
def target (a : ApplicationAction) : Execution (Uuid × Option ApplicationVersion) := do
  if a.action = .create then
    let id ← session do
      Session.info ("Creating application: " ++ a.name)
      Session.call (.createApplication ⟨a.name, c.cluster.id⟩)
    report fun r => { r with createdApplications := r.createdApplications ++ [a.name] }
    pure (id, none)
  else
    let id ← need a.applicationId
      (.missingIdentifier "update" "application" a.name noIdentifier)
    let base ← session (Observe.latestVersion c.limit id)
    pure (id, base)

/-- Notes the secret versions that were sent with a version. -/
def recordVersions (name : String) (spec : ApplicationSpec) : Execution Unit :=
  note fun p =>
    let (ledger, changed) := p.ledger.record name spec
    { p with
      ledger := ledger
      result := { p.result with ledgerModified := p.result.ledgerModified || changed } }

/-- Activates a version. -/
def activateVersion (application : Uuid) (name : String) (version : Int32) : Session Unit := do
  Session.info ("Activating version " ++ toString version ++ " of application " ++ name)
  Session.call (.updateApplication application ⟨some version⟩)

/-- Writes a version of an application, creating the application before and activating the
version afterwards where that is asked for. -/
def application (a : ApplicationAction) : Execution Unit := do
  let config ← need (c.desired.application? a.name) (.missingConfig "application" a.name)
  let (id, base) ← c.target a
  let version ← session do
    let version ← Session.call (.createVersion id (config.spec.request base))
    Session.info ("Created version " ++ toString version ++ " of application " ++ a.name)
    pure version
  recordVersions a.name config.spec
  if c.activate then session (activateVersion id a.name version)
  report fun r => { r with versions := r.versions ++ [⟨a.name, version, c.activate⟩] }

/-- What a step does. -/
def act : ApplyStep → Execution Unit
  | .updateSettings => c.updateSettings
  | .deleteBalancer a => c.deleteBalancer a
  | .deleteGroup a => c.deleteGroup a
  | .createGroup a => c.createGroup a
  | .createBalancer a => c.createBalancer a
  | .application a => c.application a

/-- Takes a step; a failure is that of its stage. -/
def take (s : ApplyStep) : Execution Unit :=
  inStage s.stage (s.resource c.cluster.name) (c.act s)

/-- Takes steps until one fails. -/
def takeAll : List ApplyStep → Execution Unit
  | [] => pure ()
  | s :: rest => do
    c.take s
    takeAll rest

end ApplyContext

/-- Saves the ledger if it changed, and says how that went. -/
def saveChanged (p : Progress) : Session (Except Failure Unit) :=
  if p.result.ledgerModified then do
    let location ← Session.ask .ledgerLocation
    Session.debug ("Saving ledger to " ++ location)
    Session.outcome (Session.saveLedger p.ledger)
  else pure (.ok ())

/-- Applies a plan.  The failure of a step comes before that of saving the ledger. -/
def execute (options : ApplyOptions) (desired : ClusterConfig) (plan : Plan)
    (ledger : SecretLedger) : Session ExecutionResult := do
  let c : ApplyContext := ⟨options, desired, plan.cluster⟩
  Session.info ("Applying plan for cluster " ++ plan.cluster.name ++ " ("
    ++ toString plan.changeCount ++ " changes)")
  let (outcome, progress) ←
    ExceptT.lift ((c.takeAll plan.script).run.run ⟨.nothing, ledger, []⟩)
  match outcome with
  | .ok () =>
    match ← saveChanged progress with
    | .ok () =>
      Session.info "Apply complete"
      pure progress.result
    | .error f => throw f
  | .error f =>
    Session.error ("Apply stopped: " ++ f.message)
    match ← saveChanged progress with
    | .ok () => throw f
    | .error saving =>
      Session.error ("Failed to save ledger after apply failure: " ++ saving.message)
      throw f

end Converge
