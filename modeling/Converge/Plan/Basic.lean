import Converge.Cluster.Live
import Converge.Timestamp
/-!
# Plans

A plan says what applying a configuration would do to each resource: one action for the settings
of the cluster, one for each group, load balancer and application, and the warnings that came up
while it was made.  `Plan.text` is the plan as it is shown.
-/

namespace Converge

/-- What happens to a resource. -/
inductive ActionType where
  | create
  /-- It gets new settings or a new version in place. -/
  | update
  /-- It is deleted and created again. -/
  | recreate
  /-- It is as desired. -/
  | noop
  /-- It lives but is not configured. -/
  | skip
  | delete
  deriving DecidableEq, Repr, Inhabited

namespace ActionType

/-- All actions. -/
def all : List ActionType := [.create, .update, .recreate, .noop, .skip, .delete]

/-- Whether the action changes the cluster. -/
def isChange : ActionType → Bool
  | .create | .update | .recreate | .delete => true
  | .noop | .skip => false

/-- Whether the live resource goes away. -/
def deletes : ActionType → Bool
  | .recreate | .delete => true
  | _ => false

/-- Whether a resource comes into being. -/
def creates : ActionType → Bool
  | .create | .recreate => true
  | _ => false

/-- The sign in front of an entry of a plan. -/
def symbol : ActionType → String
  | .create => "+"
  | .update => "~"
  | .recreate => "-/+"
  | .noop => " "
  | .skip => "?"
  | .delete => "-"

/-- The word for an action. -/
def word : ActionType → String
  | .create => "create"
  | .update => "update"
  | .recreate => "recreate"
  | .noop => "noop"
  | .skip => "skip"
  | .delete => "delete"

end ActionType

/-- What happens to the settings of the cluster. -/
structure ClusterAction where
  action : ActionType
  changes : List String
  deriving DecidableEq, Repr, Inhabited

/-- The settings are as desired. -/
def ClusterAction.noop : ClusterAction := ⟨.noop, []⟩

/-- What happens to a group. -/
structure GroupAction where
  name : String
  action : ActionType
  /-- The identifier of the live group. -/
  existingId : Option Uuid
  changes : List String
  deriving DecidableEq, Repr, Inhabited

/-- What happens to a load balancer. -/
structure BalancerAction where
  name : String
  groupName : String
  action : ActionType
  /-- The identifier of the live owner. -/
  groupId : Option Uuid
  /-- The identifier of the live load balancer. -/
  existingId : Option Uuid
  changes : List String
  deriving DecidableEq, Repr, Inhabited

/-- What happens to an application. -/
structure ApplicationAction where
  name : String
  action : ActionType
  /-- The identifier of the live application. -/
  applicationId : Option Uuid
  changes : List String
  deriving DecidableEq, Repr, Inhabited

/-- What applying a configuration would do to a cluster. -/
structure Plan where
  cluster : ClusterIdentity
  clusterAction : ClusterAction
  groupActions : List GroupAction
  balancerActions : List BalancerAction
  applicationActions : List ApplicationAction
  warnings : List String
  createdAt : Timestamp
  deriving DecidableEq, Repr, Inhabited

/-- The owner and the name of a load balancer. -/
def balancerLabel (owner name : String) : String := owner ++ "/" ++ name

/-- The owner and the name. -/
def BalancerAction.label (b : BalancerAction) : String := balancerLabel b.groupName b.name

namespace Plan

/-- Every action of the plan. -/
def actions (p : Plan) : List ActionType :=
  p.clusterAction.action :: (p.groupActions.map (·.action) ++ p.balancerActions.map (·.action)
    ++ p.applicationActions.map (·.action))

/-- Whether applying the plan would change anything. -/
def hasChanges (p : Plan) : Bool := p.actions.any ActionType.isChange

/-- How many actions are of a kind. -/
def count (p : Plan) (action : ActionType) : Nat := p.actions.countP (· = action)

/-- How many actions change something. -/
def changeCount (p : Plan) : Nat := p.actions.countP ActionType.isChange

/-- The first action for a group. -/
def groupAction? (p : Plan) (name : String) : Option GroupAction :=
  p.groupActions.find? (·.name = name)

/-- The first action for an application. -/
def applicationAction? (p : Plan) (name : String) : Option ApplicationAction :=
  p.applicationActions.find? (·.name = name)

/-! ## 1. Text -/

/-- An entry of a plan: the action on one line, its changes below it. -/
def entryText (action : ActionType) (label : String) (changes : List String) : String :=
  "  " ++ action.symbol ++ " " ++ label ++ " (" ++ action.word ++ ")\n"
  ++ (if action = .noop then "" else String.join (changes.map fun c => "      " ++ c ++ "\n"))

/-- The plan as it is shown. -/
def text (p : Plan) : String :=
  "Plan for cluster " ++ p.cluster.name ++ " (" ++ toString p.changeCount ++ " changes):\n"
  ++ (if p.clusterAction.action = .noop then ""
    else entryText p.clusterAction.action "cluster settings" p.clusterAction.changes)
  ++ String.join (p.groupActions.map fun a =>
    entryText a.action ("auto-scaling group " ++ a.name) a.changes)
  ++ String.join (p.balancerActions.map fun a =>
    entryText a.action ("load balancer " ++ a.label) a.changes)
  ++ String.join (p.applicationActions.map fun a =>
    entryText a.action ("application " ++ a.name) a.changes)
  ++ (if p.warnings.isEmpty then ""
    else "\nWarnings:\n" ++ String.join (p.warnings.map fun w => "  - " ++ w ++ "\n"))
  ++ (if p.hasChanges then "" else "No changes required")

end Plan

/-! ## 2. Written form -/

open Converge.Field

def ActionType.codec : Codec ActionType :=
  .oneOf (ActionType.all.map fun a => (a.word, a)) ActionType.word

def ClusterAction.codec : Codec ClusterAction :=
  .record "ClusterAction"
    (.and (required "action" ActionType.codec) <|
     .and (withDefault "changes" (.list .text) []) .none)
    (fun (action, changes, ()) => ⟨action, changes⟩)
    (fun a => (a.action, a.changes, ()))

def GroupAction.codec : Codec GroupAction :=
  .record "AsgAction"
    (.and (required "name" .text) <|
     .and (required "action" ActionType.codec) <|
     .and (orNull "existingId" Uuid.codec) <|
     .and (withDefault "changes" (.list .text) []) .none)
    (fun (name, action, id, changes, ()) => ⟨name, action, id, changes⟩)
    (fun a => (a.name, a.action, a.existingId, a.changes, ()))

def BalancerAction.codec : Codec BalancerAction :=
  .record "LbAction"
    (.and (required "name" .text) <|
     .and (required "asgName" .text) <|
     .and (required "action" ActionType.codec) <|
     .and (orNull "asgId" Uuid.codec) <|
     .and (orNull "existingId" Uuid.codec) <|
     .and (withDefault "changes" (.list .text) []) .none)
    (fun (name, group, action, groupId, id, changes, ()) =>
      ⟨name, group, action, groupId, id, changes⟩)
    (fun a => (a.name, a.groupName, a.action, a.groupId, a.existingId, a.changes, ()))

def ApplicationAction.codec : Codec ApplicationAction :=
  .record "AppAction"
    (.and (required "name" .text) <|
     .and (required "action" ActionType.codec) <|
     .and (orNull "applicationId" Uuid.codec) <|
     .and (withDefault "changes" (.list .text) []) .none)
    (fun (name, action, id, changes, ()) => ⟨name, action, id, changes⟩)
    (fun a => (a.name, a.action, a.applicationId, a.changes, ()))

def Plan.codec : Codec Plan :=
  .record "Plan"
    (.and (required "cluster" ClusterIdentity.codec) <|
     .and (withDefault "clusterAction" ClusterAction.codec .noop) <|
     .and (withDefault "asgActions" (.list GroupAction.codec) []) <|
     .and (withDefault "lbActions" (.list BalancerAction.codec) []) <|
     .and (withDefault "appActions" (.list ApplicationAction.codec) []) <|
     .and (withDefault "warnings" (.list .text) []) <|
     .and (withDefault "createdAt" Timestamp.codec .epoch) .none)
    (fun (cluster, settings, groups, balancers, applications, warnings, time, ()) =>
      ⟨cluster, settings, groups, balancers, applications, warnings, time⟩)
    (fun p => (p.cluster, p.clusterAction, p.groupActions, p.balancerActions,
      p.applicationActions, p.warnings, p.createdAt, ()))

end Converge
