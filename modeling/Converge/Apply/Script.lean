import Converge.Plan.Basic
import Converge.Failure
/-!
# The script of a plan

Whatever the order of its actions, a plan is applied in six stages: the settings of the cluster,
deleting load balancers, deleting groups, creating groups, creating load balancers, and the
applications.  `Plan.script` lists the steps in that order.
-/

namespace Converge

/-- One step of an apply. -/
inductive ApplyStep where
  | updateSettings
  | deleteBalancer (action : BalancerAction)
  | deleteGroup (action : GroupAction)
  | createGroup (action : GroupAction)
  | createBalancer (action : BalancerAction)
  | application (action : ApplicationAction)
  deriving DecidableEq, Repr

namespace ApplyStep

/-- The stage of a step. -/
def stage : ApplyStep → Stage
  | .updateSettings => .clusterSettings
  | .deleteBalancer _ => .deleteLoadBalancers
  | .deleteGroup _ => .deleteGroups
  | .createGroup _ => .createGroups
  | .createBalancer _ => .createLoadBalancers
  | .application _ => .applications

/-- The resource that a step is about. -/
def resource (cluster : String) : ApplyStep → String
  | .updateSettings => cluster
  | .deleteBalancer a => a.label
  | .deleteGroup a => a.name
  | .createGroup a => a.name
  | .createBalancer a => a.label
  | .application a => a.name

end ApplyStep

/-- Whether applying an action on an application writes a version. -/
def ActionType.writesVersion : ActionType → Bool
  | .create | .update => true
  | _ => false

/-- The steps of a plan, stage by stage. -/
def Plan.script (p : Plan) : List ApplyStep :=
  (if p.clusterAction.action = .update then [.updateSettings] else [])
  ++ (p.balancerActions.filter (·.action.deletes)).map .deleteBalancer
  ++ (p.groupActions.filter (·.action.deletes)).map .deleteGroup
  ++ (p.groupActions.filter (·.action.creates)).map .createGroup
  ++ (p.balancerActions.filter (·.action.creates)).map .createBalancer
  ++ (p.applicationActions.filter (·.action.writesVersion)).map .application

end Converge
