import Converge.Apply.Execute
import Converge.Plan.Planner
/-!
# Planning and applying against a live cluster

`Reconcile.plan` observes the cluster and makes a plan; `Reconcile.apply` applies one.  Nothing
is kept between the two: each reads the ledger for itself.
-/

namespace Converge.Reconcile

/-- Makes the plan that leads to a configuration. -/
def plan (limit : Nat) (desired : ClusterConfig) : Session Plan := do
  let ledger ← Session.loadLedger
  let live ← Observe.cluster limit desired.clusterName
  Session.info ("Planning changes for cluster " ++ live.cluster.name)
  let now ← Session.ask .now
  (Planner.notices desired live ledger).forM Session.warn
  let plan ← ExceptT.mk (pure (Converge.plan desired live ledger now))
  Session.debug ("Plan has " ++ toString plan.changeCount ++ " changes and "
    ++ toString plan.warnings.length ++ " warnings")
  pure plan

/-- Applies a plan. -/
def apply (options : ApplyOptions) (desired : ClusterConfig) (plan : Plan) :
    Session ExecutionResult := do
  let ledger ← Session.loadLedger
  execute options desired plan ledger

end Converge.Reconcile
