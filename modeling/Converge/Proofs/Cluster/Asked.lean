import Converge.Dump
import Converge.Proofs.Alike
import Converge.Versions.Query
/-!
# What is asked to observe a cluster

Taking a snapshot and writing a cluster down ask the control plane to read and write to the log, and
ask nothing else; of these requests, only `getVersion` shows an environment.

Main statements: `Observe.asks_cluster` and `Dump.asks_cluster`.
-/

namespace Converge

/-- Whether a question changes nothing and does not look at the clock or the ledger. -/
def Question.looks : Question → Bool
  | .call c => !c.mutates
  | .log _ _ => true
  | _ => false

/-- Whether a question looks at something other than a version. -/
def Question.lists : Question → Bool
  | .call (.getVersion _ _) => false
  | q => q.looks

theorem Question.looks_of_lists (q : Question) (h : q.lists) : q.looks := by
  unfold lists at h
  split at h
  · nomatch h
  · exact h

/-- A control plane that replies to each request in the same way whenever it is sent.  There is
nothing in the ledger and the clock stands still. -/
def Question.answerBy (replies : (c : Call) → Except Failure c.Reply) :
    (q : Question) → Unit → q.Reply × Unit
  | .call c, _ => (replies c, ())
  | .loadLedger, _ => (.ok .empty, ())
  | .saveLedger _, _ => (.ok (), ())
  | .ledgerLocation, _ => ("ledger", ())
  | .clock, _ => (0, ())
  | .now, _ => (.epoch, ())
  | .sleep _, _ => ((), ())
  | .log _ _, _ => ((), ())

variable {limit : Nat} {P : Question → Prop}

/-- Draining a listing asks for its pages. -/
theorem asks_collectFrom (log : ∀ level text, P (.log level text))
    {fetch : Option String → Session (Page α)} (hf : ∀ cursor, (fetch cursor).Asks P) :
    ∀ limit seen cursor, (collectFrom fetch limit seen cursor).Asks P
  | 0, _, _ => Session.asks_unfinished
  | limit + 1, seen, cursor => by
    unfold collectFrom
    refine Session.asks_bind (hf cursor) fun page => ?_
    cases page.next with
    | none => exact Session.asks_pure _
    | some next =>
      dsimp only
      split
      · exact Session.asks_bind (Session.asks_log (log _ _)) fun _ => Session.asks_pure _
      · refine Session.asks_bind (Session.asks_log (log _ _)) fun _ => ?_
        refine Session.asks_bind ?_ fun rest => Session.asks_pure _
        exact asks_collectFrom log hf limit _ _

namespace Deletion

variable {poll : PollSettings} {resourceType name : String} {probe : Session α}

theorem asks_waitFrom (log : ∀ level text, P (.log level text)) (clock : P .clock)
    (sleep : ∀ milliseconds, P (.sleep milliseconds)) (hp : probe.Asks P) (start : Nat) :
    ∀ limit, (waitFrom poll resourceType name start probe limit).Asks P
  | 0 => Session.asks_unfinished
  | limit + 1 => by
    refine Session.asks_bind (Session.asks_outcome hp) fun r => ?_
    cases r with
    | ok _ =>
      refine Session.asks_bind (Session.asks_log (log _ _)) fun _ => ?_
      refine Session.asks_bind (Session.asks_ask clock) fun now => ?_
      dsimp only
      split
      · exact Session.asks_bind (Session.asks_log (log _ _)) fun _ => Session.asks_throw _
      · refine Session.asks_bind (Session.asks_ask (sleep _)) fun _ => ?_
        exact asks_waitFrom log clock sleep hp start limit
    | error f =>
      dsimp only
      split
      · exact Session.asks_throw _
      · exact Session.asks_bind (Session.asks_log (log _ _)) fun _ => Session.asks_log (log _ _)

/-- Waiting until a resource is gone asks for the resource, between looks at the clock. -/
theorem asks_wait (log : ∀ level text, P (.log level text)) (clock : P .clock)
    (sleep : ∀ milliseconds, P (.sleep milliseconds)) (hp : probe.Asks P) :
    (wait limit poll resourceType name probe).Asks P :=
  Session.asks_bind (Session.asks_ask clock) fun start =>
    asks_waitFrom log clock sleep hp start limit

end Deletion

/-! ## 1. Listings -/

namespace Observe

/-- Draining a listing by requests that look at something other than a version. -/
theorem lists_collectPages {fetch : Option String → Session (Page α)}
    (hf : ∀ cursor, (fetch cursor).Asks fun q => q.lists) :
    (collectPages limit fetch).Asks fun q => q.lists :=
  asks_collectFrom (fun _ _ => rfl) hf limit [] none

theorem lists_resolveCluster (name : String) :
    (resolveCluster limit name).Asks fun q => q.lists := by
  refine Session.asks_bind (lists_collectPages fun _ => Session.asks_call rfl) fun clusters => ?_
  split
  · exact Session.asks_pure _
  · exact Session.asks_throw _

theorem lists_listGroups (cluster : Uuid) :
    (listGroups limit cluster).Asks fun q => q.lists :=
  lists_collectPages fun _ => Session.asks_call rfl

theorem lists_listBalancers (cluster group : Uuid) :
    (listBalancers limit cluster group).Asks fun q => q.lists := by
  refine Session.asks_bind (lists_collectPages fun _ => Session.asks_call rfl) fun summaries => ?_
  refine Session.asks_mapM (fun s => ?_) summaries
  exact Session.asks_call rfl

theorem lists_listApplications (cluster : Uuid) :
    (listApplications limit cluster).Asks fun q => q.lists :=
  lists_collectPages fun _ => Session.asks_call rfl

theorem lists_findApplication (cluster : Uuid) (name : String) :
    (findApplication limit cluster name).Asks fun q => q.lists := by
  refine Session.asks_bind (lists_listApplications cluster) fun applications => ?_
  split
  · exact Session.asks_pure _
  · exact Session.asks_throw _

theorem lists_listVersions (application : Uuid) :
    (listVersions limit application).Asks fun q => q.lists :=
  lists_collectPages fun _ => Session.asks_call rfl

theorem lists_balancersByGroup (cluster : Uuid) (groups : List Group) :
    (balancersByGroup limit cluster groups).Asks fun q => q.lists :=
  Session.asks_foldlM
    (fun _ _ => Session.asks_bind (lists_listBalancers cluster _) fun _ => Session.asks_pure _) _ _

end Observe

theorem Dump.lists_balancers (cluster : Uuid) (groups : List Group) :
    (Dump.balancers limit cluster groups).Asks fun q => q.lists := by
  refine Session.asks_bind (Session.asks_mapM (fun g => ?_) groups) fun _ => Session.asks_pure _
  exact Session.asks_bind (Observe.lists_listBalancers cluster g.id) fun _ => Session.asks_pure _

theorem Versions.lists_resolve (cluster application : String) :
    (Versions.resolve limit cluster application).Asks fun q => q.lists :=
  Session.asks_bind (Observe.lists_resolveCluster cluster) fun c =>
    Observe.lists_findApplication c.id application

/-! ## 2. Snapshots and what is written down -/

theorem Session.Asks.looks {s : Session α} (h : s.Asks fun q => q.lists) :
    s.Asks fun q => q.looks := h.mono Question.looks_of_lists

namespace Observe

theorem asks_latestVersion (application : Uuid) :
    (latestVersion limit application).Asks fun q => q.looks := by
  refine Session.asks_bind (lists_listVersions application).looks fun summaries => ?_
  split
  · exact Session.asks_bind (Session.asks_call rfl) fun _ => Session.asks_pure _
  · exact Session.asks_pure _

/-- **A snapshot is taken by looking.** -/
theorem asks_cluster (name : String) : (cluster limit name).Asks fun q => q.looks := by
  refine Session.asks_bind (Session.asks_log rfl) fun _ => ?_
  refine Session.asks_bind (lists_resolveCluster name).looks fun identity => ?_
  refine Session.asks_bind (Session.asks_call rfl) fun detail => ?_
  refine Session.asks_bind (lists_listGroups identity.id).looks fun groups => ?_
  refine Session.asks_bind (lists_balancersByGroup identity.id groups).looks fun balancers => ?_
  refine Session.asks_bind (lists_listApplications identity.id).looks fun applications => ?_
  refine Session.asks_bind (Session.asks_mapM (fun a => ?_) applications) fun latest => ?_
  · exact Session.asks_bind (asks_latestVersion a.id) fun _ => Session.asks_pure _
  · exact Session.asks_bind (Session.asks_log rfl) fun _ => Session.asks_pure _

end Observe

namespace Dump

theorem asks_application (a : Application) : (application limit a).Asks fun q => q.looks := by
  refine Session.asks_bind (Session.asks_outcome (Observe.asks_latestVersion a.id)) fun r => ?_
  split
  · exact Session.asks_pure _
  · exact Session.asks_bind (Session.asks_log rfl) fun _ => Session.asks_pure _
  · exact Session.asks_bind (Session.asks_log rfl) fun _ => Session.asks_pure _

/-- **A cluster is written down by looking.** -/
theorem asks_cluster (name : String) : (Dump.cluster limit name).Asks fun q => q.looks := by
  refine Session.asks_bind (Session.asks_log rfl) fun _ => ?_
  refine Session.asks_bind (Observe.lists_resolveCluster name).looks fun identity => ?_
  refine Session.asks_bind (Session.asks_call rfl) fun detail => ?_
  refine Session.asks_bind (Observe.lists_listGroups identity.id).looks fun groups => ?_
  refine Session.asks_bind (lists_balancers identity.id groups).looks fun balancers => ?_
  refine Session.asks_bind (Observe.lists_listApplications identity.id).looks fun apps => ?_
  exact Session.asks_bind (Session.asks_mapM asks_application apps) fun _ => Session.asks_pure _

end Dump

end Converge
