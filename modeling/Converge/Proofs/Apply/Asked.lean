import Converge.Apply.Execute
import Converge.Proofs.Cluster.Asked
/-!
# What the steps of an apply ask

Of the steps of an apply only those for applications look at versions, and they do so to find what
a new version is laid over; when that is found they only write.  So where two applies may differ in
what they see of versions, `ApplyContext.target` is all that there is to look at.

Main statements: `ApplyContext.asks_act` and `ApplyContext.asks_deliver`.
-/

namespace Converge

open Execution

/-- Whether a question does not look at versions. -/
def Question.unversioned : Question → Bool
  | .call (.getVersion _ _) | .call (.listVersions _ _) => false
  | _ => true

namespace ApplyContext

variable (c : ApplyContext)

/-! ## 1. The infrastructure -/

/-- Waiting until a resource is gone looks at no version. -/
theorem asks_wait {limit : Nat} {poll : PollSettings} {resourceType name : String}
    {probe : Session α} (hp : probe.Asks fun q => q.unversioned) :
    (Deletion.wait limit poll resourceType name probe).Asks fun q => q.unversioned :=
  Deletion.asks_wait (fun _ _ => rfl) rfl (fun _ => rfl) hp

theorem asks_updateSettings : c.updateSettings.Asks fun q => q.unversioned := by
  refine asks_bind (asks_need _ _) fun settings => ?_
  refine asks_bind (asks_session ?_) fun _ => asks_note _
  exact Session.asks_bind (Session.asks_log rfl) fun _ => Session.asks_call rfl

theorem asks_deleteBalancer (a : BalancerAction) :
    (c.deleteBalancer a).Asks fun q => q.unversioned := by
  refine asks_bind (asks_need _ _) fun owner => ?_
  refine asks_bind (asks_need _ _) fun existing => ?_
  refine asks_bind (asks_session ?_) fun _ => asks_note _
  refine Session.asks_bind (Session.asks_log rfl) fun _ => ?_
  refine Session.asks_bind (Session.asks_call rfl) fun _ => ?_
  exact asks_wait (Session.asks_call rfl)

theorem asks_deleteGroup (a : GroupAction) :
    (c.deleteGroup a).Asks fun q => q.unversioned := by
  refine asks_bind (asks_need _ _) fun existing => ?_
  refine asks_bind (asks_session ?_) fun _ => asks_note _
  refine Session.asks_bind (Session.asks_log rfl) fun _ => ?_
  refine Session.asks_bind (Session.asks_call rfl) fun _ => ?_
  exact asks_wait (Session.asks_call rfl)

theorem asks_createGroup (a : GroupAction) :
    (c.createGroup a).Asks fun q => q.unversioned := by
  refine asks_bind (asks_need _ _) fun config => ?_
  refine asks_bind (asks_session ?_) fun _ => asks_note _
  refine Session.asks_bind (Session.asks_log rfl) fun _ => ?_
  refine Session.asks_bind (Session.asks_call rfl) fun _ => ?_
  exact Session.asks_bind (Session.asks_log rfl) fun _ => Session.asks_pure _

theorem asks_owner (a : BalancerAction) : (c.owner a).Asks fun q => q.unversioned := by
  refine asks_bind asks_get fun p => ?_
  split
  · exact asks_pure _
  · split
    · exact asks_pure _
    · refine asks_bind (asks_session ?_) fun groups => asks_need _ _
      refine Session.asks_bind (Session.asks_log rfl) fun _ => ?_
      refine asks_collectFrom (fun _ _ => rfl) (fun cursor => ?_) _ _ _
      exact Session.asks_call rfl

theorem asks_createBalancer (a : BalancerAction) :
    (c.createBalancer a).Asks fun q => q.unversioned := by
  refine asks_bind (asks_need _ _) fun config => ?_
  refine asks_bind (c.asks_owner a) fun owner => ?_
  refine asks_bind (asks_session ?_) fun _ => asks_note _
  refine Session.asks_bind (Session.asks_log rfl) fun _ => ?_
  exact Session.asks_bind (Session.asks_call rfl) fun _ => Session.asks_log rfl

/-- **A step that is not for an application** looks at no version. -/
theorem asks_act {s : ApplyStep} (hs : ∀ a, s ≠ .application a) :
    (c.act s).Asks fun q => q.unversioned := by
  cases s with
  | updateSettings => exact c.asks_updateSettings
  | deleteBalancer a => exact c.asks_deleteBalancer a
  | deleteGroup a => exact c.asks_deleteGroup a
  | createGroup a => exact c.asks_createGroup a
  | createBalancer a => exact c.asks_createBalancer a
  | application a => exact absurd rfl (hs a)

/-! ## 2. Applications -/

/-- Creates an application. -/
theorem asks_create (a : ApplicationAction) (h : a.action = .create) :
    (c.target a).Asks fun q => q.unversioned := by
  rw [target, if_pos h]
  refine asks_bind (asks_session ?_) fun created => asks_bind (asks_note _) fun _ => asks_pure _
  exact Session.asks_bind (Session.asks_log rfl) fun _ => Session.asks_call rfl

/-- Writes a version for an application that was found, over the version that was found of it. -/
def deliver (c : ApplyContext) (a : ApplicationAction) (spec : ApplicationSpec) :
    Uuid × Option ApplicationVersion → Execution Unit
  | (id, base) => do
    let version ← session do
      let version ← Session.call (.createVersion id (spec.request base))
      Session.info ("Created version " ++ toString version ++ " of application " ++ a.name)
      pure version
    recordVersions a.name spec
    if c.activate then session (activateVersion id a.name version)
    report fun r => { r with versions := r.versions ++ [⟨a.name, version, c.activate⟩] }

theorem application_eq (a : ApplicationAction) : c.application a = (do
    let config ← need (c.desired.application? a.name) (.missingConfig "application" a.name)
    let found ← c.target a
    c.deliver a config.spec found) := rfl

/-- **Writing a version** looks at no other. -/
theorem asks_deliver (a : ApplicationAction) (spec : ApplicationSpec)
    (found : Uuid × Option ApplicationVersion) :
    (c.deliver a spec found).Asks fun q => q.unversioned := by
  refine asks_bind (asks_session ?_) fun version => asks_bind (asks_note _) fun _ => ?_
  · refine Session.asks_bind (Session.asks_call rfl) fun _ => ?_
    exact Session.asks_bind (Session.asks_log rfl) fun _ => Session.asks_pure _
  · split
    · refine asks_bind (asks_session ?_) fun _ => asks_note _
      exact Session.asks_bind (Session.asks_log rfl) fun _ => Session.asks_call rfl
    · exact asks_note _

end ApplyContext

end Converge
