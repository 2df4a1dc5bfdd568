import Converge.Proofs.Apply.Script
import Converge.Proofs.Plan.Applications
import Converge.Simulation.Stub
/-!
# An apply reports what its plan announced

A step of the script adds its own entry to the report (`ApplyStep.report`), so the report of an
apply that succeeds has the entries of all its steps, in the order of the script and thus in the
order of the plan.  That holds of every plan (`Plan.outline_of_course`); the number of a version is
given by the control plane, and whether the ledger changed is found out on the way, so both are
left out of what is compared (`ExecutionResult.outline`).

A plan that the planner makes deletes nothing for good and updates no infrastructure
(`Plan.MadeFrom.kinds`).  So each of its changes creates something, writes a version or updates the
settings, and counting the entries of the report counts the changes of the plan.

Main statement: `apply_reports_plan`.
-/

namespace Converge

/-! ## 1. Reports -/

namespace ExecutionResult

/-- A report without what a plan cannot know: the numbers of versions, and whether the ledger
changed. -/
def outline (r : ExecutionResult) : ExecutionResult :=
  { r with versions := r.versions.map fun v => { v with version := 0 }, ledgerModified := false }

/-- One report continued by another. -/
def followedBy (r s : ExecutionResult) : ExecutionResult where
  clusterUpdated := r.clusterUpdated || s.clusterUpdated
  deletedBalancers := r.deletedBalancers ++ s.deletedBalancers
  deletedGroups := r.deletedGroups ++ s.deletedGroups
  createdGroups := r.createdGroups ++ s.createdGroups
  createdBalancers := r.createdBalancers ++ s.createdBalancers
  createdApplications := r.createdApplications ++ s.createdApplications
  versions := r.versions ++ s.versions
  ledgerModified := r.ledgerModified || s.ledgerModified

/-- Several reports as one. -/
def gathered (rs : List ExecutionResult) : ExecutionResult where
  clusterUpdated := rs.any (·.clusterUpdated)
  deletedBalancers := rs.flatMap (·.deletedBalancers)
  deletedGroups := rs.flatMap (·.deletedGroups)
  createdGroups := rs.flatMap (·.createdGroups)
  createdBalancers := rs.flatMap (·.createdBalancers)
  createdApplications := rs.flatMap (·.createdApplications)
  versions := rs.flatMap (·.versions)
  ledgerModified := rs.any (·.ledgerModified)

theorem followedBy_gathered_nil (r : ExecutionResult) : r.followedBy (gathered []) = r := by
  simp [followedBy, gathered]

theorem followedBy_gathered_cons (r s : ExecutionResult) (rs : List ExecutionResult) :
    r.followedBy (gathered (s :: rs)) = (r.followedBy s).followedBy (gathered rs) := by
  simp [followedBy, gathered, Bool.or_assoc]

theorem isEmpty_gathered {rs : List ExecutionResult} :
    (gathered rs).isEmpty ↔ ∀ r ∈ rs, r.isEmpty := by
  simp [isEmpty, gathered]
  grind

theorem isEmpty_outline (r : ExecutionResult) : r.outline.isEmpty = r.isEmpty := by
  simp [outline, isEmpty]

end ExecutionResult

/-- What a step adds to the outline of a report when it succeeds. -/
def ApplyStep.report (activate : Bool) : ApplyStep → ExecutionResult
  | .updateSettings => { ExecutionResult.nothing with clusterUpdated := true }
  | .deleteBalancer a => { ExecutionResult.nothing with deletedBalancers := [a.label] }
  | .deleteGroup a => { ExecutionResult.nothing with deletedGroups := [a.name] }
  | .createGroup a => { ExecutionResult.nothing with createdGroups := [a.name] }
  | .createBalancer a => { ExecutionResult.nothing with createdBalancers := [a.label] }
  | .application a =>
    { ExecutionResult.nothing with
      createdApplications := if a.action = .create then [a.name] else []
      versions := [⟨a.name, 0, activate⟩] }

/-- Every step adds something. -/
theorem ApplyStep.isEmpty_report (s : ApplyStep) (activate : Bool) :
    (s.report activate).isEmpty = false := by
  cases s <;> simp [report, ExecutionResult.isEmpty]

/-- The outline of the report that a plan announces. -/
def Plan.outline (p : Plan) (activate : Bool) : ExecutionResult where
  clusterUpdated := p.clusterAction.action = .update
  deletedBalancers := (p.balancerActions.filter (·.action.deletes)).map (·.label)
  deletedGroups := (p.groupActions.filter (·.action.deletes)).map (·.name)
  createdGroups := (p.groupActions.filter (·.action.creates)).map (·.name)
  createdBalancers := (p.balancerActions.filter (·.action.creates)).map (·.label)
  createdApplications := (p.applicationActions.filter (·.action = .create)).map (·.name)
  versions := (p.applicationActions.filter (·.action.writesVersion)).map fun a =>
    ⟨a.name, 0, activate⟩
  ledgerModified := false

/-- The steps of a plan add up to what the plan announces. -/
theorem Plan.gathered_script (p : Plan) (activate : Bool) :
    .gathered (p.script.map (·.report activate)) = p.outline activate := by
  have named := flatMap_ite_singleton (fun a : ApplicationAction => a.action = .create) (·.name)
  simp only [decide_eq_true_eq] at named
  have creating : (fun a : ApplicationAction => decide (a.action = .create) && a.action.writesVersion)
      = fun a => decide (a.action = .create) := by
    funext a
    cases a.action <;> rfl
  have settings : ((if p.clusterAction.action = .update then [ApplyStep.updateSettings]
      else []).map (·.report activate)) =
      if p.clusterAction.action = .update then
        [{ ExecutionResult.nothing with clusterUpdated := true }] else [] := by
    split <;> rfl
  have nothing : ∀ {α β : Type} (l : List α), l.flatMap (fun _ => ([] : List β)) = [] :=
    fun l => List.flatMap_eq_nil_iff.2 fun _ _ => rfl
  have each : ∀ {α β : Type} (f : α → β) (l : List α), l.flatMap (fun a => [f a]) = l.map f :=
    fun f l => (List.map_eq_flatMap ..).symm
  simp only [Plan.script, List.map_append, settings]
  split <;>
    simp [ExecutionResult.gathered, Plan.outline, ApplyStep.report, ExecutionResult.nothing,
      List.flatMap_map, *]

/-! ## 2. What a step adds -/

namespace ApplyContext

open ExecutionResult ApplyStep

variable {c : ApplyContext} {p q : Progress} {es : List Event}

/-- Finding the target of an action adds an application to the report where one is created. -/
theorem Targets.reports {a : ApplicationAction} {t : Uuid × Option ApplicationVersion}
    (h : c.Targets a p es (some (.ok t, q))) :
    q.result = { p.result with
      createdApplications :=
        p.result.createdApplications ++ if a.action = .create then [a.name] else [] } := by
  generalize ho : some (Except.ok t, q) = out at h
  cases h with
  | created ha =>
    cases ho
    simp [Progress.reported, ha]
  | refused _ => nomatch ho
  | unidentified _ _ => nomatch ho
  | @based _ _ o ha _ _ =>
    obtain _ | _ | _ := o <;> cases ho
    simp [ha]

/-- **What a step adds to the report when it succeeds**, in each of the ways in which it can. -/
theorem Acts.reports {s : ApplyStep} (h : c.Acts s p es (some (.ok (), q))) :
    q.result.outline = p.result.outline.followedBy (s.report c.activate) := by
  generalize ho : some (Except.ok (), q) = out at h
  cases h with
  | settingsMissing _ => nomatch ho
  | settings _ reply =>
    obtain _ | _ := reply <;> cases ho
    simp [Progress.reported, outline, followedBy, report, nothing]
  | balancerUnidentified _ => nomatch ho
  | balancerRefused _ _ => nomatch ho
  | @balancerDeleted _ _ _ _ _ o _ _ _ =>
    obtain _ | _ | _ := o <;> cases ho
    simp [Progress.reported, outline, followedBy, report, nothing]
  | groupUnidentified _ => nomatch ho
  | groupRefused _ => nomatch ho
  | @groupDeleted _ _ _ _ o _ _ =>
    obtain _ | _ | _ := o <;> cases ho
    simp [Progress.reported, outline, followedBy, report, nothing]
  | groupUnknown _ => nomatch ho
  | groupCreated _ reply =>
    obtain _ | _ := reply <;> cases ho
    simp [Progress.withGroup, outline, followedBy, report, nothing]
  | balancerUnknown _ => nomatch ho
  | @balancerOwnerless _ _ _ _ o _ _ hn =>
    obtain _ | _ | id := o <;> cases ho
    exact absurd rfl (hn id)
  | balancerCreated _ _ reply =>
    obtain _ | _ := reply <;> cases ho
    simp [Progress.reported, outline, followedBy, report, nothing]
  | applicationUnknown _ => nomatch ho
  | @applicationUntargeted _ _ _ _ out _ _ hn =>
    obtain _ | ⟨_ | t, r⟩ := out <;> cases ho
    exact absurd rfl (hn t r)
  | versionRefused _ _ => nomatch ho
  | versionKept _ ht _ =>
    cases ho
    simp [Progress.reported, Progress.recorded, outline, followedBy, report, nothing, ht.reports]
  | versionActivated _ ht _ reply =>
    obtain _ | _ := reply <;> cases ho
    simp [Progress.reported, Progress.recorded, outline, followedBy, report, nothing, ht.reports]

/-- **What steps add to the report when they succeed**, by induction over the steps. -/
theorem ActsAll.reports {steps : List ApplyStep} (h : c.ActsAll steps p es (some (.ok (), q))) :
    q.result.outline =
      p.result.outline.followedBy (.gathered (steps.map (·.report c.activate))) := by
  generalize ho : some (Except.ok (), q) = out at h
  induction h with
  | nil =>
    cases ho
    exact (ExecutionResult.followedBy_gathered_nil _).symm
  | cons h _ ih =>
    rw [ih ho, h.reports, List.map_cons, ExecutionResult.followedBy_gathered_cons]
  | stopped _ => nomatch ho
  | unfinished _ => nomatch ho

end ApplyContext

/-! ## 3. What an apply reports -/

/-- **An apply that succeeds reports the outline of its plan**, whatever the plan. -/
theorem Plan.outline_of_course {options : ApplyOptions} {desired : ClusterConfig} {plan : Plan}
    {ledger : SecretLedger} {es : List Event} {r : ExecutionResult}
    (h : (execute options desired plan ledger).Course es (some (.ok r))) :
    r.outline = plan.outline options.activate := by
  rcases execute_cases h with ⟨-, ho⟩ | ⟨as, bs, f | u, p, saved, rfl, ran, -, ho⟩
  · nomatch ho
  · nomatch ho
  · obtain e | v := saved
    · nomatch ho
    · have hr : r = p.result := Except.ok.inj (Option.some.inj ho)
      rw [hr, ran.reports]
      exact plan.gathered_script options.activate

/-- An apply without steps sends nothing, saves nothing and reports nothing. -/
theorem course_of_script_eq_nil {options : ApplyOptions} {desired : ClusterConfig} {plan : Plan}
    {ledger : SecretLedger} {es : List Event} {out : Option (Except Failure ExecutionResult)}
    (h : (execute options desired plan ledger).Course es out) (idle : plan.script = []) :
    es = [] ∧ out = some (.ok .nothing) := by
  rcases execute_cases h with ⟨ran, -⟩ | ⟨as, bs, r, p, saved, rfl, ran, hs, rfl⟩
  · rw [idle] at ran
    nomatch ran
  · rw [idle] at ran
    cases ran with
    | nil =>
      cases hs with
      | unchanged _ => exact ⟨rfl, rfl⟩
      | changed hm _ => nomatch hm

namespace Plan

variable {p : Plan} {activate : Bool}

theorem changeCount_eq_zero_iff : p.changeCount = 0 ↔ p.hasChanges = false := by
  rw [changeCount, List.countP_eq_zero, hasChanges, List.any_eq_false]

/-- A plan without changes has no steps. -/
theorem script_eq_nil_of_no_changes (h : p.hasChanges = false) : p.script = [] := by
  refine List.eq_nil_iff_forall_not_mem.2 fun s hs => ?_
  have := hasChanges_of_mem_script hs
  rw [h] at this
  nomatch this

/-- The outline is empty only where there is no step. -/
theorem isEmpty_outline_iff : (p.outline activate).isEmpty ↔ p.script = [] := by
  rw [← gathered_script, ExecutionResult.isEmpty_gathered]
  constructor
  · intro h
    refine List.eq_nil_iff_forall_not_mem.2 fun s hs => ?_
    have := h _ (List.mem_map_of_mem hs)
    rw [s.isEmpty_report] at this
    nomatch this
  · intro h
    simp [h]

/-- No change is asked for only where there is no step. -/
theorem mutations_eq_nil_iff : p.mutations activate = [] ↔ p.script = [] := by
  rw [← flatMap_script, List.flatMap_eq_nil_iff]
  constructor
  · intro h
    refine List.eq_nil_iff_forall_not_mem.2 fun s hs => ?_
    have := h s hs
    cases s <;> simp [ApplyStep.mutations, ApplicationAction.mutations] at this
  · intro h
    simp [h]

/-- The entries of the outline count the changes of a plan whose actions are of the planner's
kinds. -/
theorem Kinds.changeCount (h : p.Kinds) (activate : Bool) : p.changeCount =
    (p.outline activate).clusterUpdated.toNat + (p.outline activate).createdGroups.length
      + (p.outline activate).createdBalancers.length + (p.outline activate).versions.length := by
  have settings : ∀ t : ActionType, t ∈ [.update, .noop] →
      (if t.isChange then 1 else 0) = (decide (t = .update)).toNat := by
    decide
  -- Among the kinds of its list, a change is what gets an entry.
  have entries : ∀ {α : Type} {l : List α} {kind : α → ActionType} {kinds : List ActionType}
      (entered : ActionType → Bool), (∀ a ∈ l, kind a ∈ kinds) →
      (∀ t ∈ kinds, t.isChange = entered t) →
      l.countP (fun a => (kind a).isChange) = l.countP fun a => entered (kind a) := by
    intro α l kind kinds entered hl hk
    exact List.countP_congr fun a ha => by rw [hk _ (hl a ha)]
  have groups := entries ActionType.creates h.groups (by decide)
  have balancers := entries ActionType.creates h.balancers (by decide)
  have applications := entries ActionType.writesVersion h.applications (by decide)
  simp only [Plan.changeCount, actions, List.countP_cons, List.countP_append, List.countP_map,
    Function.comp_def, outline, List.length_map, ← List.countP_eq_length_filter,
    settings _ h.settings, groups, balancers, applications]
  omega

end Plan

/-- How the report of an apply agrees with its plan and with what was sent. -/
structure ExecutionResult.Fulfills (r : ExecutionResult) (p : Plan) (activate : Bool)
    (es : List Event) : Prop where
  changeCount : p.changeCount =
    r.clusterUpdated.toNat + r.createdGroups.length + r.createdBalancers.length + r.versions.length
  clusterUpdated : r.clusterUpdated ↔ p.clusterAction.action = .update
  deletedBalancers :
    r.deletedBalancers = (p.balancerActions.filter (·.action = .recreate)).map (·.label)
  deletedGroups : r.deletedGroups = (p.groupActions.filter (·.action = .recreate)).map (·.name)
  createdGroups :
    r.createdGroups = (p.groupActions.filter (·.action ∈ [.create, .recreate])).map (·.name)
  createdBalancers : r.createdBalancers =
    (p.balancerActions.filter (·.action ∈ [.create, .recreate])).map (·.label)
  createdApplications :
    r.createdApplications = (p.applicationActions.filter (·.action = .create)).map (·.name)
  versions : r.versions.map (fun v => (v.application, v.activated)) =
    (p.applicationActions.filter (·.action ∈ [.create, .update])).map fun a => (a.name, activate)
  unchanged : r.isEmpty ↔ p.hasChanges = false
  unsent : r.isEmpty ↔ mutating es = []

/-- An apply of a plan of the planner's kinds that succeeds fulfills the plan. -/
theorem Plan.Kinds.fulfills {options : ApplyOptions} {desired : ClusterConfig} {plan : Plan}
    {ledger : SecretLedger} {es : List Event} {r : ExecutionResult} (kinds : plan.Kinds)
    (h : (execute options desired plan ledger).Course es (some (.ok r))) :
    r.Fulfills plan options.activate es := by
  have outlined := Plan.outline_of_course h
  have finished := ((Plan.followed_of_course h).finished r rfl).1
  have versions := congrArg ExecutionResult.versions outlined
  have empty : r.isEmpty ↔ plan.script = [] := by
    rw [← r.isEmpty_outline, outlined, Plan.isEmpty_outline_iff]
  have counted := kinds.changeCount options.activate
  rw [← outlined] at counted
  replace counted : plan.changeCount = r.clusterUpdated.toNat + r.createdGroups.length
      + r.createdBalancers.length + r.versions.length := by
    simpa [ExecutionResult.outline] using counted
  have deletes : ∀ t : ActionType, t ∈ [.create, .recreate, .noop, .skip] →
      t.deletes = decide (t = .recreate) := by
    decide
  refine {
    changeCount := counted
    clusterUpdated := by
      have same : r.clusterUpdated = decide (plan.clusterAction.action = .update) :=
        congrArg ExecutionResult.clusterUpdated outlined
      rw [same, decide_eq_true_iff]
    deletedBalancers := by
      rw [← List.filter_congr fun a ha => deletes _ (kinds.balancers a ha)]
      exact congrArg ExecutionResult.deletedBalancers outlined
    deletedGroups := by
      rw [← List.filter_congr fun a ha => deletes _ (kinds.groups a ha)]
      exact congrArg ExecutionResult.deletedGroups outlined
    createdGroups := by
      simp only [ActionType.decide_creates]
      exact congrArg ExecutionResult.createdGroups outlined
    createdBalancers := by
      simp only [ActionType.decide_creates]
      exact congrArg ExecutionResult.createdBalancers outlined
    createdApplications := congrArg ExecutionResult.createdApplications outlined
    versions := by
      have same := congrArg (List.map fun v => (v.application, v.activated)) versions
      simp only [ActionType.decide_writesVersion]
      simpa [ExecutionResult.outline, Plan.outline, Function.comp_def] using same
    unchanged := ?_
    unsent := ?_ }
  · constructor
    · intro he
      have none : r.clusterUpdated = false ∧ r.createdGroups = [] ∧ r.createdBalancers = [] ∧
          r.versions = [] := by
        simp_all [ExecutionResult.isEmpty]
      simp [← Plan.changeCount_eq_zero_iff, counted, none]
    · intro hn
      exact empty.2 (Plan.script_eq_nil_of_no_changes hn)
  · rw [empty, ← Plan.mutations_eq_nil_iff]
    constructor
    · intro hn
      rw [hn] at finished
      exact List.forall₂_nil_left_iff.1 finished
    · intro hn
      rw [hn] at finished
      exact List.forall₂_nil_right_iff.1 finished

/-- **An apply that succeeds reports what its plan announced**, when the planner has made the plan,
and a plan without changes, whoever has made it, is applied without sending or saving anything. -/
theorem apply_reports_plan (options : ApplyOptions) (desired : ClusterConfig) (p : Plan)
    (ledger : SecretLedger) (answer : (q : Question) → σ → q.Reply × σ) (t : σ) :
    (∀ wanted live known now r, plan wanted live known now = .ok p →
      (execute options desired p ledger).result answer t = some (.ok r) →
      r.Fulfills p options.activate ((execute options desired p ledger).events answer t)) ∧
    (p.hasChanges = false → (execute options desired p ledger).events answer t = [] ∧
      (execute options desired p ledger).result answer t = some (.ok .nothing)) := by
  have applied := Session.course_of_run answer (execute options desired p ledger) t
  constructor
  · intro wanted live known now r planned ok
    exact (Plan.madeFrom planned).kinds.fulfills (ok ▸ applied)
  · intro unchanged
    exact course_of_script_eq_nil applied (Plan.script_eq_nil_of_no_changes unchanged)

/-! ## 4. Two applies -/

namespace Rollout

/-- The settings and the bounds of the group are other than those that live, the load balancer goes
with its group, and the application is new. -/
def desired : ClusterConfig where
  clusterName := "prod"
  cluster := some ⟨none, "operator"⟩
  groups := [⟨"web", "is1a", "cloud/1core", 2, 4, [], []⟩]
  balancers := [⟨"front", "web", "cloud/lb", [], []⟩]
  applications := [⟨"shop", { (default : ApplicationSpec) with image := "shop:1" }⟩]

def live : LiveState where
  cluster := ⟨"prod", .ofNat 1⟩
  detail := ⟨.ofNat 1, "prod", "", false⟩
  groups := [⟨.ofNat 2, "web", "is1a", "cloud/1core", 1, 4, [], []⟩]
  balancers := .ofList [("web", [⟨.ofNat 3, "front", "cloud/lb", [], []⟩])]
  applications := []

/-- The plan that follows. -/
def plan : Plan where
  cluster := live.cluster
  clusterAction := Planner.clusterAction desired live
  groupActions := Planner.groupActions desired live
  balancerActions := Planner.balancerActions desired live (Planner.groupActions desired live)
  applicationActions := [⟨"shop", .create, none,
    Diff.describeApplication "shop" { (default : ApplicationSpec) with image := "shop:1" } .empty⟩]
  warnings := []
  createdAt := .epoch

/-- A plan for a cluster that is as configured. -/
def settled : Plan := ⟨live.cluster, .noop, [], [], [], [], .epoch⟩

/-- A control plane in which the live group and its load balancer can be deleted. -/
def controlPlane : Simulation where
  pageSize := 10
  linger := 0
  clusters := [⟨.ofNat 1, "prod"⟩]
  details := [live.detail]
  groups := live.groups
  balancers := [(.ofNat 2, [⟨.ofNat 3, "front", "cloud/lb", [], []⟩])]
  applications := []
  versions := []
  summaries := []
  pending := []
  issued := 0
  outages := []

/-- How the control plane answers. -/
def answer : (q : Question) → Stub Simulation → q.Reply × Stub Simulation :=
  Stub.answer fun c s => s.answer c

/-- Versions are activated. -/
def options : ApplyOptions := ⟨⟨0, 0⟩, true, 2⟩

def report : ExecutionResult where
  clusterUpdated := true
  deletedBalancers := ["web/front"]
  deletedGroups := ["web"]
  createdGroups := ["web"]
  createdBalancers := ["web/front"]
  createdApplications := ["shop"]
  versions := [⟨"shop", 1, true⟩]
  ledgerModified := false

/-- Four changes are announced and reported; and nothing is sent where nothing was to change. -/
theorem reports_of_two_applies :
    report.Fulfills plan true
      ((execute options desired plan .empty).events answer ⟨controlPlane, []⟩) ∧
    (execute options desired settled .empty).events answer ⟨controlPlane, []⟩ = [] := by
  have planned : Converge.plan desired live .empty .epoch = .ok plan := by rfl
  have applied : (execute options desired plan .empty).result answer ⟨controlPlane, []⟩ =
      some (.ok report) := by decide +kernel
  have rolled := apply_reports_plan options desired plan .empty answer ⟨controlPlane, []⟩
  have idle := apply_reports_plan options desired settled .empty answer ⟨controlPlane, []⟩
  exact ⟨rolled.1 desired live .empty .epoch report planned applied, (idle.2 (by rfl)).1⟩

end Rollout

end Converge
