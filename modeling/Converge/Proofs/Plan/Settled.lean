import Converge.Dump
import Converge.Proofs.Plan.Applications
import Converge.Proofs.Plan.Update
/-!
# The plan for what is written down

`LiveState.config` is the configuration that describes a snapshot.  Planned against the snapshot,
with nothing in the ledger, it leaves everything as it is: no comparison finds a difference, and
nothing is left over except applications without versions, which cannot be described.  The one
setting that is never shown, the contact address, is the one that would go.

A resource is compared with the first or last one of its name, an interface with the first one of
its index, and a variable with the last one of its name, so this is said of snapshots in which each
of them has its own (`LiveState.Distinct`).  The plan is written out in `LiveState.settledPlan`.

Main statement: `plan_config`.
-/

namespace Converge

/-! ## 1. The configuration of a snapshot -/

/-- The load balancers of a group. -/
def LiveState.balancersOf (live : LiveState) (g : Group) : List Balancer :=
  (live.balancers.get? g.name).getD []

/-- The configuration of an application, if it has a version. -/
def LiveApplication.config? (l : LiveApplication) : Option ApplicationConfig :=
  l.latestVersion.map fun v => ⟨l.application.name, v.spec⟩

/-- The configuration that describes a snapshot. -/
def LiveState.config (live : LiveState) : ClusterConfig where
  clusterName := live.cluster.name
  cluster := some ⟨none, live.detail.servicePrincipalId⟩
  groups := live.groups.map (·.config)
  balancers := live.groups.flatMap fun g => (live.balancersOf g).map (Balancer.config g.name)
  applications := live.applications.filterMap (·.config?)

/-- Whether the groups, the load balancers of each group and the applications of a snapshot have
names of their own, and so have the interfaces of each resource and the ports and variables of each
version. -/
structure LiveState.Distinct (live : LiveState) : Prop where
  groupNames : (live.groups.map (·.name)).Nodup
  balancerNames : ∀ g ∈ live.groups, ((live.balancersOf g).map (·.name)).Nodup
  applicationNames : (live.applications.map (·.application.name)).Nodup
  groupInterfaces : ∀ g ∈ live.groups, (g.interfaces.map (·.interfaceIndex)).Nodup
  balancerInterfaces : ∀ g ∈ live.groups, ∀ b ∈ live.balancersOf g,
    (b.interfaces.map (·.interfaceIndex)).Nodup
  ports : ∀ l ∈ live.applications, ∀ v ∈ l.latestVersion,
    (v.exposedPorts.map (·.targetPort)).Nodup
  keys : ∀ l ∈ live.applications, ∀ v ∈ l.latestVersion, (v.env.map (·.key)).Nodup

/-- Whether all load balancers that a snapshot shows are those of a group. -/
def LiveState.Owned (live : LiveState) : Prop :=
  ∀ owner bs, live.balancers.get? owner = some bs → ∃ g ∈ live.groups, g.name = owner

/-! ## 2. Comparing what is written down -/

namespace Diff

theorem group_config {g : Group} (distinct : (g.interfaces.map (·.interfaceIndex)).Nodup) :
    Diff.group g g.config = [] :=
  (group_eq_nil_iff rfl distinct).2 ⟨rfl, rfl, rfl, rfl, rfl, rfl, .refl _⟩

theorem balancer_config {b : Balancer} (owner : String)
    (distinct : (b.interfaces.map (·.interfaceIndex)).Nodup) :
    Diff.balancer b (b.config owner) = [] :=
  (balancer_eq_nil_iff rfl distinct).2 ⟨rfl, rfl, rfl, .refl _⟩

/-- A variable that is written down is the one that is found by its name; a secret carries no number
that could differ. -/
theorem env_config {ledger : SecretLedger} {env : List EnvVar} (distinct : (env.map (·.key)).Nodup)
    (app : String) : Diff.env app env (env.map (·.config)) ledger = [] := by
  have found {e : EnvVar} (he : e ∈ env) : lastWithKey env e.key = some e := by
    have keys : (env.reverse.map (·.key)).Nodup := by
      rwa [List.map_reverse, List.nodup_reverse]
    exact (find?_key_eq_some_iff keys).2 ⟨List.mem_reverse.2 he, rfl⟩
  rw [Diff.env, List.append_eq_nil_iff, List.flatMap_map]
  constructor
  · refine List.flatMap_eq_nil_iff.2 fun e he => ?_
    have current : lastWithKey env e.config.key = some e := found he
    rw [envChange, current]
    cases hs : e.secret with
    | true => simp [EnvVar.config, secretChange, hs]
    | false => simp [EnvVar.config, hs]
  · refine List.flatMap_eq_nil_iff.2 fun e he => if_pos ?_
    rw [List.any_map, List.any_eq_true]
    exact ⟨e, he, decide_eq_true rfl⟩

end Diff

/-- What is written down of a version has the normal form of the version. -/
theorem ApplicationVersion.normal_spec (v : ApplicationVersion) : v.spec.normal = v.normal := by
  have user : v.spec.registryUsername.getD "" = v.registryUsername.getD "" :=
    ApplicationSpec.getD_userName v.registryUsername
  rw [ApplicationSpec.normal, user]
  rfl

/-- A normal form does not differ from itself. -/
theorem NormalSpec.compare_self {s : NormalSpec}
    (distinct : (s.exposedPorts.map (·.targetPort)).Nodup) : s.compare s true = .ok [] := by
  refine compare_eq_nil_iff.2 ⟨distinct, distinct, ?_, .refl _⟩
  exact fieldChanges_eq_nil_iff.2 ⟨rfl, rfl, rfl, .refl s, rfl, rfl⟩

theorem Diff.application_spec {v : ApplicationVersion}
    (ports : (v.exposedPorts.map (·.targetPort)).Nodup) (keys : (v.env.map (·.key)).Nodup)
    (app : String) : Diff.application app v v.spec .empty = .ok [] := by
  refine application_eq_nil_iff.2 ⟨?_, env_config keys app, rfl⟩
  rw [v.normal_spec]
  exact NormalSpec.compare_self (nodup_normalPorts ports)

/-! ## 3. The plan -/

/-- Nothing happens to an application that can be described. -/
def LiveApplication.settled? (l : LiveApplication) : Option ApplicationAction :=
  l.latestVersion.map fun _ => ⟨l.application.name, .noop, some l.application.id, []⟩

/-- The plan that leaves everything as it is but the contact address. -/
def LiveState.settledPlan (live : LiveState) (now : Timestamp) : Plan where
  cluster := live.cluster
  clusterAction :=
    if live.detail.hasLetsEncryptEmail then ⟨.update, ["LetsEncryptEmail: (set) -> (unset)"]⟩
    else .noop
  groupActions := live.groups.map fun g => ⟨g.name, .noop, some g.id, []⟩
  balancerActions := live.groups.flatMap fun g =>
    (live.balancersOf g).map fun b => ⟨b.name, g.name, .noop, some g.id, some b.id, []⟩
  applicationActions := live.applications.filterMap (·.settled?)
  warnings := (live.applications.filter (·.latestVersion.isNone)).map fun l =>
    Planner.orphanWarning l.application.name
  createdAt := now

namespace LiveState.Distinct

open Planner

variable {live : LiveState}

theorem group?_eq (h : live.Distinct) {g : Group} (hg : g ∈ live.groups) :
    live.group? g.name = some g :=
  (find?_key_eq_some_iff h.groupNames).2 ⟨hg, rfl⟩

theorem balancer?_eq (h : live.Distinct) {g : Group} (hg : g ∈ live.groups) {b : Balancer}
    (hb : b ∈ live.balancersOf g) : live.balancer? g.name b.name = some b := by
  have names := h.balancerNames g hg
  unfold LiveState.balancersOf at hb names
  unfold LiveState.balancer?
  cases hbs : live.balancers.get? g.name with
  | none => rw [hbs] at hb; nomatch hb
  | some bs =>
    rw [hbs] at hb names
    exact (find?_key_eq_some_iff names).2 ⟨hb, rfl⟩

theorem application?_eq (h : live.Distinct) {l : LiveApplication} (hl : l ∈ live.applications) :
    live.application? l.application.name = some l := by
  have names : (live.applications.reverse.map (·.application.name)).Nodup := by
    rw [List.map_reverse, List.nodup_reverse]
    exact h.applicationNames
  exact (find?_key_eq_some_iff names).2 ⟨List.mem_reverse.2 hl, rfl⟩

theorem clusterAction_config (live : LiveState) (now : Timestamp) :
    clusterAction live.config live = (live.settledPlan now).clusterAction := by
  cases h : live.detail.hasLetsEncryptEmail <;>
    simp [clusterAction, LiveState.config, LiveState.settledPlan, Diff.cluster, h]

/-- Each group is found as it was written down, and there are no others. -/
theorem groupActions_config (h : live.Distinct) (now : Timestamp) :
    groupActions live.config live = (live.settledPlan now).groupActions := by
  have configured : (live.groups.map (·.config)).map (groupAction live) =
      (live.settledPlan now).groupActions := by
    rw [List.map_map]
    refine List.map_congr_left fun g hg => ?_
    have found : live.group? g.config.name = some g := h.group?_eq hg
    rw [Function.comp, groupAction, found]
    dsimp only
    rw [Diff.group_config (h.groupInterfaces g hg)]
    rfl
  have others : live.groups.filter (fun g => (live.config.group? g.name).isNone) = [] := by
    refine List.filter_eq_nil_iff.2 fun g hg => ?_
    have found : (live.config.group? g.name).isSome :=
      find?_key_isSome (List.mem_map_of_mem hg) rfl
    simpa [Option.isSome_iff_ne_none] using found
  rw [groupActions, others]
  exact (List.append_nil _).trans configured

theorem not_recreated (live : LiveState) (now : Timestamp) (owner : String) :
    recreated (live.settledPlan now).groupActions owner = false := by
  rw [recreated, List.any_eq_false]
  intro a ha
  obtain ⟨g, -, rfl⟩ := List.mem_map.1 ha
  exact Bool.false_ne_true

/-- Each load balancer was written down under its owner. -/
theorem orphanBalancers_config (owned : live.Owned) : orphanBalancers live.config live = [] := by
  refine List.flatMap_eq_nil_iff.2 fun ⟨owner, bs⟩ he => List.map_eq_nil_iff.2 ?_
  have kept := SortedMap.mem_entries_iff.1 he
  obtain ⟨g, hg, rfl⟩ := owned owner bs kept
  refine List.filter_eq_nil_iff.2 fun b hb => ?_
  have shown : b ∈ live.balancersOf g := by
    rw [LiveState.balancersOf, kept]
    exact hb
  have described : b.config g.name ∈ live.config.balancers :=
    List.mem_flatMap.2 ⟨g, hg, List.mem_map_of_mem shown⟩
  have found : live.config.balancer? g.name b.name ≠ none :=
    ClusterConfig.balancer?_ne_none described
  simp [found]

theorem balancerActions_config (h : live.Distinct) (owned : live.Owned) (now : Timestamp) :
    balancerActions live.config live (live.settledPlan now).groupActions =
      (live.settledPlan now).balancerActions := by
  rw [balancerActions, orphanBalancers_config owned]
  refine (List.append_nil _).trans ?_
  rw [LiveState.config, List.map_flatMap]
  refine List.flatMap_congr fun g hg => ?_
  rw [List.map_map]
  refine List.map_congr_left fun b hb => ?_
  have owner : live.group? (b.config g.name).groupName = some g := h.group?_eq hg
  have found : live.balancer? (b.config g.name).groupName (b.config g.name).name = some b :=
    h.balancer?_eq hg hb
  have same := Diff.balancer_config g.name (h.balancerInterfaces g hg b hb)
  rw [Function.comp, balancerAction, owner]
  dsimp only
  rw [found]
  dsimp only
  rw [same, not_recreated]
  rfl

/-- Each application that has a version is found as it was written down. -/
theorem applicationActions_config (h : live.Distinct) (now : Timestamp) :
    applicationActions live.config live .empty = .ok (live.settledPlan now).applicationActions := by
  have each : ∀ l : List LiveApplication, (∀ a ∈ l, a ∈ live.applications) →
      (l.filterMap (·.config?)).mapM (applicationAction live .empty) =
        .ok (l.filterMap (·.settled?)) := by
    intro l
    induction l with
    | nil => exact fun _ => rfl
    | cons a rest ih =>
      intro shown
      obtain ⟨ha, hrest⟩ := List.forall_mem_cons.1 shown
      cases hv : a.latestVersion with
      | none =>
        have undescribed : a.config? = none := by rw [LiveApplication.config?, hv]; rfl
        have unsettled : a.settled? = none := by rw [LiveApplication.settled?, hv]; rfl
        rw [List.filterMap_cons_none undescribed, List.filterMap_cons_none unsettled, ih hrest]
      | some v =>
        have described : a.config? = some ⟨a.application.name, v.spec⟩ := by
          rw [LiveApplication.config?, hv]; rfl
        have settled : a.settled? =
            some ⟨a.application.name, .noop, some a.application.id, []⟩ := by
          rw [LiveApplication.settled?, hv]; rfl
        have action : applicationAction live .empty ⟨a.application.name, v.spec⟩ =
            .ok ⟨a.application.name, .noop, some a.application.id, []⟩ := by
          simp only [applicationAction, h.application?_eq ha, hv,
            Diff.application_spec (h.ports a ha v hv) (h.keys a ha v hv)]
          rfl
        rw [List.filterMap_cons_some described, List.filterMap_cons_some settled, List.mapM_cons,
          action, ih hrest]
        rfl
  exact each live.applications fun _ => id

/-- An application is left over when it has no version. -/
theorem orphanApplications_config (h : live.Distinct) :
    orphanApplications live.config live =
      (live.applications.filter (·.latestVersion.isNone)).map (·.application.name) := by
  rw [orphanApplications, List.filter_map]
  refine congrArg (List.map _) (List.filter_congr fun l hl => ?_)
  cases hv : l.latestVersion with
  | some v =>
    have described : (⟨l.application.name, v.spec⟩ : ApplicationConfig) ∈
        live.config.applications :=
      List.mem_filterMap.2 ⟨l, hl, by rw [LiveApplication.config?, hv]; rfl⟩
    have found : (live.config.application? l.application.name).isSome :=
      find?_key_isSome described rfl
    simp [found]
  | none =>
    have missing : live.config.application? l.application.name = none := by
      refine List.find?_eq_none.2 fun w hw hn => ?_
      obtain ⟨m, hm, described⟩ := List.mem_filterMap.1 hw
      obtain ⟨v, hmv, rfl⟩ := Option.map_eq_some_iff.1 described
      obtain rfl := List.inj_on_of_nodup_map h.applicationNames hm hl (of_decide_eq_true hn)
      rw [hv] at hmv
      nomatch hmv
    simp [missing]

end LiveState.Distinct

/-- **What is written down is as it lives.**  Planning it against the snapshot, with nothing in the
ledger, leaves everything as it is but the contact address. -/
theorem plan_config {live : LiveState} (distinct : live.Distinct) (owned : live.Owned)
    (now : Timestamp) : plan live.config live .empty now = .ok (live.settledPlan now) := by
  have losses : Planner.lossWarnings live.config live (live.settledPlan now).groupActions = [] := by
    rw [Planner.lossWarnings, LiveState.Distinct.orphanBalancers_config owned]
    rfl
  unfold plan
  dsimp only
  rw [distinct.applicationActions_config now, distinct.groupActions_config now,
    distinct.balancerActions_config owned now, losses, distinct.orphanApplications_config,
    LiveState.Distinct.clusterAction_config live now, List.map_map]
  rfl

end Converge
