import Converge.Proofs.Apply.Interrupted
import Converge.Proofs.Plan.Update
/-!
# Planning again after an apply that failed

An apply that fails is followed by a plan that has something to do.  What it left undone
(`Plan.Interrupted`) is something that a comparison finds: the settings are compared as they were,
a group or load balancer that is missing is created, one that differed and is still there differs
still, and an application of which nothing was written, in the cluster or in the ledger, gets the
action that it got before.  That a plan can be made at all is because no version was written that
lists a port twice.

The exception is an activation.  What serves is not compared, so when every other change was made
and the activation of the last version failed, nothing may be left to plan.

Main statement: `replan_after_failure`.
-/

namespace Converge

open Deployment Planner

/-! ## 1. What a snapshot shows of the whole world -/

/-- Whether a snapshot shows a world, where each group and load balancer that is found is there. -/
structure LiveState.Sees (live : LiveState) (w : World) : Prop where
  detail : live.detail = w.detail
  sites : live.SeenIn w.sites
  deployments : live.ShowsApplications w.deployments

/-- A snapshot shows the world as it is. -/
theorem Observe.sees {limit : Nat} {name : String} {es : List Event} {live : LiveState}
    {paging : Paging} {w : World} (ids : (w.sites.map (·.id)).Nodup)
    (h : (Observe.cluster limit name).Course es (some (.ok live)))
    (hs : w.Serves paging live.cluster.id es) : live.Sees w where
  detail := shows_detail h hs.detail
  sites := seenIn ids h hs.sites
  deployments := shows_applications h hs.deployments

namespace LiveState.ShowsApplications

variable {live live' : LiveState} {ds ds' : List Deployment} {n : String}

/-- Where no two applications have the same name, each is found by its name. -/
theorem application?_name (h : live.ShowsApplications ds) (names : (ds.map (·.name)).Nodup)
    {d : Deployment} (hd : d ∈ ds) : live.application? d.name = some d.live := by
  cases hl : live.application? d.name with
  | none =>
    have : d ∈ named d.name ds := List.mem_filter.2 ⟨hd, decide_eq_true rfl⟩
    rw [h.named_eq_nil_iff.1 hl] at this
    nomatch this
  | some l =>
    obtain ⟨e, he, rfl⟩ := h.named_of_eq_some hl
    obtain ⟨he, hn⟩ := List.mem_filter.1 he
    rw [List.inj_on_of_nodup_map names he hd (of_decide_eq_true hn)]

/-- What is found under a name depends on the applications that have it. -/
theorem application?_congr (h : live.ShowsApplications ds) (names : (ds.map (·.name)).Nodup)
    (h' : live'.ShowsApplications ds') (same : named n ds' = named n ds) :
    live'.application? n = live.application? n := by
  cases hl : live'.application? n with
  | none => exact (h.named_eq_nil_iff.2 (same ▸ h'.named_eq_nil_iff.1 hl)).symm
  | some l =>
    obtain ⟨d, hd, rfl⟩ := h'.named_of_eq_some hl
    obtain ⟨hm, hn⟩ := List.mem_filter.1 (same ▸ hd)
    obtain rfl := of_decide_eq_true hn
    exact (h.application?_name names hm).symm

end LiveState.ShowsApplications

/-! ## 2. Whether a plan can be made -/

/-- A plan that was made has compared the latest versions of the configured applications. -/
theorem portsDistinct_of_plan {desired : ClusterConfig} {live : LiveState} {ledger : SecretLedger}
    {now : Timestamp} {p : Plan} {ds : List Deployment} (h : plan desired live ledger now = .ok p)
    (shown : live.ShowsApplications ds) (names : (ds.map (·.name)).Nodup) :
    PortsDistinct (desired.applications.map (·.name)) ds := by
  intro d hd hn v hv
  obtain ⟨w, hw, hn⟩ := List.mem_map.1 hn
  have planned := exists_applicationAction_iff.1 (exists_plan_iff.1 ⟨p, h⟩ w hw)
  exact (planned d.live (hn ▸ shown.application?_name names hd) v hv).1

/-- A plan can be made where the latest versions of the configured applications can be
compared. -/
theorem exists_plan {desired : ClusterConfig} {live : LiveState} {ds : List Deployment}
    (sound : desired.Sound) (shown : live.ShowsApplications ds)
    (ports : PortsDistinct (desired.applications.map (·.name)) ds) (ledger : SecretLedger)
    (now : Timestamp) : ∃ p, plan desired live ledger now = .ok p := by
  refine exists_plan_iff.2 fun w hw => exists_applicationAction_iff.2 fun l hl v hv => ?_
  obtain ⟨d, hd, rfl⟩ := shown.named_of_eq_some hl
  obtain ⟨hd, hn⟩ := List.mem_filter.1 hd
  refine ⟨ports d hd ?_ v hv, (sound.specs w hw).portNumbers⟩
  exact of_decide_eq_true hn ▸ List.mem_map_of_mem hw

/-- An apply for a valid configuration writes no version that lists a port twice. -/
theorem ports_written {desired : ClusterConfig} {p : Plan} {ledger : SecretLedger}
    {options : ApplyOptions} {es : List Event} {out : Option (Except Failure ExecutionResult)}
    (sound : desired.Sound) (h : (execute options desired p ledger).Course es out) {id : Uuid}
    {r : CreateVersionRequest} {reply : Except Failure Int32}
    (he : .request (.createVersion id r) reply ∈ es) : (r.exposedPorts.map (·.targetPort)).Nodup := by
  obtain ⟨ms, -, asks⟩ := (Plan.followed_of_course h).attempted
  obtain ⟨m, -, ha⟩ := exists_left_of_forall₂ asks _ (List.mem_filter.2 ⟨he, rfl⟩)
  cases ha with
  | createVersion hw _ base _ =>
    have spec := sound.specs _ (List.mem_of_find?_eq_some hw)
    have ports : (ApplicationSpec.request _ base).exposedPorts = _ :=
      ApplicationSpec.inheritList_of_ne_nil spec.ports
    exact ports ▸ spec.portNumbers

/-! ## 3. What is planned again -/

namespace Planner

variable {live live' : LiveState} {sites : List Site} {groups groups' : List GroupAction}

/-- The settings are compared with what is kept of them. -/
theorem clusterAction_congr {desired : ClusterConfig} (same : live'.detail = live.detail) :
    clusterAction desired live' = clusterAction desired live := by
  simp only [clusterAction, same]

/-- A group that differed differs still, or it is gone, where the infrastructure has shrunk. -/
theorem isChange_groupAction {w : GroupConfig} {g : Group} (shows : live.Shows sites)
    (distinct : Distinct sites) (seen : live'.SeenIn sites) (hl : live.group? w.name = some g)
    (hd : Diff.group g w ≠ []) : (groupAction live' w).action.isChange := by
  have hp := groupPlanned live' w
  generalize groupAction live' w = a at hp
  cases hp with
  | missing _ => rfl
  | same hl' hd' =>
    have found := (shows.group?_eq_some_iff distinct).2 (seen.group _ _ hl')
    obtain rfl := Option.some.inj (hl.symm.trans found)
    exact absurd hd' hd
  | differs _ _ => rfl

/-- So does a load balancer. -/
theorem isChange_balancerAction {w : BalancerConfig} {b : Balancer} (shows : live.Shows sites)
    (distinct : Distinct sites) (seen : live'.SeenIn sites)
    (hl : live.balancer? w.groupName w.name = some b) (hd : Diff.balancer b w ≠ []) :
    (balancerAction live' groups' w).action.isChange := by
  have hp := balancerPlanned live' groups' w
  generalize balancerAction live' groups' w = a at hp
  cases hp with
  | ownerless _ => rfl
  | missing _ _ => rfl
  | same _ hl' hd' _ =>
    obtain ⟨s, hs, hn, hb, hm⟩ := seen.balancer _ _ _ hl'
    have found := (shows.balancer?_eq_some_iff distinct hs).2 ⟨hb, hm⟩
    rw [hn] at found
    obtain rfl := Option.some.inj (hl.symm.trans found)
    exact absurd hd' hd
  | differs _ _ _ => rfl

/-- A load balancer that is not there is created. -/
theorem creates_balancerAction {w : BalancerConfig}
    (hl : live.balancer? w.groupName w.name = none) :
    (balancerAction live groups w).action = .create := by
  have hp := balancerPlanned live groups w
  generalize balancerAction live groups w = a at hp
  cases hp with
  | ownerless _ => rfl
  | missing _ _ => rfl
  | same _ hl' _ _ => rw [hl] at hl'; nomatch hl'
  | differs _ hl' _ => rw [hl] at hl'; nomatch hl'

end Planner

namespace Planned

variable {desired : ClusterConfig} {live live' : LiveState} {before after : List Site}
  {p p' : Plan} {ledger' : SecretLedger}

/-- Where the infrastructure has shrunk since the plan was made, a group that was to be deleted is
one that is still to be recreated. -/
theorem group_pending (h : Planned desired live before p) (seen : live'.SeenIn before)
    (made : p'.MadeFrom desired live' ledger') {a : GroupAction} (ha : a ∈ p.groupActions)
    (hd : a.action.deletes) : ∃ a ∈ p'.groupActions, a.action.isChange := by
  rw [h.groupActions] at ha
  obtain ⟨w, hw, g, hl, hdiff, -⟩ := exists_group_of_deletes ha hd
  exact ⟨_, made.groupActions ▸ groupAction_mem live' hw,
    isChange_groupAction h.shows h.distinct seen hl hdiff⟩

/-- A load balancer that was to be deleted is one that is still to be recreated, or its group
is. -/
theorem balancer_pending (h : Planned desired live before p) (seen : live'.SeenIn before)
    (made : p'.MadeFrom desired live' ledger') {a : BalancerAction} (ha : a ∈ p.balancerActions)
    (hd : a.action.deletes) : (∃ a ∈ p'.groupActions, a.action.isChange) ∨
      ∃ a ∈ p'.balancerActions, a.action.isChange := by
  rw [h.balancerActions] at ha
  obtain ⟨w, hw, g, b, changes, -, hl, hdiff | hr, -⟩ := exists_balancer_of_deletes ha hd
  · exact .inr ⟨_, made.balancerActions ▸ balancerAction_mem live' p'.groupActions hw,
      isChange_balancerAction h.shows h.distinct seen hl hdiff⟩
  · rw [h.groupActions] at hr
    obtain ⟨v, hv, -, g, hl, hdiff⟩ := recreated_iff.1 hr
    exact .inl ⟨_, made.groupActions ▸ groupAction_mem live' hv,
      isChange_groupAction h.shows h.distinct seen hl hdiff⟩

/-- A group that was to be created and is not there is still to be created. -/
theorem group_missing (h : Planned desired live before p) (seen : live'.SeenIn after)
    (made : p'.MadeFrom desired live' ledger') {a : GroupAction} (ha : a ∈ p.groupActions)
    (hc : a.action.creates) (absent : ∀ t ∈ after, t.name ≠ a.name) :
    ∃ a ∈ p'.groupActions, a.action.isChange := by
  rw [h.groupActions] at ha
  obtain ⟨w, hw, hp⟩ := mem_groupActions ha (ActionType.ne_skip_of_creates hc)
  have missing : live'.group? w.name = none := by
    refine Option.eq_none_iff_forall_ne_some.2 fun g hg => ?_
    obtain ⟨t, ht, hn, -⟩ := seen.group _ _ hg
    exact absent t ht (hn.trans hp.name.symm)
  refine ⟨_, made.groupActions ▸ groupAction_mem live' hw, ?_⟩
  rw [groupAction_of_missing missing]
  rfl

/-- So is a load balancer. -/
theorem balancer_missing (h : Planned desired live before p) (seen : live'.SeenIn after)
    (made : p'.MadeFrom desired live' ledger') {a : BalancerAction} (ha : a ∈ p.balancerActions)
    (hc : a.action.creates)
    (absent : ∀ t ∈ after, t.name = a.groupName → ∀ b ∈ t.balancers, b.name ≠ a.name) :
    ∃ a ∈ p'.balancerActions, a.action.isChange := by
  rw [h.balancerActions] at ha
  obtain ⟨w, hw, hp⟩ := mem_balancerActions ha (ActionType.ne_skip_of_creates hc)
  obtain ⟨hg, hn⟩ := Prod.mk.inj hp.label
  have missing : live'.balancer? w.groupName w.name = none := by
    refine Option.eq_none_iff_forall_ne_some.2 fun b hb => ?_
    obtain ⟨t, ht, htn, hbt, hbn⟩ := seen.balancer _ _ _ hb
    exact absent t ht (htn.trans hg.symm) b hbt (hbn.trans hn.symm)
  refine ⟨_, made.balancerActions ▸ balancerAction_mem live' p'.groupActions hw, ?_⟩
  rw [creates_balancerAction missing]
  rfl

end Planned

/-- An application of which nothing was written gets the action that it got before, and one that
has no version gets one. -/
theorem ApplicationsLeft.planned_again {desired : ClusterConfig} {live live' : LiveState}
    {ledger ledger' : SecretLedger} {now now' : Timestamp} {p p' : Plan} {ms : List Mutation}
    {activate : Bool} {ds ds' : List Deployment} {es : List Event}
    (h : ApplicationsLeft p ms activate ds ds' ledger ledger' es)
    (planned : plan desired live ledger now = .ok p)
    (replanned : plan desired live' ledger' now' = .ok p') (shown : live.ShowsApplications ds)
    (names : (ds.map (·.name)).Nodup) (shown' : live'.ShowsApplications ds') :
    (∃ a ∈ p'.applicationActions, a.action.isChange) ∨ ActivationLost ms activate es := by
  -- the application that an action of the old plan was for has an action in the new one
  have action {a : ApplicationAction} (ha : a ∈ p.applicationActions) :
      ∃ w, a.name = w.name ∧ applicationAction live ledger w = .ok a ∧
        ∃ a' ∈ p'.applicationActions, applicationAction live' ledger' w = .ok a' := by
    obtain ⟨w, hw, hold⟩ := exists_left_of_forall₂ (Plan.applicationActions_of_plan planned) a ha
    exact ⟨w, (applicationPlanned hold).name, hold,
      exists_right_of_forall₂ (Plan.applicationActions_of_plan replanned) w hw⟩
  cases h with
  | @untouched a ha hwrites same agree =>
    obtain ⟨w, hn, hold, a', ha', hnew⟩ := action ha
    rw [hn] at same agree
    rw [applicationAction_congr (shown.application?_congr names shown' same) agree, hold] at hnew
    obtain rfl := Except.ok.inj hnew
    refine .inl ⟨a, ha', ?_⟩
    cases ht : a.action <;> rw [ht] at hwrites <;> first | rfl | cases hwrites
  | @unversioned a ha _ d only none =>
    obtain ⟨w, hn, -, a', ha', hnew⟩ := action ha
    refine .inl ⟨a', ha', ?_⟩
    rw [hn] at only
    cases applicationPlanned hnew with
    | missing _ => rfl
    | unversioned _ _ => rfl
    | same hl hv _ =>
      obtain ⟨e, he, rfl⟩ := shown'.named_of_eq_some hl
      obtain rfl := List.mem_singleton.1 (only ▸ he)
      rw [Deployment.live, latest, none] at hv
      cases hv
    | differs _ _ _ _ => rfl
  | unactivated lost => exact .inr lost

/-! ## 4. The whole plan -/

/-- **What an apply leaves undone is planned again**, except for an activation. -/
theorem Plan.Interrupted.planned_again {desired : ClusterConfig} {live live' : LiveState}
    {ledger ledger' : SecretLedger} {now now' : Timestamp} {p p' : Plan} {activate : Bool}
    {w w' : World} {es : List Event} (h : p.Interrupted activate w w' ledger ledger' es)
    (context : Planned desired live w.sites p) (planned : plan desired live ledger now = .ok p)
    (sees : live.Sees w) (names : (w.deployments.map (·.name)).Nodup) (again : live'.Sees w')
    (replanned : plan desired live' ledger' now' = .ok p') :
    p'.hasChanges ∨ ActivationLost (p.mutations activate) activate (mutating es) := by
  have made := Plan.madeFrom planned
  have made' := Plan.madeFrom replanned
  rw [Plan.hasChanges_iff]
  cases h with
  | settings hu same =>
    have detail : live'.detail = live.detail := (again.detail.trans same).trans sees.detail.symm
    refine .inl (.inl ?_)
    rw [made'.clusterAction, clusterAction_congr detail, ← made.clusterAction, hu]
    rfl
  | clearing shrunk ordered =>
    have seen := again.sites.mono shrunk
    rcases ordered with ⟨a, ha, hd⟩ | ⟨a, ha, hd⟩
    · rcases context.balancer_pending seen made' ha hd with found | found
      · exact .inl (.inr (.inl found))
      · exact .inl (.inr (.inr (.inl found)))
    · exact .inl (.inr (.inl (context.group_pending seen made' ha hd)))
  | group ha hc absent =>
    exact .inl (.inr (.inl (context.group_missing again.sites made' ha hc absent)))
  | balancer ha hc absent =>
    exact .inl (.inr (.inr (.inl (context.balancer_missing again.sites made' ha hc absent))))
  | applications left =>
    exact (left.planned_again planned replanned sees.deployments names again.deployments).imp_left
      fun found => .inr (.inr (.inr found))

/-- **An apply that fails is followed by a plan that has something to do.**  The configuration is
valid and nothing lives twice; the plan is made from a snapshot and the stored ledger, its apply
ends with a failure at any of its requests, and if the ledger was saved at the end, that succeeded.
Then another plan can be made from another snapshot and the ledger that is stored now, and it has
changes, unless every change of the first plan was made except the last one, which was the
activation of a version. -/
theorem replan_after_failure {desired : ClusterConfig} {latestTag : Bool} {paging : Paging}
    {limit limit' : Nat} {name : String} {live live' : LiveState} {ledger ledger' : SecretLedger}
    {now now' : Timestamp} {options : ApplyOptions} {p : Plan} {failure : Failure} {world : World}
    {observing applying again : List Event}
    (valid : (desired.check latestTag).isValid) (distinct : world.Distinct)
    (observed : (Observe.cluster limit name).Course observing (some (.ok live)))
    (planned : plan desired live ledger now = .ok p)
    (failed : (execute options desired p ledger).Course applying (some (.error failure)))
    (stored : storedAfter ledger applying = some ledger')
    (observed' : (Observe.cluster limit' name).Course again (some (.ok live')))
    (store : world.Serves paging live.cluster.id (observing ++ applying ++ again)) :
    ∃ p', plan desired live' ledger' now' = .ok p' ∧ (p'.hasChanges = true ∨
      ActivationLost (p.mutations options.activate) options.activate (mutating applying)) := by
  obtain ⟨before, served'⟩ := World.serves_append.1 store
  obtain ⟨seen, served⟩ := World.serves_append.1 before
  have reads := Observe.only_reads_cluster name observing _ observed
  rw [World.after_append, World.after_of_reads reads] at served'
  rw [World.after_of_reads reads] at served
  have sees := Observe.sees distinct.sites.ids observed seen
  obtain ⟨shows, -⟩ := Observe.shows distinct.sites observed seen.sites
  obtain ⟨cluster, context, -⟩ := Planned.of_plan valid distinct.sites shows planned
  have same : live'.cluster = live.cluster := by
    obtain ⟨found, hfound⟩ := Observe.cluster_of_directory paging world.directory name
    exact Option.some.inj ((hfound observed' served'.directory).symm.trans
      (hfound observed seen.directory))
  -- the world that the second snapshot is taken of
  have ids := ids_nodup_effects distinct.sites.ids served.sites
  have again : live'.Sees (world.after live.cluster.id applying) :=
    Observe.sees ids observed' (by rwa [same])
  have ports := portsDistinct_deployed
    (portsDistinct_of_plan planned sees.deployments distinct.applicationNames) served.deployments
    fun _ _ _ he => ports_written context.sound failed he
  obtain ⟨p', replanned⟩ := exists_plan context.sound again.deployments ports ledger' now'
  refine ⟨p', replanned, ?_⟩
  rw [← cluster] at served again
  exact (Plan.interrupted context (Plan.madeFrom planned) sees.deployments distinct.applicationIds
    failed served stored).planned_again context planned sees distinct.applicationNames again
    replanned

/-! ## 5. Applies that fail -/

namespace Retrying

/-- An apply to try: what is configured, what lives, and which requests fail. -/
structure Trial where
  desired : ClusterConfig
  world : World
  fails : Call → Bool

namespace Trial

variable (t : Trial) (p : Plan)

/-- A simulated control plane with the world of a trial. -/
def controlPlane : Simulation where
  pageSize := 10
  linger := 0
  clusters := t.world.directory
  details := [t.world.detail]
  groups := t.world.sites.map (·.group)
  balancers := t.world.sites.map fun s => (s.id, s.balancers)
  applications := t.world.deployments.map (·.application)
  versions := t.world.deployments.map fun d => (d.id, d.versions)
  summaries := []
  pending := []
  issued := 0
  outages := []

def refusal : Failure := .api (.requestFailed 500 "refused")

/-- How it answers. -/
def answer : (q : Question) → Stub Simulation → q.Reply × Stub Simulation :=
  Stub.answer fun c s => if t.fails c then (.error refusal, s) else s.answer c

/-- Versions are activated. -/
def options : ApplyOptions := ⟨⟨0, 0⟩, true, 2⟩

def observing : List Event := (Observe.cluster 2 "prod").events t.answer ⟨t.controlPlane, []⟩

def applying : List Event :=
  (execute options t.desired p .empty).events t.answer ⟨t.controlPlane, []⟩

/-- The control plane after the apply. -/
def ended : Stub Simulation :=
  (Program.run (I := Session.interface) t.answer (execute options t.desired p .empty).run
    ⟨t.controlPlane, []⟩).2

def again : List Event := (Observe.cluster 2 "prod").events t.answer (t.ended p)

/-- How an apply is tried: a plan is made from a snapshot and a ledger that is empty, its apply
fails, and another plan is made from another snapshot and the ledger that is stored then. -/
structure Replans (live : LiveState) (failure : Failure) (ledger : SecretLedger)
    (live' : LiveState) (p' : Plan) : Prop where
  valid : (t.desired.check true).isValid
  observed : (Observe.cluster 2 "prod").result t.answer ⟨t.controlPlane, []⟩ = some (.ok live)
  planned : plan t.desired live .empty .epoch = .ok p
  failed : (execute options t.desired p .empty).result t.answer ⟨t.controlPlane, []⟩ =
    some (.error failure)
  stored : storedAfter .empty (t.applying p) = some ledger
  observed' : (Observe.cluster 2 "prod").result t.answer (t.ended p) = some (.ok live')
  store : t.world.Serves .single live.cluster.id (t.observing ++ t.applying p ++ t.again p)
  replanned : plan t.desired live' ledger .epoch = .ok p'

end Trial

def worldOf (sites : List Site) (deployments : List Deployment) : World :=
  ⟨[⟨.ofNat 1, "prod"⟩], ⟨.ofNat 1, "prod", "", false⟩, sites, deployments⟩

def planOf (groups : List GroupAction) (applications : List ApplicationAction) : Plan :=
  ⟨⟨"prod", .ofNat 1⟩, .noop, groups, [], applications, [], .epoch⟩

def application : Application := ⟨.ofNat 2, "web", .ofNat 1, some 1⟩

/-- An application lives with a version that differs from the configured one, and no further
version can be written. -/
def unwritten : Trial where
  desired := Update.configOf Update.fullSpec
  world := worldOf [] [⟨application, [Update.live]⟩]
  fails | .createVersion _ _ => true | _ => false

/-- What is observed of the application. -/
def showing (v : ApplicationVersion) : LiveState :=
  ⟨⟨"prod", .ofNat 1⟩, ⟨.ofNat 1, "prod", "", false⟩, [], .empty, [⟨application, some v⟩]⟩

def updating : Plan :=
  planOf [] [⟨"web", .update, some application.id,
    ["CPU: 500 -> 1000", "Cmd: run -> serve", "Env add: TOKEN (secret)"]⟩]

/-- After the apply the plan is the same as before it. -/
theorem replan_after_unwritten :
    ∃ p', plan unwritten.desired (showing Update.live) .empty .epoch = .ok p' ∧ p'.hasChanges := by
  have tried : unwritten.Replans updating (showing Update.live)
      (.stage .applications "web" Trial.refusal) .empty (showing Update.live) updating := by
    constructor <;> decide +kernel
  have distinct : unwritten.world.Distinct :=
    ⟨by constructor <;> decide, by decide +kernel, by decide +kernel⟩
  obtain ⟨p', replanned, changes | lost⟩ := replan_after_failure tried.valid distinct
    (Session.course_of_result tried.observed) tried.planned
    (Session.course_of_result tried.failed) tried.stored
    (Session.course_of_result tried.observed') tried.store
  · exact ⟨p', replanned, changes⟩
  · exact absurd lost.all (by decide +kernel)

/-- The version can be written and not activated. -/
def unactivated : Trial :=
  { unwritten with fails := fun | .updateApplication _ _ => true | _ => false }

/-- The version that is written. -/
def written : ApplicationVersion :=
  Simulation.stored 2 (Update.fullSpec.request (some Update.live))

/-- Two groups live under the name of a configured one, the second as configured, and no group can
be created. -/
def twins : Trial where
  desired := { Rebuilding.desired with balancers := [] }
  world := worldOf
    [⟨⟨.ofNat 2, "web", "is1a", "cloud/1core", 1, 4, [], [⟨0, "net", true, [], none, none, none⟩]⟩,
        []⟩,
      ⟨⟨.ofNat 3, "web", "is1a", "cloud/1core", 2, 4, [], [⟨0, "net", true, [], none, none, none⟩]⟩,
        []⟩] []
  fails | .createGroup _ _ => true | _ => false

/-- What is observed of the groups. -/
def showingGroups (groups : List Group) : LiveState :=
  ⟨⟨"prod", .ofNat 1⟩, ⟨.ofNat 1, "prod", "", false⟩, groups, .ofList [("web", [])], []⟩

/-- Nothing is left to plan when the activation of the only version has failed.  Where two groups
have the same name, nothing may be left to plan either: when one of them was deleted and could not
be created again, the other one is found in its place. -/
theorem replan_empty_after_failure :
    (∃ p', unactivated.Replans updating (showing Update.live)
      (.stage .applications "web" Trial.refusal)
      (SecretLedger.empty.record "web" Update.fullSpec).1 (showing written) p' ∧
      p'.hasChanges = false) ∧
    ∃ p p', twins.Replans p (showingGroups (twins.world.sites.map (·.group)))
      (.stage .createGroups "web" Trial.refusal) .empty
      (showingGroups ((twins.world.sites.drop 1).map (·.group))) p' ∧ p'.hasChanges = false := by
  refine ⟨⟨planOf [] [⟨"web", .noop, some application.id, []⟩], ?_, rfl⟩,
    planOf [⟨"web", .recreate, some (.ofNat 2), ["MinNodes: 1 -> 2"]⟩] [],
    planOf [⟨"web", .noop, some (.ofNat 3), []⟩] [], ?_, rfl⟩
  · constructor <;> decide +kernel
  · constructor <;> decide +kernel

end Retrying

end Converge
