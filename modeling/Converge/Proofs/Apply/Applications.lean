import Converge.Proofs.Apply.Interrupted
/-!
# The applications after an apply

An apply without a failure leaves each application as its action says: one that was to be created
is there once with one version, one that was to be updated has one version more, written over the
latest of those it had, and all others are as they were.  A version that was written serves if
that was asked for.

A step finds what it needs where the plan was made for what lives (`ApplicationAction.Fits`); that
stays so while the steps for other applications are taken, because these leave it alone.

Main statement: `applications_after_apply`.
-/

namespace Converge

open Deployment

/-! ## 1. A further version -/

/-- Whether `d'` is `d` with one version more, which was accepted with the request `r` among the
events `es`; it has a higher number than those before, and it serves if versions are activated. -/
def Deployment.Receives (r : CreateVersionRequest) (activate : Bool) (es : List Event)
    (d d' : Deployment) : Prop :=
  ∃ number, (∀ v ∈ d.versions, v.version < number) ∧
    .request (.createVersion d.id r) (.ok number) ∈ es ∧
    d' = if activate then (d.adding number r).serving (some number) else d.adding number r

theorem Deployment.Receives.mono {r : CreateVersionRequest} {activate : Bool}
    {es fs : List Event} {d d' : Deployment} (h : d.Receives r activate es d') (hs : es ⊆ fs) :
    d.Receives r activate fs d' := by
  obtain ⟨number, above, sent, hd⟩ := h
  exact ⟨number, above, hs sent, hd⟩

/-- What becomes of an application with the action for it. -/
inductive ApplicationDone (desired : ClusterConfig) (cluster : Uuid) (activate : Bool)
    (before after : List Deployment) (es : List Event) (a : ApplicationAction) : Prop where
  | created {w id d} (planned : a.action = .create) (hw : desired.application? a.name = some w)
      (absent : named a.name before = []) (only : named a.name after = [d])
      (h : (fresh id a.name cluster).Receives (w.spec.request none) activate es d)
  | updated {w d d'} (planned : a.action = .update) (hw : desired.application? a.name = some w)
      (was : named a.name before = [d]) (only : named a.name after = [d'])
      (h : d.Receives (w.spec.request d.latest) activate es d')
  | unchanged (planned : a.action = .noop) (same : named a.name after = named a.name before)

/-- It concerns the applications of its name only. -/
theorem ApplicationDone.congr {desired : ClusterConfig} {cluster : Uuid} {activate : Bool}
    {before before' after after' : List Deployment} {es fs : List Event} {a : ApplicationAction}
    (h : ApplicationDone desired cluster activate before after es a)
    (was : named a.name before' = named a.name before)
    (now : named a.name after' = named a.name after) (hs : es ⊆ fs) :
    ApplicationDone desired cluster activate before' after' fs a := by
  cases h with
  | created planned hw absent only received =>
    exact .created planned hw (was.trans absent) (now.trans only) (received.mono hs)
  | updated planned hw present only received =>
    exact .updated planned hw (was.trans present) (now.trans only) (received.mono hs)
  | unchanged planned same => exact .unchanged planned (now.trans (same.trans was.symm))

/-- Whether an action is one for what lives: what it creates is not there, and otherwise it has the
identifier of the only application of its name. -/
structure ApplicationAction.Fits (a : ApplicationAction) (ds : List Deployment) : Prop where
  absent : a.action = .create → named a.name ds = []
  present : a.action ≠ .create → ∃ d, named a.name ds = [d] ∧ a.applicationId = some d.id

theorem ApplicationAction.Fits.congr {a : ApplicationAction} {ds ds' : List Deployment}
    (h : a.Fits ds) (same : named a.name ds' = named a.name ds) : a.Fits ds' where
  absent hc := same.trans (h.absent hc)
  present hc := by
    obtain ⟨d, only, hi⟩ := h.present hc
    exact ⟨d, same.trans only, hi⟩

theorem ApplicationAction.Fits.identified {a : ApplicationAction} {ds : List Deployment}
    (h : a.Fits ds) : a.Identified ds := by
  intro hc
  obtain ⟨d, only, hi⟩ := h.present hc
  obtain ⟨hd, hn⟩ := mem_of_named_eq only
  exact ⟨d.id, hi, mem_keys_iff.2 ⟨d, hd, rfl, hn⟩⟩

/-! ## 2. One step -/

/-- The requests that write a version: it is created, and activated if that was asked for. -/
def versionWritten (activate : Bool) (id : Uuid) (r : CreateVersionRequest) (number : Int32) :
    List Event :=
  .request (.createVersion id r) (.ok number) ::
    if activate then [.request (.updateApplication id ⟨some number⟩) (.ok ())] else []

theorem ActionType.eq_update_of_writes {t : ActionType} (h : t.writesVersion)
    (hc : t ≠ .create) : t = .update := by
  cases t with
  | update => rfl
  | create => exact absurd rfl hc
  | _ => cases h

/-- A version that is written for the only application of a name. -/
theorem receives_versionWritten {paging : Paging} {cluster : Uuid} {ds : List Deployment}
    {activate : Bool} {d : Deployment} {n : String} {r : CreateVersionRequest} {number : Int32}
    (only : named n ds = [d])
    (hs : (Part.applications paging cluster).Serves ds (versionWritten activate d.id r number)) :
    ∃ d', named n (deployed cluster ds (versionWritten activate d.id r number)) = [d'] ∧
      d.Receives r activate (versionWritten activate d.id r number) d' := by
  have above : ∀ v ∈ d.versions, v.version < number :=
    of_decide_eq_true (Bool.and_eq_true_iff.1 hs).1 d (mem_of_named_eq only).1 rfl
  have added : named n (change d.id (·.adding number r) ds) = [d.adding number r] :=
    named_change_singleton (keeps_adding number r) only
  refine ⟨_, ?_, number, above, List.mem_cons_self, rfl⟩
  cases activate with
  | false => exact added
  | true => exact named_change_singleton (keeps_serving (some number)) added

namespace ApplyContext

variable {c : ApplyContext} {p q : Progress} {es : List Event} {ds : List Deployment}
  {paging : Paging} {a : ApplicationAction}

/-- A step for an application that succeeds has written a version for its target. -/
theorem Acts.wrote {u : Unit} (h : c.Acts (.application a) p es (some (.ok u, q))) :
    ∃ w fs id base r number, c.desired.application? a.name = some w ∧
      c.Targets a p fs (some (.ok (id, base), r)) ∧
      es = fs ++ versionWritten c.activate id (w.spec.request base) number := by
  generalize ho : some (Except.ok u, q) = out at h
  cases h with
  | applicationUnknown _ => nomatch ho
  | @applicationUntargeted _ _ w fs o hw ht hn =>
    obtain _ | ⟨_ | t, q'⟩ := o
    · nomatch ho
    · nomatch ho
    · exact absurd rfl (hn t q')
  | versionRefused _ _ => nomatch ho
  | versionKept hw ht hn => exact ⟨_, _, _, _, _, _, hw, ht, by rw [hn]; rfl⟩
  | versionActivated hw ht hy reply =>
    obtain _ | _ := reply
    · nomatch ho
    · exact ⟨_, _, _, _, _, _, hw, ht, by rw [hy]; rfl⟩

/-- **What a step for an application leaves that succeeds.** -/
theorem Acts.application_done {u : Unit} (h : c.Acts (.application a) p es (some (.ok u, q)))
    (fits : a.Fits ds) (writes : a.action.writesVersion)
    (hs : (Part.applications paging c.cluster.id).Serves ds es) :
    ApplicationDone c.desired c.cluster.id c.activate ds (deployed c.cluster.id ds es) es a := by
  obtain ⟨w, fs, id, base, r, number, hw, ht, rfl⟩ := h.wrote
  obtain ⟨found, served⟩ := serves_deployed.1 hs
  generalize ho : some (Except.ok (id, base), r) = out at ht
  rw [deployed_append]
  cases ht with
  | created hc =>
    cases ho
    rw [deployed_created] at served ⊢
    have only : named a.name (ds ++ [fresh id a.name c.cluster.id]) =
        [fresh id a.name c.cluster.id] := by
      rw [named, List.filter_append, ← named, fits.absent hc, List.nil_append]
      exact List.filter_cons_of_pos (decide_eq_true rfl)
    obtain ⟨d, now, received⟩ := receives_versionWritten only served
    exact .created hc hw (fits.absent hc) now (received.mono (List.subset_append_right _ _))
  | refused _ => cases ho
  | unidentified _ _ => cases ho
  | @based id' _ o hc hi hb =>
    obtain _ | _ | base' := o <;> cases ho
    obtain ⟨d, only, hid⟩ := fits.present hc
    obtain rfl := Option.some.inj (hi.symm.trans hid)
    have reads := (Observe.reads_latestVersion _ _).only _ _ hb
    rw [deployed_of_reads reads] at served ⊢
    obtain rfl :=
      Observe.latestVersion_eq (mem_of_named_eq only).1 hb (Part.serves_of_reads reads found)
    obtain ⟨d', now, received⟩ := receives_versionWritten only served
    exact .updated (ActionType.eq_update_of_writes writes hc) hw only now
      (received.mono (List.subset_append_right _ _))

/-! ## 3. All steps -/

/-- **What the steps for applications leave**, by induction over the steps: each action is done when
its step is taken, and the steps for other applications leave it so. -/
theorem ActsAll.applications_done {u : Unit} {l : List ApplicationAction}
    (h : c.ActsAll (l.map .application) p es (some (.ok u, q))) (fits : ∀ a ∈ l, a.Fits ds)
    (writes : ∀ a ∈ l, a.action.writesVersion) (names : (l.map (·.name)).Nodup)
    (ids : (ds.map (·.id)).Nodup)
    (hs : (Part.applications paging c.cluster.id).Serves ds es) :
    ∀ a ∈ l, ApplicationDone c.desired c.cluster.id c.activate ds (deployed c.cluster.id ds es)
      es a := by
  induction l generalizing p es ds with
  | nil => exact fun _ ha => nomatch ha
  | cons b rest ih =>
    cases h with
    | @cons _ _ _ _ as bs _ hb hrest =>
    obtain ⟨hs, hsrest⟩ := serves_deployed.1 hs
    obtain ⟨hname, names⟩ := List.nodup_cons.1 names
    have identified : ∀ a ∈ b :: rest, a.Identified ds := fun a ha => (fits a ha).identified
    have ids' := ids_nodup_deployed ids hs
    -- the first step leaves the applications of the others alone
    have still {a : ApplicationAction} (ha : a ∈ rest) :
        named a.name (deployed c.cluster.id ds as) = named a.name ds :=
      hb.spares_others (identified b List.mem_cons_self) ids hs fun he =>
        hname (List.mem_map.2 ⟨a, ha, he.symm⟩)
    rw [deployed_append]
    refine List.forall_mem_cons.2 ⟨?_, fun a ha => ?_⟩
    · have done := hb.application_done (fits b List.mem_cons_self) (writes b List.mem_cons_self) hs
      refine done.congr rfl ?_ (List.subset_append_left _ _)
      refine hrest.spares_others (fun a ha => ?_) ids' hsrest hname
      exact (identified a (List.mem_cons_of_mem _ ha)).mono (keys_deployed as _ ds)
    · have later := ih hrest
        (fun a ha => (fits a (List.mem_cons_of_mem _ ha)).congr (still ha))
        (fun a ha => writes a (List.mem_cons_of_mem _ ha)) names ids' hsrest a ha
      exact later.congr (still ha).symm rfl (List.subset_append_right _ _)

end ApplyContext

/-! ## 4. The whole apply -/

/-- A plan that was made from a snapshot fits what the snapshot shows. -/
theorem Plan.MadeFrom.fits {p : Plan} {desired : ClusterConfig} {live : LiveState}
    {ledger : SecretLedger} {ds : List Deployment} {a : ApplicationAction}
    (h : p.MadeFrom desired live ledger) (shown : live.ShowsApplications ds)
    (names : (ds.map (·.name)).Nodup) (ha : a ∈ p.applicationActions) : a.Fits ds where
  absent hc := h.absent shown ha hc
  present hc := by
    obtain ⟨id, hi, hm⟩ := h.identified shown ha hc
    obtain ⟨d, hd, rfl, hn⟩ := mem_keys_iff.1 hm
    exact ⟨d, filter_key_eq_singleton names hd hn, hi⟩

/-- An application gets a version unless there is nothing to do for it. -/
theorem Plan.MadeFrom.noop_of_not_writes {p : Plan} {desired : ClusterConfig} {live : LiveState}
    {ledger : SecretLedger} {a : ApplicationAction} (h : p.MadeFrom desired live ledger)
    (ha : a ∈ p.applicationActions) (hw : a.action.writesVersion = false) : a.action = .noop := by
  obtain ⟨w, -, planned⟩ := h.application ha
  cases planned with
  | missing _ => nomatch hw
  | unversioned _ _ => nomatch hw
  | same _ _ _ => rfl
  | differs _ _ _ _ => nomatch hw

/-- **What the stage for the applications leaves** of all those that live. -/
theorem Plan.MadeFrom.applications_done {p : Plan} {live : LiveState} {known : SecretLedger}
    {c : ApplyContext} {q r : Progress} {es : List Event} {ds : List Deployment} {u : Unit}
    {paging : Paging} (made : p.MadeFrom c.desired live known) (sound : c.desired.Sound)
    (shown : live.ShowsApplications ds) (names : (ds.map (·.name)).Nodup)
    (ids : (ds.map (·.id)).Nodup)
    (h : c.ActsAll ((p.applicationActions.filter (·.action.writesVersion)).map .application) q es
      (some (.ok u, r)))
    (hs : (Part.applications paging c.cluster.id).Serves ds es) :
    (∀ a ∈ p.applicationActions, ApplicationDone c.desired c.cluster.id c.activate ds
      (deployed c.cluster.id ds es) es a) ∧
    ∀ n, c.desired.application? n = none →
      named n (deployed c.cluster.id ds es) = named n ds := by
  have distinct : (p.applicationActions.map (·.name)).Nodup :=
    made.applicationNames ▸ sound.applicationNames
  have fits : ∀ a ∈ p.applicationActions, a.Fits ds := fun a ha => made.fits shown names ha
  have spared {n : String}
      (hn : n ∉ (p.applicationActions.filter (·.action.writesVersion)).map (·.name)) :
      named n (deployed c.cluster.id ds es) = named n ds :=
    h.spares_others (fun a ha => (fits a (List.mem_filter.1 ha).1).identified) ids hs hn
  refine ⟨fun a ha => ?_, fun n hn => spared fun hm => ?_⟩
  · cases hw : a.action.writesVersion with
    | true =>
      exact h.applications_done (fun b hb => fits b (List.mem_filter.1 hb).1)
        (fun b hb => (List.mem_filter.1 hb).2) (distinct.sublist (List.filter_sublist.map _)) ids
        hs a (List.mem_filter.2 ⟨ha, hw⟩)
    | false =>
      refine .unchanged (made.noop_of_not_writes ha hw) (spared fun hm => ?_)
      obtain ⟨b, hb, hn⟩ := List.mem_map.1 hm
      obtain ⟨hb, hbw⟩ := List.mem_filter.1 hb
      obtain rfl := List.inj_on_of_nodup_map distinct hb ha hn
      rw [hw] at hbw
      nomatch hbw
  · obtain ⟨a, ha, rfl⟩ := List.mem_map.1 hm
    have configured : a.name ∈ c.desired.applications.map (·.name) :=
      made.applicationNames ▸ List.mem_map_of_mem (List.mem_filter.1 ha).1
    obtain ⟨w, hw, hwn⟩ := List.mem_map.1 configured
    exact List.find?_eq_none.1 hn w hw (decide_eq_true hwn)

/-- **After an apply the applications are what the plan says.**  The configuration is valid, and no
two applications that live have the same name or identifier; the plan is made from a snapshot of a
control plane that behaves like a store, and is applied to it without a failure.  Then each action
for an application is done, and an application that is not configured is as it was. -/
theorem applications_after_apply {desired : ClusterConfig} {latestTag : Bool} {paging : Paging}
    {limit : Nat} {name : String} {live : LiveState} {known ledger : SecretLedger}
    {now : Timestamp} {options : ApplyOptions} {p : Plan} {result : ExecutionResult}
    {before : List Deployment} {observing applying : List Event}
    (valid : (desired.check latestTag).isValid) (names : (before.map (·.name)).Nodup)
    (ids : (before.map (·.id)).Nodup)
    (observed : (Observe.cluster limit name).Course observing (some (.ok live)))
    (planned : plan desired live known now = .ok p)
    (applied : (execute options desired p ledger).Course applying (some (.ok result)))
    (store : (Part.applications paging live.cluster.id).Serves before (observing ++ applying)) :
    (∀ a ∈ p.applicationActions, ApplicationDone desired live.cluster.id options.activate before
      (deployed live.cluster.id before (observing ++ applying)) applying a) ∧
    ∀ n, desired.application? n = none →
      named n (deployed live.cluster.id before (observing ++ applying)) = named n before := by
  have sound := ClusterConfig.sound_of_isValid valid
  have made := Plan.madeFrom planned
  obtain ⟨seen, served⟩ := serves_deployed.1 store
  have shown := Observe.shows_applications observed seen
  have reads := Observe.only_reads_cluster name observing _ observed
  rw [deployed_append]
  rw [deployed_of_reads reads, ← made.cluster] at served ⊢
  rcases execute_cases applied with ⟨-, ho⟩ | ⟨as, bs, r, q, saved, rfl, ran, saves, ho⟩
  · nomatch ho
  obtain f | u := r
  · nomatch ho
  -- the stages before leave the applications alone, and so does saving the ledger
  obtain ⟨infrastructure, writing, middle, rfl, before_them, writes⟩ := ran.append_ok
  have same := before_them.spares_applications p.application_notMem_infrastructure p.cluster.id
    before
  obtain ⟨served, -⟩ := serves_deployed.1 served
  obtain ⟨-, served⟩ := serves_deployed.1 served
  rw [same] at served
  rw [deployed_append, deployed_append, same, saves.deployed_eq]
  obtain ⟨done, others⟩ := made.applications_done (c := p.context options desired) sound shown
    names ids writes served
  refine ⟨fun a ha => (done a ha).congr rfl rfl fun e he => ?_, others⟩
  exact List.mem_append_left _ (List.mem_append_right _ he)

/-! ## 5. Four applications -/

namespace Releasing

/-- A spec that leaves the command open. -/
def spec : ApplicationSpec where
  cpu := 1000
  memory := 1024
  scalingMode := "manual"
  fixedScale := some 1
  minScale := none
  maxScale := none
  scaleInThreshold := none
  scaleOutThreshold := none
  image := "nginx"
  cmd := []
  registryUsername := none
  registryPassword := none
  registryPasswordVersion := none
  exposedPorts := [⟨80, none, false, [], none⟩]
  env := []

/-- Three applications with this spec. -/
def desired : ClusterConfig where
  clusterName := "prod"
  cluster := none
  groups := []
  balancers := []
  applications := [⟨"web", spec⟩, ⟨"api", spec⟩, ⟨"job", spec⟩]

/-- A version with other resources and another command. -/
def version (number : Int32) (cpu : Int64) (cmd : List String) : ApplicationVersion :=
  Simulation.stored number { spec.request none with cpu := cpu, cmd := cmd }

def deployment (id : Nat) (name : String) (active : Option Int32)
    (versions : List ApplicationVersion) : Deployment :=
  ⟨⟨.ofNat id, name, .ofNat 1, active⟩, versions⟩

/-- One of them does not live, one lives with two other versions, the later one first, and one lives
as configured; there is a fourth one, which is not configured. -/
def before : List Deployment :=
  [deployment 2 "api" (some 3) [version 7 250 ["serve"], version 3 500 ["run"]],
    deployment 3 "job" (some 1) [version 1 1000 []],
    deployment 4 "old" none [version 1 500 []]]

/-- The first version of one is written over none, and the third of the other over the one with the
highest number, from which it has the command. -/
def after : List Deployment :=
  [deployment 2 "api" (some 8)
      [version 7 250 ["serve"], version 3 500 ["run"], version 8 1000 ["serve"]],
    deployment 3 "job" (some 1) [version 1 1000 []],
    deployment 4 "old" none [version 1 500 []],
    deployment 0xf0000000000000000000000000000001 "web" (some 1) [version 1 1000 []]]

/-- A simulated control plane with these applications. -/
def controlPlane : Simulation where
  pageSize := 10
  linger := 0
  clusters := [⟨.ofNat 1, "prod"⟩]
  details := [⟨.ofNat 1, "prod", "", false⟩]
  groups := []
  balancers := []
  applications := before.map (·.application)
  versions := before.map fun d => (d.id, d.versions)
  summaries := []
  pending := []
  issued := 0
  outages := []

/-- What is observed of it. -/
def live : LiveState where
  cluster := ⟨"prod", .ofNat 1⟩
  detail := ⟨.ofNat 1, "prod", "", false⟩
  groups := []
  balancers := .empty
  applications := before.map (·.live)

/-- The plan that follows. -/
def plan : Plan where
  cluster := live.cluster
  clusterAction := .noop
  groupActions := []
  balancerActions := []
  applicationActions :=
    [⟨"web", .create, none, Diff.describeApplication "web" spec .empty⟩,
      ⟨"api", .update, some (.ofNat 2), ["CPU: 250 -> 1000", "Cmd: serve -> \"\""]⟩,
      ⟨"job", .noop, some (.ofNat 3), []⟩]
  warnings := ["application \"old\" exists in the cluster but is not in YAML"]
  createdAt := .epoch

/-- How the control plane answers. -/
def answer : (q : Question) → Stub Simulation → q.Reply × Stub Simulation :=
  Stub.answer fun c s => s.answer c

def observing : List Event := (Observe.cluster 2 "prod").events answer ⟨controlPlane, []⟩

/-- Versions are activated. -/
def applying : List Event :=
  (execute ⟨⟨0, 0⟩, true, 2⟩ desired plan .empty).events answer ⟨controlPlane, []⟩

/-- The version with the highest number is the one that is inherited from, though it is not the
one that was serving. -/
theorem applications_done_after :
    (∀ a ∈ plan.applicationActions,
      ApplicationDone desired (.ofNat 1) true before after applying a) ∧
    ∀ n, desired.application? n = none → named n after = named n before := by
  have valid : (desired.check true).isValid := by decide +kernel
  have names : (before.map (·.name)).Nodup := by decide +kernel
  have ids : (before.map (·.id)).Nodup := by decide +kernel
  have observed : (Observe.cluster 2 "prod").Course observing (some (.ok live)) :=
    Session.course_of_result (by decide +kernel)
  have planned : Converge.plan desired live .empty .epoch = .ok plan := by decide +kernel
  have applied : (execute ⟨⟨0, 0⟩, true, 2⟩ desired plan .empty).Course applying
      (some (.ok ⟨false, [], [], [], [], ["web"], [⟨"web", 1, true⟩, ⟨"api", 8, true⟩], false⟩)) :=
    Session.course_of_result (by decide +kernel)
  have store : (Part.applications .single live.cluster.id).Serves before
      (observing ++ applying) := by decide +kernel
  have final : deployed live.cluster.id before (observing ++ applying) = after := by
    decide +kernel
  exact final ▸ applications_after_apply valid names ids observed planned applied store

end Releasing

end Converge
