import Converge.Proofs.Apply.Rebuild
import Converge.Proofs.Config.Validation
import Converge.Proofs.Ledger.Recording
import Converge.Proofs.Plan.Infrastructure
import Converge.Simulation.Stub
/-!
# The infrastructure after an apply

A plan that was made from a snapshot is applied to the infrastructure that the snapshot shows.
What is configured lives then exactly once and as configured, what is not configured is left
alone, and nothing else has come to live.  The exception is a load balancer that is not configured
while its group is recreated: it goes with the group, and the plan warns of it.

`Planned` gathers what is known of the plan.  From it follows who is deleted
(`Planned.mem_lostGroups_iff`, `Planned.mem_lostBalancers_iff`); what `Plan.Rebuilt` says of any
plan follows what is created, and that nothing is there twice afterwards.

Main statement: `infrastructure_after_apply`.
-/

namespace Converge

open Planner

theorem ClusterConfig.Sound.balancer_unique {c : ClusterConfig} (h : c.Sound)
    {v w : BalancerConfig} (hv : v ∈ c.balancers) (hw : w ∈ c.balancers)
    (hg : v.groupName = w.groupName) (hn : v.name = w.name) : v = w :=
  List.inj_on_of_nodup_map h.balancerNames hv hw (Prod.ext hg hn)

/-- A plan for a valid configuration, made from a snapshot that shows the infrastructure. -/
structure Planned (desired : ClusterConfig) (live : LiveState) (before : List Site)
    (plan : Plan) : Prop where
  sound : desired.Sound
  distinct : Distinct before
  shows : live.Shows before
  groupActions : plan.groupActions = Planner.groupActions desired live
  balancerActions : plan.balancerActions = Planner.balancerActions desired live plan.groupActions

namespace Planned

variable {desired : ClusterConfig} {live : LiveState} {before : List Site} {plan : Plan}

theorem of_plan {latestTag : Bool} {ledger : SecretLedger} {now : Timestamp}
    (valid : (desired.check latestTag).isValid) (distinct : Distinct before)
    (shows : live.Shows before) (h : Converge.plan desired live ledger now = .ok plan) :
    plan.cluster = live.cluster ∧ Planned desired live before plan ∧
      ∀ line ∈ lossWarnings desired live plan.groupActions, line ∈ plan.warnings := by
  unfold Converge.plan at h
  dsimp only at h
  cases ha : applicationActions desired live ledger with
  | error f => rw [ha] at h; nomatch h
  | ok applications =>
    rw [ha] at h
    obtain rfl := Except.ok.inj h
    exact ⟨rfl, ⟨ClusterConfig.sound_of_isValid valid, distinct, shows, rfl, rfl⟩,
      fun _ h => List.mem_append_left _ h⟩

/-! ## 1. What is deleted -/

/-- The groups that are deleted are those that are recreated. -/
theorem mem_lostGroups_iff (h : Planned desired live before plan) {s : Site} (hs : s ∈ before) :
    s.id ∈ plan.lostGroups ↔ recreated plan.groupActions s.name := by
  rw [Plan.lostGroups, List.mem_filterMap, h.groupActions]
  constructor
  · rintro ⟨a, ha, hid⟩
    obtain ⟨hm, hdel⟩ := List.mem_filter.1 ha
    obtain ⟨w, hw, g, hg, hd, rfl⟩ := exists_group_of_deletes hm hdel
    obtain ⟨t, ht, hn, rfl⟩ := (h.shows.group?_eq_some_iff h.distinct).1 hg
    obtain rfl := List.inj_on_of_nodup_map h.distinct.ids ht hs (Option.some.inj hid)
    exact Planner.recreated_iff.2 ⟨w, hw, hn.symm, _, hg, hd⟩
  · intro hr
    obtain ⟨w, hw, hn, g, hg, hd⟩ := Planner.recreated_iff.1 hr
    obtain ⟨t, ht, htn, rfl⟩ := (h.shows.group?_eq_some_iff h.distinct).1 hg
    obtain rfl := List.inj_on_of_nodup_map h.distinct.names ht hs (htn.trans hn)
    refine ⟨_, List.mem_filter.2 ⟨groupAction_mem live hw, ?_⟩, ?_⟩ <;>
      rw [groupAction_of_differs hg hd] <;> rfl

/-- The load balancers that are deleted are those that are configured and have differences, or
that are configured under a group that is recreated. -/
theorem mem_lostBalancers_iff (h : Planned desired live before plan) {s : Site}
    (hs : s ∈ before) {b : Balancer} (hb : b ∈ s.balancers) :
    (s.id, b.id) ∈ plan.lostBalancers ↔
      ∃ w ∈ desired.balancers, w.groupName = s.name ∧ w.name = b.name ∧
        (Diff.balancer b w ≠ [] ∨ recreated plan.groupActions s.name) := by
  rw [Plan.lostBalancers, List.mem_filterMap, h.balancerActions]
  constructor
  · rintro ⟨a, ha, htarget⟩
    obtain ⟨hm, hdel⟩ := List.mem_filter.1 ha
    obtain ⟨w, hw, g, b', changes, hg, hl, hd, rfl⟩ := exists_balancer_of_deletes hm hdel
    obtain ⟨t, ht, hn, rfl⟩ := (h.shows.group?_eq_some_iff h.distinct).1 hg
    obtain ⟨hid, hbid⟩ := Prod.mk.inj (Option.some.inj htarget)
    obtain rfl := List.inj_on_of_nodup_map h.distinct.ids ht hs hid
    rw [← hn] at hl hd
    obtain ⟨hm, hname⟩ := (h.shows.balancer?_eq_some_iff h.distinct hs).1 hl
    obtain rfl := List.inj_on_of_nodup_map (h.distinct.balancerIds t hs) hm hb hbid
    exact ⟨w, hw, hn.symm, hname.symm, hd⟩
  · rintro ⟨w, hw, hg, hn, hd⟩
    have owner : live.group? w.groupName = some s.group :=
      (h.shows.group?_eq_some_iff h.distinct).2 ⟨s, hs, hg.symm, rfl⟩
    have found : live.balancer? w.groupName w.name = some b := by
      rw [hg]
      exact (h.shows.balancer?_eq_some_iff h.distinct hs).2 ⟨hb, hn.symm⟩
    have drift : Diff.balancer b w ≠ [] ∨ recreated plan.groupActions w.groupName := by
      rwa [hg]
    obtain ⟨changes, hp⟩ := balancerAction_of_differs owner found drift
    refine ⟨_, List.mem_filter.2 ⟨balancerAction_mem live plan.groupActions hw, ?_⟩, ?_⟩ <;>
      rw [hp] <;> rfl

/-- What the plan leaves: the groups that are not recreated. -/
theorem mem_kept_iff (h : Planned desired live before plan) {t : Site} :
    t ∈ plan.kept before ↔ ∃ s ∈ before, recreated plan.groupActions s.name = false ∧
      t = s.without plan.lostBalancers := by
  rw [Plan.kept, List.mem_filter, List.mem_map]
  constructor
  · rintro ⟨⟨s, hs, rfl⟩, hid⟩
    refine ⟨s, hs, ?_, rfl⟩
    have : s.id ∉ plan.lostGroups := of_decide_eq_true hid
    rw [h.mem_lostGroups_iff hs] at this
    simpa using this
  · rintro ⟨s, hs, hr, rfl⟩
    refine ⟨⟨s, hs, rfl⟩, decide_eq_true ?_⟩
    change s.id ∉ plan.lostGroups
    rw [h.mem_lostGroups_iff hs, hr]
    exact Bool.false_ne_true

/-! ## 2. What is created -/

section

variable {newGroups : List Site} {newBalancers : List (Uuid × Balancer)}

/-- What lives under the name of a group that is to be created is recreated. -/
theorem recreated_of_creates (h : Planned desired live before plan) {a : GroupAction}
    (ha : a ∈ plan.groupActions) (hc : a.action.creates) {s : Site} (hs : s ∈ before)
    (hn : s.name = a.name) : recreated plan.groupActions s.name := by
  rw [h.groupActions] at ha ⊢
  obtain ⟨w, hw, hp⟩ := mem_groupActions ha (ActionType.ne_skip_of_creates hc)
  have found : live.group? w.name = some s.group :=
    (h.shows.group?_eq_some_iff h.distinct).2 ⟨s, hs, hn.trans hp.name, rfl⟩
  cases hp with
  | missing hl => rw [found] at hl; nomatch hl
  | same _ _ => nomatch hc
  | differs hl hd => exact Planner.recreated_iff.2 ⟨w, hw, hn.symm, _, hl, hd⟩

/-- So nothing is left under it. -/
theorem name_ne_of_kept (h : Planned desired live before plan) {a : GroupAction}
    (ha : a ∈ plan.groupActions) (hc : a.action.creates) {t : Site} (ht : t ∈ plan.kept before) :
    t.name ≠ a.name := by
  intro hn
  obtain ⟨s, hs, hkeep, rfl⟩ := h.mem_kept_iff.1 ht
  rw [h.recreated_of_creates ha hc hs hn] at hkeep
  nomatch hkeep

/-- What lives under the label of a load balancer that is to be created is deleted. -/
theorem lost_of_creates (h : Planned desired live before plan) {a : BalancerAction}
    (ha : a ∈ plan.balancerActions) (hc : a.action.creates) {s : Site} (hs : s ∈ before)
    (hg : s.name = a.groupName) {b : Balancer} (hb : b ∈ s.balancers) (hn : b.name = a.name) :
    (s.id, b.id) ∈ plan.lostBalancers := by
  refine (h.mem_lostBalancers_iff hs hb).2 ?_
  rw [h.balancerActions] at ha
  obtain ⟨w, hw, hp⟩ := mem_balancerActions ha (ActionType.ne_skip_of_creates hc)
  obtain ⟨hwg, hwn⟩ := Prod.mk.inj hp.label
  have group : live.group? w.groupName = some s.group :=
    (h.shows.group?_eq_some_iff h.distinct).2 ⟨s, hs, hg.trans hwg, rfl⟩
  have balancer : live.balancer? w.groupName w.name = some b := by
    rw [← hwg, ← hg]
    exact (h.shows.balancer?_eq_some_iff h.distinct hs).2 ⟨hb, hn.trans hwn⟩
  refine ⟨w, hw, (hg.trans hwg).symm, (hn.trans hwn).symm, ?_⟩
  cases hp with
  | ownerless he => rw [group] at he; nomatch he
  | missing _ he => rw [balancer] at he; nomatch he
  | same _ _ _ _ => nomatch hc
  | differs _ hl hd =>
    obtain rfl := Option.some.inj (balancer.symm.trans hl)
    rwa [hg]

/-- So no load balancer is left under it. -/
theorem balancer_name_ne_of_kept (h : Planned desired live before plan) {a : BalancerAction}
    (ha : a ∈ plan.balancerActions) (hc : a.action.creates) {t : Site} (ht : t ∈ plan.kept before)
    (hg : t.name = a.groupName) {b : Balancer} (hb : b ∈ t.balancers) : b.name ≠ a.name := by
  intro hn
  obtain ⟨s, hs, -, rfl⟩ := h.mem_kept_iff.1 ht
  obtain ⟨hb, hkeep⟩ := List.mem_filter.1 hb
  exact of_decide_eq_true hkeep (h.lost_of_creates ha hc hs hg hb hn)

/-- Groups are created for what is configured and does not live, or is recreated. -/
theorem mem_newGroups (h : Planned desired live before plan)
    (r : plan.MakesGroups desired newGroups) {t : Site} (ht : t ∈ newGroups) :
    ∃ w ∈ desired.groups,
      (live.group? w.name = none ∨ recreated plan.groupActions w.name) ∧
      ∃ id, t = ⟨Simulation.storedGroup id w.request, []⟩ := by
  obtain ⟨a, ha, v, id, found, rfl⟩ := exists_left_of_forall₂ r t ht
  obtain ⟨hm, hc⟩ := List.mem_filter.1 ha
  rw [h.groupActions] at hm ⊢
  obtain ⟨w, hw, hp⟩ := mem_groupActions hm (ActionType.ne_skip_of_creates hc)
  obtain ⟨hv, hn⟩ := find?_key_eq_some found
  obtain rfl := List.inj_on_of_nodup_map h.sound.groupNames hv hw (hn.trans hp.name)
  refine ⟨v, hv, ?_, id, rfl⟩
  cases hp with
  | missing hl => exact .inl hl
  | same _ _ => nomatch hc
  | differs hl hd => exact .inr (Planner.recreated_iff.2 ⟨v, hv, rfl, _, hl, hd⟩)

theorem newGroup_of_action (h : Planned desired live before plan)
    (r : plan.MakesGroups desired newGroups) {a : GroupAction}
    (ha : a ∈ plan.groupActions) (hc : a.action.creates) {w : GroupConfig}
    (hw : w ∈ desired.groups) (hn : a.name = w.name) :
    ∃ t ∈ newGroups, ∃ id, t = ⟨Simulation.storedGroup id w.request, []⟩ := by
  obtain ⟨t, ht, v, id, found, rfl⟩ :=
    exists_right_of_forall₂ r a (List.mem_filter.2 ⟨ha, hc⟩)
  obtain ⟨hv, hvn⟩ := find?_key_eq_some found
  obtain rfl := List.inj_on_of_nodup_map h.sound.groupNames hv hw (hvn.trans hn)
  exact ⟨_, ht, id, rfl⟩

theorem exists_newGroup (h : Planned desired live before plan)
    (r : plan.MakesGroups desired newGroups) {w : GroupConfig}
    (hw : w ∈ desired.groups)
    (hc : live.group? w.name = none ∨ recreated plan.groupActions w.name) :
    ∃ t ∈ newGroups, ∃ id, t = ⟨Simulation.storedGroup id w.request, []⟩ := by
  have ha : groupAction live w ∈ plan.groupActions := h.groupActions ▸ groupAction_mem live hw
  rcases hc with hl | hr
  · rw [groupAction_of_missing hl] at ha
    exact h.newGroup_of_action r ha rfl hw rfl
  · obtain ⟨v, hv, hn, g, hl, hd⟩ := Planner.recreated_iff.1 (h.groupActions ▸ hr)
    obtain rfl := List.inj_on_of_nodup_map h.sound.groupNames hv hw hn
    rw [groupAction_of_differs hl hd] at ha
    exact h.newGroup_of_action r ha rfl hw rfl

/-- No two groups are created under one name. -/
theorem newNames_nodup (h : Planned desired live before plan)
    (r : plan.MakesGroups desired newGroups) :
    (newGroups.map (·.name)).Nodup := by
  have same : (plan.groupActions.filter (·.action.creates)).map (·.name) =
      newGroups.map (·.name) := by
    refine List.forall₂_eq_eq_eq ▸ List.forall₂_map_left_iff.2 (List.forall₂_map_right_iff.2 ?_)
    exact r.imp fun a t ht => ht.name.symm
  rw [← same, h.groupActions]
  exact h.sound.groupNames.sublist (names_of_creates desired live)

/-- No two groups have the same name afterwards. -/
theorem names_nodup (h : Planned desired live before plan)
    (r : plan.MakesGroups desired newGroups) :
    ((plan.kept before ++ newGroups).map (·.name)).Nodup := by
  have kept : ((plan.kept before).map (·.name)).Nodup := by
    refine List.Nodup.sublist (List.filter_sublist.map _) ?_
    rw [List.map_map]
    exact h.distinct.names
  rw [List.map_append, List.nodup_append]
  refine ⟨kept, h.newNames_nodup r, ?_⟩
  rintro n hk m hm rfl
  obtain ⟨t, ht, hn⟩ := List.mem_map.1 hk
  obtain ⟨t', ht', rfl⟩ := List.mem_map.1 hm
  obtain ⟨a, ha, makes⟩ := exists_left_of_forall₂ r t' ht'
  obtain ⟨ha, hc⟩ := List.mem_filter.1 ha
  exact h.name_ne_of_kept ha hc ht (hn.trans makes.name)

/-- The owner of a new load balancer is the group that the action names. -/
theorem exists_owner (h : Planned desired live before plan)
    (r : plan.MakesGroups desired newGroups) {a : BalancerAction}
    (ha : a ∈ plan.balancerActions.filter (·.action.creates)) {id : Uuid}
    (ho : a.Owner (newGroups.map fun s => (s.name, s.id)).reverse
      ((plan.kept before ++ newGroups).map (·.group)) id) :
    ∃ t ∈ plan.kept before ++ newGroups, t.name = a.groupName ∧ t.id = id := by
  cases ho with
  | created hl =>
    obtain ⟨l₁, l₂, hsplit, -⟩ := List.lookup_eq_some_iff.1 hl
    have hm : (a.groupName, id) ∈ (newGroups.map fun s => (s.name, s.id)).reverse := by
      rw [hsplit]
      simp
    obtain ⟨t, ht, hpair⟩ := List.mem_map.1 (List.mem_reverse.1 hm)
    obtain ⟨hn, hid⟩ := Prod.mk.inj hpair
    exact ⟨t, List.mem_append_right _ ht, hn, hid⟩
  | planned hc hg =>
    have hm := (List.mem_filter.1 ha).1
    rw [h.balancerActions] at hm
    rw [groupId_of_mem hm] at hg
    obtain ⟨g, hl, rfl⟩ := Option.map_eq_some_iff.1 hg
    obtain ⟨s, hs, hn, rfl⟩ := (h.shows.group?_eq_some_iff h.distinct).1 hl
    -- a group that is recreated would be among those that were created in this apply
    have keep : recreated plan.groupActions s.name = false := by
      refine Bool.eq_false_iff.2 fun hrec => ?_
      obtain ⟨v, hv, hvn, -⟩ := Planner.recreated_iff.1 (h.groupActions ▸ hrec)
      obtain ⟨t, ht, id, rfl⟩ := h.exists_newGroup r hv (.inr (hvn ▸ hrec))
      have := List.lookup_eq_none_iff.1 hc _ (List.mem_reverse.2 (List.mem_map_of_mem ht))
      exact bne_iff_ne.1 this (hn.symm.trans hvn.symm)
    exact ⟨_, List.mem_append_left _ (h.mem_kept_iff.2 ⟨s, hs, keep, rfl⟩), hn, rfl⟩
  | found hg hn hi =>
    obtain ⟨t, ht, rfl⟩ := List.mem_map.1 hg
    exact ⟨t, ht, hn, hi⟩

/-- Load balancers are created for what is configured, and only where none of that name is left. -/
theorem mem_newBalancers (h : Planned desired live before plan)
    (r : plan.Rebuilt desired before newGroups newBalancers) {t : Uuid × Balancer}
    (ht : t ∈ newBalancers) :
    ∃ w ∈ desired.balancers, (∃ id, t.2 = Simulation.storedBalancer id w.request) ∧
      (∃ s ∈ plan.kept before ++ newGroups, s.name = w.groupName ∧ s.id = t.1) ∧
      ∀ s ∈ before, s.name = w.groupName → ∀ b ∈ s.balancers, b.name = w.name →
        (s.id, b.id) ∈ plan.lostBalancers := by
  obtain ⟨a, ha, ⟨v, id, found, hb⟩, ho⟩ := exists_left_of_forall₂ r.balancers t ht
  obtain ⟨hv, hg, hn⟩ := ClusterConfig.balancer?_eq_some found
  have owner := h.exists_owner r.groups ha ho
  rw [← hg] at owner
  obtain ⟨ha, hc⟩ := List.mem_filter.1 ha
  exact ⟨v, hv, ⟨id, hb⟩, owner, fun s hs hsn b hbm hbn =>
    h.lost_of_creates ha hc hs (hsn.trans hg) hbm (hbn.trans hn)⟩

theorem newBalancer_of_action (h : Planned desired live before plan)
    (r : plan.Rebuilt desired before newGroups newBalancers) {a : BalancerAction}
    (ha : a ∈ plan.balancerActions) (hc : a.action.creates) {w : BalancerConfig}
    (hw : w ∈ desired.balancers) (hl : (a.groupName, a.name) = (w.groupName, w.name)) :
    ∃ t ∈ newBalancers, (∃ id, t.2 = Simulation.storedBalancer id w.request) ∧
      ∃ s ∈ plan.kept before ++ newGroups, s.name = w.groupName ∧ s.id = t.1 := by
  obtain ⟨hag, han⟩ := Prod.mk.inj hl
  have hm : a ∈ plan.balancerActions.filter (·.action.creates) := List.mem_filter.2 ⟨ha, hc⟩
  obtain ⟨t, ht, ⟨v, id, found, hb⟩, ho⟩ := exists_right_of_forall₂ r.balancers a hm
  obtain ⟨hv, hg, hn⟩ := ClusterConfig.balancer?_eq_some found
  obtain rfl := h.sound.balancer_unique hv hw (hg.trans hag) (hn.trans han)
  exact ⟨t, ht, ⟨id, hb⟩, hg ▸ h.exists_owner r.groups hm ho⟩

/-- A configured load balancer is created, or it is as configured under a group that is kept. -/
theorem new_or_kept (h : Planned desired live before plan)
    (r : plan.Rebuilt desired before newGroups newBalancers) {w : BalancerConfig}
    (hw : w ∈ desired.balancers) :
    (∃ t ∈ newBalancers, (∃ id, t.2 = Simulation.storedBalancer id w.request) ∧
      ∃ s ∈ plan.kept before ++ newGroups, s.name = w.groupName ∧ s.id = t.1) ∨
    ∃ s ∈ before, s.name = w.groupName ∧ recreated plan.groupActions s.name = false ∧
      ∃ b ∈ s.balancers, b.name = w.name ∧ Diff.balancer b w = [] := by
  have ha : balancerAction live plan.groupActions w ∈ plan.balancerActions :=
    h.balancerActions ▸ balancerAction_mem live plan.groupActions hw
  have hp := balancerPlanned live plan.groupActions w
  generalize balancerAction live plan.groupActions w = a at ha hp
  cases hp with
  | ownerless _ => exact .inl (h.newBalancer_of_action r ha rfl hw rfl)
  | missing _ _ => exact .inl (h.newBalancer_of_action r ha rfl hw rfl)
  | same hg hl hd hr =>
    obtain ⟨s, hs, hn, rfl⟩ := (h.shows.group?_eq_some_iff h.distinct).1 hg
    rw [← hn] at hl hr
    obtain ⟨hb, hbn⟩ := (h.shows.balancer?_eq_some_iff h.distinct hs).1 hl
    exact .inr ⟨s, hs, hn, hr, _, hb, hbn, hd⟩
  | differs _ _ _ => exact .inl (h.newBalancer_of_action r ha rfl hw rfl)

/-- What is created under one owner has the names of the actions for this owner. -/
theorem addedNames_nodup (h : Planned desired live before plan)
    (r : plan.Rebuilt desired before newGroups newBalancers)
    (ids : ((plan.kept before ++ newGroups).map (·.id)).Nodup) {s : Site}
    (hs : s ∈ plan.kept before ++ newGroups) :
    (((newBalancers.filter (·.1 = s.id)).map (·.2)).map (·.name)).Nodup := by
  have names := h.names_nodup r.groups
  have same : ((plan.balancerActions.filter (·.action.creates)).filter
      (·.groupName = s.name)).map (·.name) = (newBalancers.filter (·.1 = s.id)).map (·.2.name) := by
    refine map_filter_of_forall₂ r.balancers (fun a ha t ht hm => ?_) fun a t hm => ?_
    · obtain ⟨s', hs', hn, hid⟩ := h.exists_owner r.groups ha hm.2
      refine decide_eq_decide.2 ⟨fun hg => ?_, fun hg => ?_⟩
      · rw [← hid, List.inj_on_of_nodup_map names hs' hs (hn.trans hg)]
      · rw [← hn, List.inj_on_of_nodup_map ids hs' hs (hid.trans hg)]
    · obtain ⟨v, id, found, hb⟩ := hm.1
      rw [hb]
      exact (ClusterConfig.balancer?_eq_some found).2.2.symm
  have labels := h.sound.balancerNames.sublist
    (labels_of_creates desired live plan.groupActions)
  rw [← h.balancerActions] at labels
  rw [List.map_map]
  exact same ▸ nodup_map_filter_key labels

/-- No two load balancers of one group have the same name afterwards. -/
theorem balancerNames_nodup (h : Planned desired live before plan)
    (r : plan.Rebuilt desired before newGroups newBalancers)
    (ids : ((plan.kept before ++ newGroups).map (·.id)).Nodup) {s : Site}
    (hs : s ∈ plan.kept before ++ newGroups) :
    ((s.adding newBalancers).balancers.map (·.name)).Nodup := by
  have added := h.addedNames_nodup r ids hs
  change (s.balancers ++ _).map _ |>.Nodup
  rw [List.map_append, List.nodup_append]
  rcases List.mem_append.1 hs with hkept | hnew
  · obtain ⟨s₀, hs₀, -, rfl⟩ := h.mem_kept_iff.1 hkept
    refine ⟨(h.distinct.balancerNames s₀ hs₀).sublist (List.filter_sublist.map _), added, ?_⟩
    rintro n hn m hm rfl
    obtain ⟨b, hb, hbn⟩ := List.mem_map.1 hn
    obtain ⟨hb, hkeep⟩ := List.mem_filter.1 hb
    obtain ⟨b', hb', rfl⟩ := List.mem_map.1 hm
    obtain ⟨t, ht, rfl⟩ := List.mem_map.1 hb'
    obtain ⟨ht, howner⟩ := List.mem_filter.1 ht
    obtain ⟨w, hw, ⟨id, htw⟩, ⟨s', hs', hn', hid'⟩, lost⟩ := h.mem_newBalancers r ht
    obtain rfl := List.inj_on_of_nodup_map ids hs' hs (hid'.trans (of_decide_eq_true howner))
    have named : b.name = w.name := by
      rw [hbn, htw]
      rfl
    exact of_decide_eq_true hkeep (lost s₀ hs₀ hn' b hb named)
  · obtain ⟨w, -, -, id, rfl⟩ := h.mem_newGroups r.groups hnew
    exact ⟨.nil, added, fun _ => List.not_mem_nil.elim⟩

end

end Planned

/-! ## 3. The whole infrastructure -/

/-- How an infrastructure follows a configuration and the infrastructure before. -/
structure Realized (desired : ClusterConfig) (plan : Plan) (before after : List Site) : Prop where
  /-- Each configured group lives once. -/
  groups : ∀ w ∈ desired.groups,
    ∃ s, after.filter (·.name = w.name) = [s] ∧ s.group.Matches w
  /-- Each configured load balancer lives once, under its owner. -/
  balancers : ∀ w ∈ desired.balancers,
    ∃ s, after.filter (·.name = w.groupName) = [s] ∧
      ∃ b, s.balancers.filter (·.name = w.name) = [b] ∧ b.Matches w
  /-- The other groups are left alone. -/
  otherGroups : ∀ s ∈ before, desired.group? s.name = none → ∃ t ∈ after, t.group = s.group
  /-- So are the other load balancers, unless their group is recreated. -/
  otherBalancers : ∀ s ∈ before, ∀ b ∈ s.balancers, desired.balancer? s.name b.name = none →
    recreated plan.groupActions s.name = false → ∃ t ∈ after, t.group = s.group ∧ b ∈ t.balancers
  /-- Those are lost, and the plan says so. -/
  lostBalancers : ∀ s ∈ before, ∀ b ∈ s.balancers, desired.balancer? s.name b.name = none →
    recreated plan.groupActions s.name →
    (∀ t ∈ after, t.name = s.name → ∀ b' ∈ t.balancers, b'.name ≠ b.name) ∧
    "AutoScalingGroup " ++ s.name ++ " is recreated; unlisted load balancer " ++ b.name
      ++ " will be lost" ∈ plan.warnings
  /-- What lives is configured, or it lived before. -/
  nothingElse : ∀ t ∈ after,
    ((desired.group? t.name).isSome ∨ ∃ s ∈ before, s.group = t.group) ∧
    ∀ b ∈ t.balancers, (desired.balancer? t.name b.name).isSome ∨
      ∃ s ∈ before, s.group = t.group ∧ b ∈ s.balancers

namespace Planned

variable {desired : ClusterConfig} {live : LiveState} {before : List Site} {plan : Plan}
  {newGroups : List Site} {newBalancers : List (Uuid × Balancer)}

theorem names_rebuild (h : Planned desired live before plan)
    (r : plan.Rebuilt desired before newGroups newBalancers) :
    ((plan.rebuild before newGroups newBalancers).map (·.name)).Nodup := by
  rw [Plan.rebuild, List.map_map]
  exact h.names_nodup r.groups

/-- A group that is not recreated is kept. -/
theorem kept_mem_rebuild (h : Planned desired live before plan) {s : Site} (hs : s ∈ before)
    (hr : recreated plan.groupActions s.name = false) :
    (s.without plan.lostBalancers).adding newBalancers ∈
      plan.rebuild before newGroups newBalancers :=
  List.mem_map_of_mem (List.mem_append_left _ (h.mem_kept_iff.2 ⟨s, hs, hr, rfl⟩))

/-- A load balancer that is not deleted stays under its group. -/
theorem mem_adding_of_kept {s : Site} {b : Balancer} (hb : b ∈ s.balancers)
    (hk : (s.id, b.id) ∉ plan.lostBalancers) :
    b ∈ ((s.without plan.lostBalancers).adding newBalancers).balancers :=
  List.mem_append_left _ (List.mem_filter.2 ⟨hb, decide_eq_true hk⟩)

theorem mem_adding_of_new {s : Site} {t : Uuid × Balancer} (ht : t ∈ newBalancers)
    (hi : s.id = t.1) : t.2 ∈ (s.adding newBalancers).balancers :=
  List.mem_append_right _
    (List.mem_map_of_mem (List.mem_filter.2 ⟨ht, decide_eq_true hi.symm⟩))

theorem exists_group (h : Planned desired live before plan)
    (distinct : desired.InterfacesDistinct)
    (r : plan.Rebuilt desired before newGroups newBalancers) {w : GroupConfig}
    (hw : w ∈ desired.groups) :
    ∃ s, (plan.rebuild before newGroups newBalancers).filter (·.name = w.name) = [s] ∧
      s.group.Matches w := by
  have once {s : Site} (hs : s ∈ plan.rebuild before newGroups newBalancers)
      (hm : s.group.Matches w) :
      ∃ s, (plan.rebuild before newGroups newBalancers).filter (·.name = w.name) = [s] ∧
        s.group.Matches w :=
    ⟨s, filter_key_eq_singleton (h.names_rebuild r) hs hm.name, hm⟩
  by_cases hc : live.group? w.name = none ∨ recreated plan.groupActions w.name
  · obtain ⟨t, ht, id, rfl⟩ := h.exists_newGroup r.groups hw hc
    exact once (List.mem_map_of_mem (List.mem_append_right _ ht)) (w.matches_stored id)
  · obtain ⟨hlive, hrec⟩ := not_or.1 hc
    obtain ⟨g, hg⟩ := Option.ne_none_iff_exists'.1 hlive
    obtain ⟨s, hs, hn, rfl⟩ := (h.shows.group?_eq_some_iff h.distinct).1 hg
    have same : Diff.group s.group w = [] := by
      refine Decidable.byContradiction fun hd => hrec ?_
      exact h.groupActions ▸ Planner.recreated_iff.2 ⟨w, hw, rfl, _, hg, hd⟩
    refine once (h.kept_mem_rebuild hs (Bool.eq_false_iff.2 (hn ▸ hrec))) ?_
    exact (Diff.group_eq_nil_iff hn (distinct.groups w hw)).1 same

theorem exists_balancer (h : Planned desired live before plan)
    (distinct : desired.InterfacesDistinct)
    (r : plan.Rebuilt desired before newGroups newBalancers)
    (ids : ((plan.kept before ++ newGroups).map (·.id)).Nodup) {w : BalancerConfig}
    (hw : w ∈ desired.balancers) :
    ∃ s, (plan.rebuild before newGroups newBalancers).filter (·.name = w.groupName) = [s] ∧
      ∃ b, s.balancers.filter (·.name = w.name) = [b] ∧ b.Matches w := by
  have once {s : Site} {b : Balancer} (hs : s ∈ plan.kept before ++ newGroups)
      (hn : s.name = w.groupName) (hb : b ∈ (s.adding newBalancers).balancers)
      (hm : b.Matches w) :
      ∃ s, (plan.rebuild before newGroups newBalancers).filter (·.name = w.groupName) = [s] ∧
        ∃ b, s.balancers.filter (·.name = w.name) = [b] ∧ b.Matches w :=
    ⟨_, filter_key_eq_singleton (h.names_rebuild r) (List.mem_map_of_mem hs) hn, b,
      filter_key_eq_singleton (h.balancerNames_nodup r ids hs) hb hm.name, hm⟩
  rcases h.new_or_kept r hw with ⟨t, ht, ⟨id, hb⟩, s, hs, hn, hi⟩ | ⟨s, hs, hn, hr, b, hb, hbn, hd⟩
  · exact once hs hn (mem_adding_of_new ht hi) (hb ▸ w.matches_stored id)
  · have stays : (s.id, b.id) ∉ plan.lostBalancers := by
      rw [h.mem_lostBalancers_iff hs hb]
      rintro ⟨v, hv, hg, hvn, hd' | hr'⟩
      · obtain rfl := h.sound.balancer_unique hv hw (hg.trans hn) (hvn.trans hbn)
        exact hd' hd
      · rw [hr] at hr'
        nomatch hr'
    refine once (List.mem_append_left _ (h.mem_kept_iff.2 ⟨s, hs, hr, rfl⟩)) hn
      (mem_adding_of_kept hb stays) ?_
    exact (Diff.balancer_eq_nil_iff hbn (distinct.balancers w hw)).1 hd

/-- A load balancer that is not configured is not deleted by itself. -/
theorem not_mem_lostBalancers (h : Planned desired live before plan) {s : Site} (hs : s ∈ before)
    {b : Balancer} (hb : b ∈ s.balancers) (hn : desired.balancer? s.name b.name = none) :
    (s.id, b.id) ∉ plan.lostBalancers := by
  rw [h.mem_lostBalancers_iff hs hb]
  rintro ⟨w, hw, hg, hwn, -⟩
  exact ClusterConfig.balancer?_ne_none hw (hg ▸ hwn ▸ hn)

/-- All load balancers of a group that is created are configured. -/
theorem configured_of_new (h : Planned desired live before plan)
    (r : plan.Rebuilt desired before newGroups newBalancers)
    (ids : ((plan.kept before ++ newGroups).map (·.id)).Nodup) {s : Site}
    (hs : s ∈ plan.kept before ++ newGroups) {t : Uuid × Balancer} (ht : t ∈ newBalancers)
    (hi : t.1 = s.id) : desired.balancer? s.name t.2.name ≠ none := by
  obtain ⟨w, hw, ⟨id, hb⟩, ⟨s', hs', hn, hi'⟩, -⟩ := h.mem_newBalancers r ht
  obtain rfl := List.inj_on_of_nodup_map ids hs' hs (hi'.trans hi)
  rw [hn, hb]
  exact ClusterConfig.balancer?_ne_none hw

/-- A load balancer that is not configured is lost with its group. -/
theorem lost_of_recreated (h : Planned desired live before plan)
    (r : plan.Rebuilt desired before newGroups newBalancers)
    (ids : ((plan.kept before ++ newGroups).map (·.id)).Nodup) {s : Site} (hs : s ∈ before)
    {b : Balancer} (hn : desired.balancer? s.name b.name = none)
    (hr : recreated plan.groupActions s.name) {t : Site}
    (ht : t ∈ plan.rebuild before newGroups newBalancers) (htn : t.name = s.name)
    {b' : Balancer} (hb' : b' ∈ t.balancers) : b'.name ≠ b.name := by
  intro hbn
  obtain ⟨t₀, ht₀, rfl⟩ := List.mem_map.1 ht
  have htn : t₀.name = s.name := htn
  rcases List.mem_append.1 ht₀ with hk | hnew
  · obtain ⟨s₀, hs₀, hkeep, rfl⟩ := h.mem_kept_iff.1 hk
    obtain rfl := List.inj_on_of_nodup_map h.distinct.names hs₀ hs htn
    rw [hkeep] at hr
    nomatch hr
  · obtain ⟨w, -, -, id, rfl⟩ := h.mem_newGroups r.groups hnew
    rcases List.mem_append.1 hb' with hb' | hb'
    · exact List.not_mem_nil hb'
    · obtain ⟨x, hx, rfl⟩ := List.mem_map.1 hb'
      obtain ⟨hx, hi⟩ := List.mem_filter.1 hx
      refine h.configured_of_new r ids ht₀ hx (of_decide_eq_true hi) ?_
      rw [htn, hbn, hn]

/-- The plan warns of it. -/
theorem warned_of_recreated (h : Planned desired live before plan) {s : Site} (hs : s ∈ before)
    {b : Balancer} (hb : b ∈ s.balancers) (hn : desired.balancer? s.name b.name = none)
    (hr : recreated plan.groupActions s.name) :
    "AutoScalingGroup " ++ s.name ++ " is recreated; unlisted load balancer " ++ b.name
      ++ " will be lost" ∈ lossWarnings desired live plan.groupActions := by
  obtain ⟨bs, hget, hperm⟩ := h.shows.balancers s hs
  have orphan : (s.name, b) ∈ orphanBalancers desired live := by
    refine List.mem_flatMap.2 ⟨(s.name, bs), SortedMap.mem_entries_iff.2 hget, ?_⟩
    refine List.mem_map_of_mem (List.mem_filter.2 ⟨hperm.mem_iff.2 hb, ?_⟩)
    simp [hn]
  refine List.mem_flatMap.2 ⟨_, orphan, ?_⟩
  rw [lossWarning, if_pos hr]
  exact List.mem_singleton.2 rfl

/-- What lives is configured, or it lived before. -/
theorem configured_or_before (h : Planned desired live before plan)
    (r : plan.Rebuilt desired before newGroups newBalancers)
    (ids : ((plan.kept before ++ newGroups).map (·.id)).Nodup) {t : Site}
    (ht : t ∈ plan.rebuild before newGroups newBalancers) :
    ((desired.group? t.name).isSome ∨ ∃ s ∈ before, s.group = t.group) ∧
    ∀ b ∈ t.balancers, (desired.balancer? t.name b.name).isSome ∨
      ∃ s ∈ before, s.group = t.group ∧ b ∈ s.balancers := by
  obtain ⟨t₀, ht₀, rfl⟩ := List.mem_map.1 ht
  have added {b : Balancer}
      (hb : b ∈ (newBalancers.filter (·.1 = t₀.id)).map (·.2)) :
      (desired.balancer? t₀.name b.name).isSome := by
    obtain ⟨x, hx, rfl⟩ := List.mem_map.1 hb
    obtain ⟨hx, hi⟩ := List.mem_filter.1 hx
    exact Option.isSome_iff_ne_none.2 (h.configured_of_new r ids ht₀ hx (of_decide_eq_true hi))
  rcases List.mem_append.1 ht₀ with hk | hnew
  · obtain ⟨s, hs, -, rfl⟩ := h.mem_kept_iff.1 hk
    refine ⟨.inr ⟨s, hs, rfl⟩, fun b hb => ?_⟩
    rcases List.mem_append.1 hb with hb | hb
    · exact .inr ⟨s, hs, rfl, (List.mem_filter.1 hb).1⟩
    · exact .inl (added hb)
  · obtain ⟨w, hw, -, id, rfl⟩ := h.mem_newGroups r.groups hnew
    refine ⟨.inl (find?_key_isSome hw rfl), fun b hb => ?_⟩
    rcases List.mem_append.1 hb with hb | hb
    · exact absurd hb List.not_mem_nil
    · exact .inl (added hb)

theorem realized (h : Planned desired live before plan) (distinct : desired.InterfacesDistinct)
    (warnings : ∀ line ∈ lossWarnings desired live plan.groupActions, line ∈ plan.warnings)
    (r : plan.Rebuilt desired before newGroups newBalancers)
    (ids : ((plan.rebuild before newGroups newBalancers).map (·.id)).Nodup) :
    Realized desired plan before (plan.rebuild before newGroups newBalancers) := by
  have ids : ((plan.kept before ++ newGroups).map (·.id)).Nodup := by
    rwa [Plan.rebuild, List.map_map] at ids
  have unconfigured : ∀ s ∈ before, desired.group? s.name = none →
      recreated plan.groupActions s.name = false := by
    intro s hs hn
    refine Bool.eq_false_iff.2 fun hr => ?_
    obtain ⟨w, hw, hwn, -⟩ := Planner.recreated_iff.1 (h.groupActions ▸ hr)
    exact List.find?_eq_none.1 hn w hw (decide_eq_true hwn)
  exact {
    groups := fun w hw => h.exists_group distinct r hw
    balancers := fun w hw => h.exists_balancer distinct r ids hw
    otherGroups := fun s hs hn => ⟨_, h.kept_mem_rebuild hs (unconfigured s hs hn), rfl⟩
    otherBalancers := fun s hs b hb hn hr => ⟨_, h.kept_mem_rebuild hs hr, rfl,
      mem_adding_of_kept hb (h.not_mem_lostBalancers hs hb hn)⟩
    lostBalancers := fun s hs b hb hn hr =>
      ⟨fun t ht htn b' hb' => h.lost_of_recreated r ids hs hn hr ht htn hb',
        warnings _ (h.warned_of_recreated hs hb hn hr)⟩
    nothingElse := fun t ht => h.configured_or_before r ids ht }

end Planned

/-- **After an apply the infrastructure is what the configuration says.**  The configuration is
valid and lists each interface once, and nothing lives twice; the plan is made from a snapshot of a
control plane that behaves like a store, and is applied to it without a failure. -/
theorem infrastructure_after_apply {desired : ClusterConfig} {latestTag : Bool} {paging : Paging}
    {limit : Nat} {name : String} {live : LiveState} {known ledger : SecretLedger}
    {now : Timestamp} {options : ApplyOptions} {p : Plan} {result : ExecutionResult}
    {before : List Site} {observing applying : List Event}
    (valid : (desired.check latestTag).isValid) (interfaces : desired.InterfacesDistinct)
    (distinct : Distinct before)
    (observed : (Observe.cluster limit name).Course observing (some (.ok live)))
    (planned : plan desired live known now = .ok p)
    (applied : (execute options desired p ledger).Course applying (some (.ok result)))
    (store : Serves paging live.cluster.id before (observing ++ applying)) :
    Realized desired p before (effects live.cluster.id before (observing ++ applying)) := by
  obtain ⟨seen, served⟩ := serves_append.1 (Part.serves_of_serves store)
  obtain ⟨shows, unchanged⟩ := Observe.shows distinct observed seen
  rw [unchanged] at served
  obtain ⟨cluster, context, warned⟩ := Planned.of_plan valid distinct shows planned
  rw [← cluster] at served
  obtain ⟨newGroups, newBalancers, rebuilt, after⟩ := Plan.rebuilt_of_course applied served
  have ids := ids_nodup_effects distinct.ids served
  rw [effects_append, unchanged, ← cluster]
  rw [after] at ids ⊢
  exact context.realized interfaces warned rebuilt ids

/-! ## 4. A group that is recreated -/

namespace Rebuilding

/-- A cluster with one group, which owns one load balancer. -/
def desired : ClusterConfig where
  clusterName := "prod"
  cluster := none
  groups := [⟨"web", "is1a", "cloud/1core", 2, 4, [], [⟨0, "net", true, [], none, none, none⟩]⟩]
  balancers := [⟨"front", "web", "cloud/lb", [], [⟨0, "net", [], none, none, none, none, none⟩]⟩]
  applications := []

/-- The group lives with other bounds and with a second load balancer, and there is another
group. -/
def before : List Site :=
  [⟨⟨.ofNat 2, "web", "is1a", "cloud/1core", 1, 4, [], [⟨0, "net", true, [], none, none, none⟩]⟩,
      [⟨.ofNat 4, "front", "cloud/lb", [], [⟨0, "net", [], none, none, none, none, none⟩]⟩,
        ⟨.ofNat 5, "stray", "cloud/lb", [], []⟩]⟩,
    ⟨⟨.ofNat 3, "old", "is1b", "cloud/1core", 1, 1, [], []⟩,
      [⟨.ofNat 6, "side", "cloud/lb", [], []⟩]⟩]

/-- A simulated control plane with this infrastructure. -/
def controlPlane : Simulation where
  pageSize := 10
  linger := 0
  clusters := [⟨.ofNat 1, "prod"⟩]
  details := [⟨.ofNat 1, "prod", "", false⟩]
  groups := before.map (·.group)
  balancers := before.map fun s => (s.id, s.balancers)
  applications := []
  versions := []
  summaries := []
  pending := []
  issued := 0
  outages := []

/-- What is observed of it. -/
def live : LiveState where
  cluster := ⟨"prod", .ofNat 1⟩
  detail := ⟨.ofNat 1, "prod", "", false⟩
  groups := before.map (·.group)
  balancers := .ofList (before.map fun s => (s.name, s.balancers))
  applications := []

/-- The plan that follows. -/
def plan : Plan where
  cluster := live.cluster
  clusterAction := .noop
  groupActions := Planner.groupActions desired live
  balancerActions := Planner.balancerActions desired live (Planner.groupActions desired live)
  applicationActions := []
  warnings := lossWarnings desired live (Planner.groupActions desired live)
  createdAt := .epoch

/-- The group and its configured load balancer are new, the other group is the same. -/
def after : List Site :=
  [⟨⟨.ofNat 3, "old", "is1b", "cloud/1core", 1, 1, [], []⟩,
      [⟨.ofNat 6, "side", "cloud/lb", [], []⟩]⟩,
    ⟨⟨.ofNat 0xf0000000000000000000000000000001, "web", "is1a", "cloud/1core", 2, 4, [],
        [⟨0, "net", true, [], none, none, none⟩]⟩,
      [⟨.ofNat 0xf0000000000000000000000000000002, "front", "cloud/lb", [],
        [⟨0, "net", [], none, none, none, none, none⟩]⟩]⟩]

/-- How the control plane answers. -/
def answer : (q : Question) → Stub Simulation → q.Reply × Stub Simulation :=
  Stub.answer fun c s => s.answer c

def observing : List Event := (Observe.cluster 2 "prod").events answer ⟨controlPlane, []⟩

def applying : List Event :=
  (execute ⟨⟨0, 0⟩, false, 2⟩ desired plan .empty).events answer ⟨controlPlane, []⟩

/-- The load balancer that is not configured is lost with its group. -/
theorem realized_after : Realized desired plan before after := by
  have valid : (desired.check true).isValid := by decide +kernel
  have interfaces : desired.InterfacesDistinct := by constructor <;> decide +kernel
  have distinct : Distinct before := by constructor <;> decide +kernel
  have observed : (Observe.cluster 2 "prod").Course observing (some (.ok live)) := by
    have outcome : (Observe.cluster 2 "prod").result answer ⟨controlPlane, []⟩ =
        some (.ok live) := by decide +kernel
    exact outcome ▸ Session.course_of_run answer (Observe.cluster 2 "prod") ⟨controlPlane, []⟩
  have planned : Converge.plan desired live .empty .epoch = .ok plan := by rfl
  have applied : (execute ⟨⟨0, 0⟩, false, 2⟩ desired plan .empty).Course applying
      (some (.ok ⟨false, ["web/front"], ["web"], ["web"], ["web/front"], [], [], false⟩)) := by
    have outcome : (execute ⟨⟨0, 0⟩, false, 2⟩ desired plan .empty).result answer
        ⟨controlPlane, []⟩ = some (.ok ⟨false, ["web/front"], ["web"], ["web"], ["web/front"],
          [], [], false⟩) := by decide +kernel
    exact outcome ▸ Session.course_of_run answer _ _
  have store : Serves .single live.cluster.id before (observing ++ applying) := by
    decide +kernel
  have final : effects live.cluster.id before (observing ++ applying) = after := by
    decide +kernel
  exact final ▸ infrastructure_after_apply valid interfaces distinct observed planned applied store

end Rebuilding

end Converge
