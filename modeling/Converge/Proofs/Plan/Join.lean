import Converge.Proofs.Config.Validation
import Converge.Proofs.Plan.Applications
/-!
# A plan joins the configuration with the cluster

A plan has one action for each name that is configured or lives, the configured names first.  What
the action is follows from what lives under the name and what is configured under it; `Joined` says
so for every kind of resource, and `Plan.Joins` gathers it for a plan.  The join of the load
balancers depends on the join of the groups: a load balancer under a group that is recreated goes
with it, and one that is not configured is lost, which the plan has to say.

A look-up finds the one resource of a name where names are distinct (`LiveState.Named`), and each
action is made from a look-up on either side (`Matched`).

Main statement: `plan_joins`.
-/

namespace Converge

/-! ## 1. Two sides -/

section

variable {α β : Type} {lives : α → Prop} {configured : β → Prop} {same : α → β → Prop}
  {identifier : α → Uuid} {replacing action : ActionType} {id : Option Uuid}

/-- How an action and its identifier agree with what lives and what is configured under its name;
`replacing` is the action for what lives otherwise than it is configured. -/
structure Joined (lives : α → Prop) (configured : β → Prop) (same : α → β → Prop)
    (identifier : α → Uuid) (replacing action : ActionType) (id : Option Uuid) : Prop where
  create : action = .create ↔ ¬ ∃ l, lives l
  skip : action = .skip ↔ (∃ l, lives l) ∧ ¬ ∃ w, configured w
  noop : action = .noop ↔ ∃ l w, lives l ∧ configured w ∧ same l w
  replaced : action = replacing ↔ ∃ l w, lives l ∧ configured w ∧ ¬ same l w
  others : action ∈ [.create, .skip, .noop, replacing]
  identified : ∀ i, id = some i ↔ ∃ l, lives l ∧ identifier l = i

/-- The actions that can come of a look-up on either side. -/
inductive Matched (same : α → β → Prop) (identifier : α → Uuid) (replacing : ActionType) :
    Option α → Option β → ActionType → Option Uuid → Prop where
  | missing (w : β) : Matched same identifier replacing none (some w) .create none
  | orphan (l : α) :
      Matched same identifier replacing (some l) none .skip (some (identifier l))
  | same {l w} (h : same l w) :
      Matched same identifier replacing (some l) (some w) .noop (some (identifier l))
  | differs {l w} (h : ¬ same l w) :
      Matched same identifier replacing (some l) (some w) replacing (some (identifier l))

/-- Where a look-up finds what there is, the action that comes of it agrees with both sides. -/
theorem Matched.joined {l? : Option α} {w? : Option β}
    (h : Matched same identifier replacing l? w? action id) (live : ∀ l, l? = some l ↔ lives l)
    (wanted : ∀ w, w? = some w ↔ configured w)
    (replaces : replacing ∉ [.create, .skip, .noop]) :
    Joined lives configured same identifier replacing action id := by
  obtain ⟨create, skip, noop⟩ : replacing ≠ .create ∧ replacing ≠ .skip ∧ replacing ≠ .noop := by
    simpa using replaces
  simp only [funext fun l => (propext (live l)).symm, funext fun w => (propext (wanted w)).symm]
  cases h with
  | missing w => constructor <;> simp [create.symm]
  | orphan l => constructor <;> simp [skip.symm]
  | same h => constructor <;> simp [noop.symm, h]
  | differs h => constructor <;> simp [create, skip, noop, h]

end

/-- The names of one side, and those of the other that are not among them. -/
def merged {κ : Type} [DecidableEq κ] (wanted live : List κ) : List κ :=
  wanted ++ live.filter (· ∉ wanted)

theorem nodup_merged {κ : Type} [DecidableEq κ] {wanted live : List κ} (hw : wanted.Nodup)
    (hl : live.Nodup) : (merged wanted live).Nodup := by
  refine List.nodup_append'.2 ⟨hw, hl.filter _, fun k hk hf => ?_⟩
  simp only [List.mem_filter, decide_eq_true_eq] at hf
  exact hf.2 hk

theorem merged_map {κ α : Type} [DecidableEq κ] {wanted : List κ} {live : List α} {key : α → κ}
    {other : α → Bool} (h : ∀ a, other a ↔ key a ∉ wanted) :
    merged wanted (live.map key) = wanted ++ (live.filter other).map key := by
  have same : other = (fun k => decide (k ∉ wanted)) ∘ key :=
    funext fun a => Bool.eq_iff_iff.2 ((h a).trans decide_eq_true_iff.symm)
  rw [merged, List.filter_map, same]

/-- The load balancers that live, each with the name of its owner. -/
def LiveState.ownedBalancers (live : LiveState) : List (String × Balancer) :=
  live.balancers.entries.flatMap fun e => e.2.map fun b => (e.1, b)

/-- Whether names tell the groups, the load balancers of each group and the applications of a
snapshot apart, and the load balancers stand under the names of groups. -/
structure LiveState.Named (live : LiveState) : Prop where
  groups : (live.groups.map (·.name)).Nodup
  balancers : ∀ e ∈ live.balancers.entries, (e.2.map (·.name)).Nodup
  applications : (live.applications.map (·.application.name)).Nodup
  owners : ∀ e ∈ live.balancers.entries, ∃ g ∈ live.groups, g.name = e.1

section

variable {live : LiveState} {owner name : String} {b : Balancer}

theorem LiveState.mem_ownedBalancers_iff :
    (owner, b) ∈ live.ownedBalancers ↔ ∃ bs, live.balancers.get? owner = some bs ∧ b ∈ bs := by
  unfold ownedBalancers
  constructor
  · intro h
    obtain ⟨⟨owner', bs⟩, he, h⟩ := List.mem_flatMap.1 h
    obtain ⟨b', hb, heq⟩ := List.mem_map.1 h
    cases heq
    exact ⟨bs, SortedMap.mem_entries_iff.1 he, hb⟩
  · rintro ⟨bs, h, hb⟩
    exact List.mem_flatMap.2 ⟨_, SortedMap.mem_entries_iff.2 h, List.mem_map_of_mem hb⟩

/-- The load balancers stand in the order of their owners. -/
theorem LiveState.owners_ordered (live : LiveState) :
    (live.ownedBalancers.map (·.1)).Pairwise (· ≤ ·) := by
  rw [ownedBalancers, List.map_flatMap, List.pairwise_flatMap]
  simp only [List.map_map, List.mem_map, Function.comp_apply]
  constructor
  · intro e _
    exact List.pairwise_map.2 (List.pairwise_of_forall fun _ _ => String.le_refl _)
  · refine live.balancers.sorted.imp fun hlt => ?_
    rintro _ ⟨_, -, rfl⟩ _ ⟨_, -, rfl⟩
    exact String.not_lt.1 fun hgt => String.lt_irrefl _ (String.lt_trans hlt hgt)

namespace LiveState.Named

theorem group?_eq_some_iff (h : live.Named) {g : Group} :
    live.group? name = some g ↔ g ∈ live.groups ∧ g.name = name :=
  find?_key_eq_some_iff h.groups

theorem balancer?_eq_some_iff (h : live.Named) :
    live.balancer? owner name = some b ↔ (owner, b) ∈ live.ownedBalancers ∧ b.name = name := by
  rw [mem_ownedBalancers_iff, LiveState.balancer?]
  constructor
  · intro hb
    obtain ⟨bs, hbs, hb⟩ := Option.bind_eq_some_iff.1 hb
    obtain ⟨hmem, hname⟩ := find?_key_eq_some hb
    exact ⟨⟨bs, hbs, hmem⟩, hname⟩
  · rintro ⟨⟨bs, hbs, hmem⟩, hname⟩
    have distinct := h.balancers _ (SortedMap.mem_entries_iff.2 hbs)
    exact Option.bind_eq_some_iff.2 ⟨bs, hbs, (find?_key_eq_some_iff distinct).2 ⟨hmem, hname⟩⟩

theorem application?_eq_some_iff (h : live.Named) {l : LiveApplication} :
    live.application? name = some l ↔ l ∈ live.applications ∧ l.application.name = name := by
  have distinct : (live.applications.reverse.map (·.application.name)).Nodup := by
    rw [List.map_reverse, List.nodup_reverse]
    exact h.applications
  exact (find?_key_eq_some_iff distinct).trans (by rw [List.mem_reverse])

/-- The owner of a load balancer lives. -/
theorem owner_found (h : live.Named) (hb : (owner, b) ∈ live.ownedBalancers) :
    ∃ g, live.group? owner = some g := by
  obtain ⟨bs, hbs, -⟩ := mem_ownedBalancers_iff.1 hb
  obtain ⟨g, hmem, hname⟩ := h.owners _ (SortedMap.mem_entries_iff.2 hbs)
  exact ⟨g, h.group?_eq_some_iff.2 ⟨hmem, hname⟩⟩

/-- Nothing is found under an owner that does not live. -/
theorem balancer?_eq_none (h : live.Named) (hg : live.group? owner = none) :
    live.balancer? owner name = none := by
  refine Option.eq_none_iff_forall_ne_some.2 fun b hb => ?_
  obtain ⟨g, found⟩ := h.owner_found (h.balancer?_eq_some_iff.1 hb).1
  rw [hg] at found
  nomatch found

/-- Owner and name tell the load balancers apart. -/
theorem nodup_labels (h : live.Named) :
    (live.ownedBalancers.map fun o => (o.1, o.2.name)).Nodup := by
  rw [ownedBalancers, List.map_flatMap, List.Nodup, List.pairwise_flatMap]
  simp only [List.map_map, List.mem_map, Function.comp_apply]
  constructor
  · intro e he
    refine List.pairwise_map.2 ((List.pairwise_map.1 (h.balancers e he)).imp fun hne heq => ?_)
    exact hne (congrArg Prod.snd heq)
  · refine live.balancers.sorted.imp fun hlt => ?_
    rintro _ ⟨_, -, rfl⟩ _ ⟨_, -, rfl⟩ heq
    have same := congrArg Prod.fst heq
    dsimp only at same
    exact String.lt_irrefl _ (same ▸ hlt)

end LiveState.Named

end

namespace ClusterConfig.Sound

variable {c : ClusterConfig} {name : String}

theorem group?_eq_some_iff (h : c.Sound) {w : GroupConfig} :
    c.group? name = some w ↔ w ∈ c.groups ∧ w.name = name :=
  find?_key_eq_some_iff h.groupNames

theorem balancer?_eq_some_iff (h : c.Sound) {owner : String} {w : BalancerConfig} :
    c.balancer? owner name = some w ↔
      w ∈ c.balancers ∧ w.groupName = owner ∧ w.name = name := by
  have found := find?_key_eq_some_iff (a := w) (k := (owner, name)) h.balancerNames
  simpa [ClusterConfig.balancer?] using found

theorem application?_eq_some_iff (h : c.Sound) {w : ApplicationConfig} :
    c.application? name = some w ↔ w ∈ c.applications ∧ w.name = name :=
  find?_key_eq_some_iff h.applicationNames

end ClusterConfig.Sound

namespace Planner

variable {desired : ClusterConfig} {live : LiveState} {ledger : SecretLedger}
  {groups : List GroupAction}

/-! ## 2. Groups -/

theorem names_of_groupActions (desired : ClusterConfig) (live : LiveState) :
    (groupActions desired live).map (·.name) =
      merged (desired.groups.map (·.name)) (live.groups.map (·.name)) := by
  have configured : (desired.groups.map (groupAction live)).map (·.name) =
      desired.groups.map (·.name) := by
    rw [List.map_map]
    exact List.map_congr_left fun w _ => (groupPlanned live w).name
  rw [groupActions, List.map_append, configured, merged_map fun _ => isNone_find?_key, List.map_map]
  rfl

/-- The action for a group comes of a look-up on either side. -/
theorem matched_group (sound : desired.Sound) (named : live.Named) {a : GroupAction}
    (ha : a ∈ groupActions desired live) :
    Matched (fun g w => Diff.group g w = []) (·.id) .recreate (live.group? a.name)
      (desired.group? a.name) a.action a.existingId := by
  rcases List.mem_append.1 ha with ha | ha
  · obtain ⟨w, hw, rfl⟩ := List.mem_map.1 ha
    have planned := groupPlanned live w
    rw [planned.name, sound.group?_eq_some_iff.2 ⟨hw, rfl⟩]
    generalize groupAction live w = a at planned
    cases planned with
    | missing h => exact h ▸ .missing w
    | same h hd => exact h ▸ .same hd
    | differs h hd => exact h ▸ .differs hd
  · obtain ⟨g, hg, rfl⟩ := List.mem_map.1 ha
    obtain ⟨hg, hn⟩ := List.mem_filter.1 hg
    dsimp only
    rw [Option.isNone_iff_eq_none.1 hn, named.group?_eq_some_iff.2 ⟨hg, rfl⟩]
    exact .orphan g

/-! ## 3. Load balancers -/

/-- The load balancers that are not configured. -/
theorem orphanBalancers_eq (desired : ClusterConfig) (live : LiveState) :
    orphanBalancers desired live =
      live.ownedBalancers.filter fun o => (desired.balancer? o.1 o.2.name).isNone := by
  simp only [orphanBalancers, LiveState.ownedBalancers, List.filter_flatMap, List.filter_map]
  rfl

theorem isNone_balancer? {owner name : String} : (desired.balancer? owner name).isNone ↔
    (owner, name) ∉ desired.balancers.map fun w => (w.groupName, w.name) := by
  rw [ClusterConfig.balancer?, Option.isNone_iff_eq_none, List.find?_eq_none]
  simp

theorem labels_of_balancerActions (desired : ClusterConfig) (live : LiveState)
    (groups : List GroupAction) :
    (balancerActions desired live groups).map (fun a => (a.groupName, a.name)) =
      merged (desired.balancers.map fun w => (w.groupName, w.name))
        (live.ownedBalancers.map fun o => (o.1, o.2.name)) := by
  have configured : (desired.balancers.map (balancerAction live groups)).map
      (fun a => (a.groupName, a.name)) = desired.balancers.map fun w => (w.groupName, w.name) := by
    rw [List.map_map]
    exact List.map_congr_left fun w _ => (balancerPlanned live groups w).label
  rw [balancerActions, List.map_append, configured, merged_map fun _ => isNone_balancer?,
    orphanBalancers_eq, List.map_map]
  rfl

/-- The action for a load balancer comes of a look-up on either side. -/
theorem matched_balancer (sound : desired.Sound) (named : live.Named) {a : BalancerAction}
    (ha : a ∈ balancerActions desired live groups) :
    Matched (fun b w => Diff.balancer b w = [] ∧ recreated groups a.groupName = false) (·.id)
      .recreate (live.balancer? a.groupName a.name) (desired.balancer? a.groupName a.name) a.action
      a.existingId := by
  rcases List.mem_append.1 ha with ha | ha
  · obtain ⟨w, hw, rfl⟩ := List.mem_map.1 ha
    have planned := balancerPlanned live groups w
    have found : desired.balancer? w.groupName w.name = some w :=
      sound.balancer?_eq_some_iff.2 ⟨hw, rfl, rfl⟩
    generalize balancerAction live groups w = a at planned
    cases planned with
    | ownerless hg =>
      dsimp only
      rw [found, named.balancer?_eq_none hg]
      exact .missing w
    | missing _ h =>
      dsimp only
      rw [found, h]
      exact .missing w
    | same _ h hd hr =>
      dsimp only
      rw [found, h]
      exact .same ⟨hd, hr⟩
    | differs _ h hd =>
      dsimp only
      rw [found, h]
      exact .differs fun same => hd.elim (· same.1) fun hr => by simp [hr] at same
  · obtain ⟨⟨owner, b⟩, ho, rfl⟩ := List.mem_map.1 ha
    rw [orphanBalancers_eq] at ho
    obtain ⟨ho, hn⟩ := List.mem_filter.1 ho
    dsimp only [orphanAction]
    rw [Option.isNone_iff_eq_none.1 hn, named.balancer?_eq_some_iff.2 ⟨ho, rfl⟩]
    exact .orphan b

/-- What is passed over stands in the order of the owners. -/
theorem skipped_ordered (desired : ClusterConfig) (live : LiveState) (groups : List GroupAction) :
    (((balancerActions desired live groups).filter (·.action = .skip)).map
      (·.groupName)).Pairwise (· ≤ ·) := by
  have configured : (desired.balancers.map (balancerAction live groups)).filter
      (·.action = .skip) = [] := by
    refine List.filter_eq_nil_iff.2 fun a ha => ?_
    obtain ⟨w, -, rfl⟩ := List.mem_map.1 ha
    have planned := balancerPlanned live groups w
    generalize balancerAction live groups w = a at planned
    cases planned <;> simp
  rw [balancerActions, List.filter_append, configured, List.nil_append, orphanBalancers_eq]
  refine live.owners_ordered.sublist ?_
  refine (List.filter_sublist.map _).trans ?_
  rw [List.map_map]
  exact List.filter_sublist.map _

/-- The warning that a load balancer is lost with its group. -/
def lossLine (o : String × Balancer) : String :=
  "AutoScalingGroup " ++ o.1 ++ " is recreated; unlisted load balancer " ++ o.2.name
    ++ " will be lost"

/-- The warnings are for the load balancers that are not configured under a group that is
recreated. -/
theorem lossWarnings_eq (desired : ClusterConfig) (live : LiveState) (groups : List GroupAction) :
    lossWarnings desired live groups = (live.ownedBalancers.filter fun o =>
      recreated groups o.1 && (desired.balancer? o.1 o.2.name).isNone).map lossLine := by
  rw [lossWarnings, orphanBalancers_eq, ← List.filter_filter, ← flatMap_ite_singleton]
  rfl

/-! ## 4. Applications -/

theorem orphanApplications_eq (desired : ClusterConfig) (live : LiveState) :
    orphanApplications desired live = (live.applications.map (·.application.name)).filter
      (· ∉ desired.applications.map (·.name)) :=
  List.filter_congr fun _ _ =>
    Bool.eq_iff_iff.2 (isNone_find?_key.trans decide_eq_true_iff.symm)

/-- Whether the latest version of a live application is as configured. -/
def UpToDate (ledger : SecretLedger) (l : LiveApplication) (w : ApplicationConfig) : Prop :=
  ∃ v, l.latestVersion = some v ∧ Diff.application w.name v w.spec ledger = .ok []

/-- The action for an application comes of a look-up on either side. -/
theorem ApplicationPlanned.matched (sound : desired.Sound) {w : ApplicationConfig}
    {a : ApplicationAction} (hw : w ∈ desired.applications)
    (planned : ApplicationPlanned live ledger w a) :
    Matched (UpToDate ledger) (·.application.id) .update (live.application? a.name)
      (desired.application? a.name) a.action a.applicationId := by
  have found : desired.application? w.name = some w := sound.application?_eq_some_iff.2 ⟨hw, rfl⟩
  cases planned with
  | missing h =>
    dsimp only
    rw [found, h]
    exact .missing w
  | unversioned h hv =>
    dsimp only
    rw [found, h]
    refine .differs ?_
    rintro ⟨v, hl, -⟩
    rw [hv] at hl
    nomatch hl
  | same h hv hd =>
    dsimp only
    rw [found, h]
    exact .same ⟨_, hv, hd⟩
  | differs h hv hd hn =>
    dsimp only
    rw [found, h]
    refine .differs ?_
    rintro ⟨v, hl, hd'⟩
    obtain rfl := Option.some.inj (hv.symm.trans hl)
    exact hn (Except.ok.inj (hd.symm.trans hd'))

end Planner

/-! ## 5. The whole plan -/

open Planner

/-- How a plan joins the configuration with the cluster. -/
structure Plan.Joins (p : Plan) (desired : ClusterConfig) (live : LiveState)
    (ledger : SecretLedger) : Prop where
  settings : p.clusterAction.action = .update ↔
    ∃ s, desired.cluster = some s ∧ Diff.cluster live.detail s ≠ []
  settingsKept : p.clusterAction.action = .noop ↔
    ∀ s, desired.cluster = some s → Diff.cluster live.detail s = []
  groupNames : p.groupActions.map (·.name) =
    merged (desired.groups.map (·.name)) (live.groups.map (·.name))
  groupsOnce : (p.groupActions.map (·.name)).Nodup
  groups : ∀ a ∈ p.groupActions, Joined (fun g => g ∈ live.groups ∧ g.name = a.name)
    (fun w => w ∈ desired.groups ∧ w.name = a.name) (fun g w => Diff.group g w = []) (·.id)
    .recreate a.action a.existingId
  balancerLabels : p.balancerActions.map (fun a => (a.groupName, a.name)) =
    merged (desired.balancers.map fun w => (w.groupName, w.name))
      (live.ownedBalancers.map fun o => (o.1, o.2.name))
  balancersOnce : (p.balancerActions.map fun a => (a.groupName, a.name)).Nodup
  balancersOrdered :
    ((p.balancerActions.filter (·.action = .skip)).map (·.groupName)).Pairwise (· ≤ ·)
  balancers : ∀ a ∈ p.balancerActions,
    Joined (fun b => (a.groupName, b) ∈ live.ownedBalancers ∧ b.name = a.name)
      (fun w => w ∈ desired.balancers ∧ w.groupName = a.groupName ∧ w.name = a.name)
      (fun b w => Diff.balancer b w = [] ∧ recreated p.groupActions a.groupName = false) (·.id)
      .recreate a.action a.existingId
  owners : ∀ a ∈ p.balancerActions, ∀ i, a.groupId = some i ↔
    ∃ g ∈ live.groups, g.name = a.groupName ∧ g.id = i
  applicationNames : p.applicationActions.map (·.name) = desired.applications.map (·.name)
  applicationsOnce : (p.applicationActions.map (·.name)).Nodup
  applications : ∀ a ∈ p.applicationActions,
    Joined (fun l => l ∈ live.applications ∧ l.application.name = a.name)
      (fun w => w ∈ desired.applications ∧ w.name = a.name) (UpToDate ledger) (·.application.id)
      .update a.action a.applicationId
  unversioned : ∀ a ∈ p.applicationActions, ∀ l ∈ live.applications,
    l.application.name = a.name → l.latestVersion = none → a.action = .update
  /-- A load balancer that goes with its group is created again, or the plan says that it is
  lost. -/
  announced : ∀ o ∈ live.ownedBalancers, recreated p.groupActions o.1 →
    ∃ a ∈ p.balancerActions, (a.groupName, a.name) = (o.1, o.2.name) ∧
      a.existingId = some o.2.id ∧ (a.action = .recreate ∨
        a.action = .skip ∧ lossLine o ∈ a.changes ∧ lossLine o ∈ p.warnings)
  warnings : p.warnings =
    (live.ownedBalancers.filter fun o =>
      recreated p.groupActions o.1 && (desired.balancer? o.1 o.2.name).isNone).map lossLine
    ++ ((live.applications.map (·.application.name)).filter
      (· ∉ desired.applications.map (·.name))).map orphanWarning

namespace Plan.MadeFrom

variable {p : Plan} {desired : ClusterConfig} {live : LiveState} {ledger : SecretLedger}

theorem updates_settings_iff (h : p.MadeFrom desired live ledger) :
    (p.clusterAction.action = .update ↔
      ∃ s, desired.cluster = some s ∧ Diff.cluster live.detail s ≠ []) ∧
    (p.clusterAction.action = .noop ↔
      ∀ s, desired.cluster = some s → Diff.cluster live.detail s = []) := by
  rw [h.clusterAction, Planner.clusterAction]
  cases desired.cluster with
  | none => simp [ClusterAction.noop]
  | some s => by_cases hd : Diff.cluster live.detail s = [] <;> simp [hd, ClusterAction.noop]

/-- No load balancer goes unannounced. -/
theorem announced (h : p.MadeFrom desired live ledger) (sound : desired.Sound) (named : live.Named)
    {o : String × Balancer} (ho : o ∈ live.ownedBalancers)
    (hr : recreated p.groupActions o.1) :
    ∃ a ∈ p.balancerActions, (a.groupName, a.name) = (o.1, o.2.name) ∧
      a.existingId = some o.2.id ∧ (a.action = .recreate ∨
        a.action = .skip ∧ lossLine o ∈ a.changes ∧
          lossLine o ∈ lossWarnings desired live p.groupActions) := by
  rw [h.balancerActions]
  have found : live.balancer? o.1 o.2.name = some o.2 := named.balancer?_eq_some_iff.2 ⟨ho, rfl⟩
  cases hw : desired.balancer? o.1 o.2.name with
  | some w =>
    obtain ⟨hmem, hgroup, hname⟩ := sound.balancer?_eq_some_iff.1 hw
    obtain ⟨g, hg⟩ := named.owner_found ho
    rw [← hgroup] at hg hr
    rw [← hgroup, ← hname] at found
    obtain ⟨changes, heq⟩ := balancerAction_of_differs hg found (.inr hr)
    refine ⟨_, balancerAction_mem live p.groupActions hmem, ?_⟩
    rw [heq]
    exact ⟨by rw [hgroup, hname], rfl, .inl rfl⟩
  | none =>
    have orphan : o ∈ orphanBalancers desired live := by
      rw [orphanBalancers_eq]
      exact List.mem_filter.2 ⟨ho, by rw [hw]; rfl⟩
    have line : lossWarning p.groupActions o = [lossLine o] := if_pos hr
    refine ⟨_, List.mem_append_right _ (List.mem_map_of_mem orphan), rfl, rfl, .inr ⟨rfl, ?_, ?_⟩⟩
    · rw [orphanAction, line]
      exact List.mem_cons_of_mem _ (List.mem_singleton.2 rfl)
    · exact List.mem_flatMap.2 ⟨o, orphan, by rw [line]; exact List.mem_singleton.2 rfl⟩

theorem joins (h : p.MadeFrom desired live ledger) (sound : desired.Sound) (named : live.Named)
    (warnings : p.warnings = lossWarnings desired live p.groupActions
      ++ (orphanApplications desired live).map orphanWarning) :
    p.Joins desired live ledger := by
  have groupNames := names_of_groupActions desired live
  have labels := labels_of_balancerActions desired live p.groupActions
  have applicationNames : p.applicationActions.map (·.name) = desired.applications.map (·.name) :=
    (map_eq_of_forall₂ h.applicationActions fun _ _ planned => planned.name.symm).symm
  have applications : ∀ a ∈ p.applicationActions,
      Joined (fun l => l ∈ live.applications ∧ l.application.name = a.name)
        (fun w => w ∈ desired.applications ∧ w.name = a.name) (UpToDate ledger)
        (·.application.id) .update a.action a.applicationId := by
    intro a ha
    obtain ⟨w, hw, planned⟩ := h.application ha
    exact (planned.matched sound hw).joined (fun _ => named.application?_eq_some_iff)
      (fun _ => sound.application?_eq_some_iff) (by decide)
  rw [← h.groupActions] at groupNames
  rw [← h.balancerActions] at labels
  exact {
    settings := h.updates_settings_iff.1
    settingsKept := h.updates_settings_iff.2
    groupNames := groupNames
    groupsOnce := by
      rw [groupNames]
      exact nodup_merged sound.groupNames named.groups
    groups := by
      intro a ha
      rw [h.groupActions] at ha
      exact (matched_group sound named ha).joined (fun _ => named.group?_eq_some_iff)
        (fun _ => sound.group?_eq_some_iff) (by decide)
    balancerLabels := labels
    balancersOnce := by
      rw [labels]
      exact nodup_merged sound.balancerNames named.nodup_labels
    balancersOrdered := by
      rw [h.balancerActions]
      exact skipped_ordered desired live p.groupActions
    balancers := by
      intro a ha
      rw [h.balancerActions] at ha
      exact (matched_balancer sound named ha).joined (fun _ => named.balancer?_eq_some_iff)
        (fun _ => sound.balancer?_eq_some_iff) (by decide)
    owners := by
      intro a ha i
      rw [h.balancerActions] at ha
      rw [groupId_of_mem ha, Option.map_eq_some_iff]
      simp only [named.group?_eq_some_iff, and_assoc]
    applicationNames := applicationNames
    applicationsOnce := by
      rw [applicationNames]
      exact sound.applicationNames
    applications := applications
    unversioned := by
      intro a ha l hl hname hv
      obtain ⟨w, hw, planned⟩ := h.application ha
      refine (applications a ha).replaced.2 ⟨l, w, ⟨hl, hname⟩, ⟨hw, planned.name.symm⟩, ?_⟩
      rintro ⟨v, hsome, -⟩
      rw [hv] at hsome
      nomatch hsome
    announced := by
      intro o ho hr
      obtain ⟨a, ha, label, id, hrecreate | ⟨hskip, hline, hwarned⟩⟩ := h.announced sound named ho hr
      · exact ⟨a, ha, label, id, .inl hrecreate⟩
      · refine ⟨a, ha, label, id, .inr ⟨hskip, hline, ?_⟩⟩
        rw [warnings]
        exact List.mem_append_left _ hwarned
    warnings := by rw [warnings, lossWarnings_eq, orphanApplications_eq] }

end Plan.MadeFrom

/-- The warnings of a plan. -/
theorem Plan.warnings_of_plan {p : Plan} {desired : ClusterConfig} {live : LiveState}
    {ledger : SecretLedger} {now : Timestamp} (h : plan desired live ledger now = .ok p) :
    p.warnings = lossWarnings desired live p.groupActions
      ++ (orphanApplications desired live).map orphanWarning := by
  unfold Converge.plan at h
  dsimp only at h
  split at h
  · nomatch h
  · obtain rfl := Except.ok.inj h
    rfl

/-- **A plan is a join of the configuration and the cluster**, without a gap and without a
double: what is valid is planned for name by name. -/
theorem plan_joins {desired : ClusterConfig} {latestTag : Bool} {live : LiveState}
    {ledger : SecretLedger} {now : Timestamp} {p : Plan}
    (valid : (desired.check latestTag).isValid) (named : live.Named)
    (planned : plan desired live ledger now = .ok p) : p.Joins desired live ledger :=
  (Plan.madeFrom planned).joins (ClusterConfig.sound_of_isValid valid) named
    (Plan.warnings_of_plan planned)

/-! ## 6. A join with every kind of action -/

namespace Merging

/-- One of the two groups lives with other bounds, and the other does not live. -/
def desired : ClusterConfig where
  clusterName := "prod"
  cluster := none
  groups := [⟨"web", "is1a", "cloud/1core", 2, 4, [], [⟨0, "net", true, [], none, none, none⟩]⟩,
    ⟨"mail", "is1a", "cloud/1core", 1, 1, [], [⟨0, "net", true, [], none, none, none⟩]⟩]
  balancers := [⟨"front", "web", "cloud/lb", [], [⟨0, "net", [], none, none, none, none, none⟩]⟩,
    ⟨"inbox", "mail", "cloud/lb", [], [⟨0, "net", [], none, none, none, none, none⟩]⟩]
  applications := []

/-- A second load balancer lives under the group that will be recreated; a group, its load balancer
and an application live without being configured. -/
def live : LiveState where
  cluster := ⟨"prod", .ofNat 1⟩
  detail := ⟨.ofNat 1, "prod", "", false⟩
  groups := [⟨.ofNat 2, "old", "is1b", "cloud/1core", 1, 1, [], []⟩,
    ⟨.ofNat 3, "web", "is1a", "cloud/1core", 1, 4, [], [⟨0, "net", true, [], none, none, none⟩]⟩]
  balancers := .ofList [("web", [⟨.ofNat 4, "stray", "cloud/lb", [], []⟩,
      ⟨.ofNat 5, "front", "cloud/lb", [], [⟨0, "net", [], none, none, none, none, none⟩]⟩]),
    ("old", [⟨.ofNat 6, "side", "cloud/lb", [], []⟩])]
  applications := [⟨⟨.ofNat 7, "shop", .ofNat 1, none⟩, none⟩]

/-- The plan that follows. -/
def plan : Plan where
  cluster := live.cluster
  clusterAction := .noop
  groupActions := [⟨"web", .recreate, some (.ofNat 3), ["MinNodes: 1 -> 2"]⟩,
    ⟨"mail", .create, none, Diff.describeGroup desired.groups[1]⟩,
    ⟨"old", .skip, some (.ofNat 2), ["not in YAML, skipping"]⟩]
  balancerActions := [
    ⟨"front", "web", .recreate, some (.ofNat 3), some (.ofNat 5),
      ["AutoScalingGroup web is recreated"]⟩,
    ⟨"inbox", "mail", .create, none, none, Diff.describeBalancer desired.balancers[1]⟩,
    ⟨"side", "old", .skip, some (.ofNat 2), some (.ofNat 6), ["not in YAML, skipping"]⟩,
    ⟨"stray", "web", .skip, some (.ofNat 3), some (.ofNat 4), ["not in YAML, skipping",
      "AutoScalingGroup web is recreated; unlisted load balancer stray will be lost"]⟩]
  applicationActions := []
  warnings := ["AutoScalingGroup web is recreated; unlisted load balancer stray will be lost",
    "application \"shop\" exists in the cluster but is not in YAML"]
  createdAt := .epoch

/-- The groups and load balancers are all there once, and the one that is lost is named. -/
theorem joins_of_seven : plan.Joins desired live .empty := by
  have valid : (desired.check true).isValid := by decide +kernel
  have named : live.Named := by
    constructor <;> decide +kernel
  have planned : Converge.plan desired live .empty .epoch = .ok plan := by decide +kernel
  exact plan_joins valid named planned

end Merging

end Converge
