import Converge.Plan.Planner
import Converge.Proofs.Cluster.Observe
import Converge.Proofs.Plan.Interfaces
/-!
# What a plan says about the infrastructure

A group or load balancer that lives under its configured name has no differences exactly when it is
as configured (`Diff.group_eq_nil_iff`, `Diff.balancer_eq_nil_iff`).  `GroupPlanned` and
`BalancerPlanned` list the actions that a configured resource can get, each with what was observed;
statements about plans go through these cases.

Main statements: `Planner.groupPlanned`, `Planner.balancerPlanned` and `Planner.recreated_iff`.
-/

namespace Converge

/-! ## 1. Comparing groups and load balancers -/

/-- Whether a live group is as configured, with its interfaces in any order. -/
structure Group.Matches (g : Group) (w : GroupConfig) : Prop where
  name : g.name = w.name
  zone : g.zone = w.zone
  workerServiceClassPath : g.workerServiceClassPath = w.workerServiceClassPath
  minNodes : g.minNodes = w.minNodes
  maxNodes : g.maxNodes = w.maxNodes
  nameServers : g.nameServers = w.nameServers
  interfaces : g.interfaces.Perm w.interfaces

/-- Whether a live load balancer is as configured, with its interfaces in any order. -/
structure Balancer.Matches (b : Balancer) (w : BalancerConfig) : Prop where
  name : b.name = w.name
  serviceClassPath : b.serviceClassPath = w.serviceClassPath
  nameServers : b.nameServers = w.nameServers
  interfaces : b.interfaces.Perm w.interfaces

/-- **A group has no differences exactly when it is as configured.** -/
theorem Diff.group_eq_nil_iff {g : Group} {w : GroupConfig} (name : g.name = w.name)
    (distinct : (w.interfaces.map (·.interfaceIndex)).Nodup) :
    Diff.group g w = [] ↔ g.Matches w := by
  rw [group_eq_nil_iff_sameSettings distinct]
  constructor
  · rintro ⟨zone, path, min, max, servers, interfaces⟩
    exact ⟨name, zone, path, min, max, servers, interfaces⟩
  · rintro ⟨-, zone, path, min, max, servers, interfaces⟩
    exact ⟨zone, path, min, max, servers, interfaces⟩

/-- **A load balancer has no differences exactly when it is as configured.** -/
theorem Diff.balancer_eq_nil_iff {b : Balancer} {w : BalancerConfig} (name : b.name = w.name)
    (distinct : (w.interfaces.map (·.interfaceIndex)).Nodup) :
    Diff.balancer b w = [] ↔ b.Matches w := by
  rw [balancer_eq_nil_iff_sameSettings distinct]
  constructor
  · rintro ⟨path, servers, interfaces⟩
    exact ⟨name, path, servers, interfaces⟩
  · rintro ⟨-, path, servers, interfaces⟩
    exact ⟨path, servers, interfaces⟩

/-- What is created for a configured group is as configured. -/
theorem GroupConfig.matches_stored (w : GroupConfig) (id : Uuid) :
    (Simulation.storedGroup id w.request).Matches w := ⟨rfl, rfl, rfl, rfl, rfl, rfl, .refl _⟩

/-- What is created for a configured load balancer is as configured. -/
theorem BalancerConfig.matches_stored (w : BalancerConfig) (id : Uuid) :
    (Simulation.storedBalancer id w.request).Matches w := ⟨rfl, rfl, rfl, .refl _⟩

/-- Whether each configured group and load balancer lists each of its interfaces once. -/
structure ClusterConfig.InterfacesDistinct (c : ClusterConfig) : Prop where
  groups : ∀ g ∈ c.groups, (g.interfaces.map (·.interfaceIndex)).Nodup
  balancers : ∀ b ∈ c.balancers, (b.interfaces.map (·.interfaceIndex)).Nodup

/-- A configured load balancer is found by its owner and its name. -/
theorem ClusterConfig.balancer?_eq_some {c : ClusterConfig} {owner name : String}
    {w : BalancerConfig} (h : c.balancer? owner name = some w) :
    w ∈ c.balancers ∧ w.groupName = owner ∧ w.name = name :=
  ⟨List.mem_of_find?_eq_some h, by simpa using List.find?_some h⟩

theorem ClusterConfig.balancer?_ne_none {c : ClusterConfig} {w : BalancerConfig}
    (h : w ∈ c.balancers) : c.balancer? w.groupName w.name ≠ none := by
  intro hn
  exact List.find?_eq_none.1 hn w h (decide_eq_true ⟨rfl, rfl⟩)

theorem ActionType.ne_skip_of_deletes {t : ActionType} (h : t.deletes) : t ≠ .skip := by
  rintro rfl
  nomatch h

theorem ActionType.ne_skip_of_creates {t : ActionType} (h : t.creates) : t ≠ .skip := by
  rintro rfl
  nomatch h

namespace Planner

variable {desired : ClusterConfig} {live : LiveState} {groups : List GroupAction}

/-! ## 2. The actions of a plan -/

/-- The actions that a configured group can get. -/
inductive GroupPlanned (live : LiveState) (w : GroupConfig) : GroupAction → Prop where
  | missing (h : live.group? w.name = none) :
      GroupPlanned live w ⟨w.name, .create, none, Diff.describeGroup w⟩
  | same {g} (h : live.group? w.name = some g) (hd : Diff.group g w = []) :
      GroupPlanned live w ⟨w.name, .noop, some g.id, []⟩
  | differs {g} (h : live.group? w.name = some g) (hd : Diff.group g w ≠ []) :
      GroupPlanned live w ⟨w.name, .recreate, some g.id, Diff.group g w⟩

/-- The actions that a configured load balancer can get; `groups` are the actions for groups. -/
inductive BalancerPlanned (live : LiveState) (groups : List GroupAction) (w : BalancerConfig) :
    BalancerAction → Prop where
  | ownerless (h : live.group? w.groupName = none) :
      BalancerPlanned live groups w
        ⟨w.name, w.groupName, .create, none, none, Diff.describeBalancer w⟩
  | missing {g} (hg : live.group? w.groupName = some g)
      (h : live.balancer? w.groupName w.name = none) :
      BalancerPlanned live groups w
        ⟨w.name, w.groupName, .create, some g.id, none, Diff.describeBalancer w⟩
  | same {g b} (hg : live.group? w.groupName = some g)
      (h : live.balancer? w.groupName w.name = some b) (hd : Diff.balancer b w = [])
      (hr : recreated groups w.groupName = false) :
      BalancerPlanned live groups w ⟨w.name, w.groupName, .noop, some g.id, some b.id, []⟩
  | differs {g b changes} (hg : live.group? w.groupName = some g)
      (h : live.balancer? w.groupName w.name = some b)
      (hd : Diff.balancer b w ≠ [] ∨ recreated groups w.groupName) :
      BalancerPlanned live groups w
        ⟨w.name, w.groupName, .recreate, some g.id, some b.id, changes⟩

theorem groupPlanned (live : LiveState) (w : GroupConfig) :
    GroupPlanned live w (groupAction live w) := by
  unfold groupAction
  split
  next h => exact .missing h
  next g h =>
    by_cases hd : Diff.group g w = []
    · simpa [hd] using GroupPlanned.same h hd
    · simpa [hd] using GroupPlanned.differs h hd

theorem balancerPlanned (live : LiveState) (groups : List GroupAction) (w : BalancerConfig) :
    BalancerPlanned live groups w (balancerAction live groups w) := by
  unfold balancerAction
  dsimp only
  split
  next h => exact .ownerless h
  next g hg =>
    split
    next h => exact .missing hg h
    next b h =>
      by_cases hd : Diff.balancer b w = []
      · cases hr : recreated groups w.groupName with
        | false => simpa [hd] using BalancerPlanned.same hg h hd hr
        | true => simpa [hd] using BalancerPlanned.differs hg h (.inr hr)
      · simpa [hd] using BalancerPlanned.differs hg h (.inl hd)

/-- Only configured resources are deleted or created. -/
theorem mem_groupActions {a : GroupAction} (h : a ∈ groupActions desired live)
    (hs : a.action ≠ .skip) : ∃ w ∈ desired.groups, GroupPlanned live w a := by
  rcases List.mem_append.1 h with h | h
  · obtain ⟨w, hw, rfl⟩ := List.mem_map.1 h
    exact ⟨w, hw, groupPlanned live w⟩
  · obtain ⟨g, -, rfl⟩ := List.mem_map.1 h
    exact absurd rfl hs

theorem mem_balancerActions {a : BalancerAction} (h : a ∈ balancerActions desired live groups)
    (hs : a.action ≠ .skip) : ∃ w ∈ desired.balancers, BalancerPlanned live groups w a := by
  rcases List.mem_append.1 h with h | h
  · obtain ⟨w, hw, rfl⟩ := List.mem_map.1 h
    exact ⟨w, hw, balancerPlanned live groups w⟩
  · obtain ⟨o, -, rfl⟩ := List.mem_map.1 h
    exact absurd rfl hs

/-- A group is deleted only where it is configured and lives with differences. -/
theorem exists_group_of_deletes {a : GroupAction} (h : a ∈ groupActions desired live)
    (hd : a.action.deletes) : ∃ w ∈ desired.groups, ∃ g, live.group? w.name = some g ∧
      Diff.group g w ≠ [] ∧ a = ⟨w.name, .recreate, some g.id, Diff.group g w⟩ := by
  obtain ⟨w, hw, hp⟩ := mem_groupActions h (ActionType.ne_skip_of_deletes hd)
  cases hp with
  | missing _ => nomatch hd
  | same _ _ => nomatch hd
  | differs hg hdiff => exact ⟨w, hw, _, hg, hdiff, rfl⟩

/-- A load balancer is deleted only where it is configured and lives, for its differences or with
its group. -/
theorem exists_balancer_of_deletes {a : BalancerAction}
    (h : a ∈ balancerActions desired live groups) (hd : a.action.deletes) :
    ∃ w ∈ desired.balancers, ∃ g b changes, live.group? w.groupName = some g ∧
      live.balancer? w.groupName w.name = some b ∧
      (Diff.balancer b w ≠ [] ∨ recreated groups w.groupName) ∧
      a = ⟨w.name, w.groupName, .recreate, some g.id, some b.id, changes⟩ := by
  obtain ⟨w, hw, hp⟩ := mem_balancerActions h (ActionType.ne_skip_of_deletes hd)
  cases hp with
  | ownerless _ => nomatch hd
  | missing _ _ => nomatch hd
  | same _ _ _ _ => nomatch hd
  | differs hg hl hdiff => exact ⟨w, hw, _, _, _, hg, hl, hdiff, rfl⟩

/-- The action for a load balancer has the identifier of the live owner. -/
theorem groupId_of_mem {a : BalancerAction} (ha : a ∈ balancerActions desired live groups) :
    a.groupId = (live.group? a.groupName).map (·.id) := by
  rcases List.mem_append.1 ha with ha | ha
  · obtain ⟨w, -, rfl⟩ := List.mem_map.1 ha
    have planned := balancerPlanned live groups w
    generalize balancerAction live groups w = a at planned
    cases planned with
    | ownerless hg => simp [hg]
    | missing hg _ => simp [hg]
    | same hg _ _ _ => simp [hg]
    | differs hg _ _ => simp [hg]
  · obtain ⟨o, -, rfl⟩ := List.mem_map.1 ha
    rfl

theorem GroupPlanned.name {w : GroupConfig} {a : GroupAction} (h : GroupPlanned live w a) :
    a.name = w.name := by
  cases h <;> rfl

theorem BalancerPlanned.label {w : BalancerConfig} {a : BalancerAction}
    (h : BalancerPlanned live groups w a) : (a.groupName, a.name) = (w.groupName, w.name) := by
  cases h <;> rfl

/-- No two groups are created under one name that are not configured under one. -/
theorem names_of_creates (desired : ClusterConfig) (live : LiveState) :
    (((groupActions desired live).filter (·.action.creates)).map (·.name)).Sublist
      (desired.groups.map (·.name)) := by
  have others : ((live.groups.filter fun g => (desired.group? g.name).isNone).map fun g =>
      (⟨g.name, .skip, some g.id, [orphanNote]⟩ : GroupAction)).filter (·.action.creates) = [] := by
    refine List.filter_eq_nil_iff.2 fun a ha => ?_
    obtain ⟨g, -, rfl⟩ := List.mem_map.1 ha
    exact Bool.false_ne_true
  have same : (desired.groups.map (groupAction live)).map (·.name) =
      desired.groups.map (·.name) := by
    rw [List.map_map]
    exact List.map_congr_left fun w _ => (groupPlanned live w).name
  rw [groupActions, List.filter_append, others, List.append_nil, ← same]
  exact List.filter_sublist.map _

theorem labels_of_creates (desired : ClusterConfig) (live : LiveState)
    (groups : List GroupAction) :
    (((balancerActions desired live groups).filter (·.action.creates)).map
      fun a => (a.groupName, a.name)).Sublist
      (desired.balancers.map fun w => (w.groupName, w.name)) := by
  have others : ((orphanBalancers desired live).map (orphanAction live groups)).filter
      (·.action.creates) = [] := by
    refine List.filter_eq_nil_iff.2 fun a ha => ?_
    obtain ⟨o, -, rfl⟩ := List.mem_map.1 ha
    exact Bool.false_ne_true
  have same : (desired.balancers.map (balancerAction live groups)).map
      (fun a => (a.groupName, a.name)) = desired.balancers.map fun w => (w.groupName, w.name) := by
    rw [List.map_map]
    exact List.map_congr_left fun w _ => (balancerPlanned live groups w).label
  rw [balancerActions, List.filter_append, others, List.append_nil, ← same]
  exact List.filter_sublist.map _

theorem groupAction_mem (live : LiveState) {w : GroupConfig} (h : w ∈ desired.groups) :
    groupAction live w ∈ groupActions desired live :=
  List.mem_append_left _ (List.mem_map_of_mem h)

theorem balancerAction_mem (live : LiveState) (groups : List GroupAction) {w : BalancerConfig}
    (h : w ∈ desired.balancers) :
    balancerAction live groups w ∈ balancerActions desired live groups :=
  List.mem_append_left _ (List.mem_map_of_mem h)

/-- A configured group that does not live is created. -/
theorem groupAction_of_missing {w : GroupConfig} (h : live.group? w.name = none) :
    groupAction live w = ⟨w.name, .create, none, Diff.describeGroup w⟩ := by
  simp [groupAction, h]

/-- One that lives with differences is recreated. -/
theorem groupAction_of_differs {w : GroupConfig} {g : Group} (h : live.group? w.name = some g)
    (hd : Diff.group g w ≠ []) :
    groupAction live w = ⟨w.name, .recreate, some g.id, Diff.group g w⟩ := by
  simp [groupAction, h, hd]

/-- A load balancer that lives with differences, or under a group that is recreated, is recreated
with it. -/
theorem balancerAction_of_differs {w : BalancerConfig} {g : Group} {b : Balancer}
    (hg : live.group? w.groupName = some g) (h : live.balancer? w.groupName w.name = some b)
    (hd : Diff.balancer b w ≠ [] ∨ recreated groups w.groupName) :
    ∃ changes, balancerAction live groups w =
      ⟨w.name, w.groupName, .recreate, some g.id, some b.id, changes⟩ := by
  have hp := balancerPlanned live groups w
  generalize balancerAction live groups w = a at hp
  cases hp with
  | ownerless he => rw [hg] at he; nomatch he
  | missing _ he => rw [h] at he; nomatch he
  | same _ hl he hr =>
    obtain rfl := Option.some.inj (h.symm.trans hl)
    rcases hd with hd | hd
    · exact absurd he hd
    · rw [hr] at hd
      nomatch hd
  | differs hg' hl _ =>
    obtain rfl := Option.some.inj (hg.symm.trans hg')
    obtain rfl := Option.some.inj (h.symm.trans hl)
    exact ⟨_, rfl⟩

/-- A group is recreated when it is configured and lives with differences. -/
theorem recreated_iff {name : String} : recreated (groupActions desired live) name ↔
    ∃ w ∈ desired.groups, w.name = name ∧
      ∃ g, live.group? w.name = some g ∧ Diff.group g w ≠ [] := by
  rw [recreated, List.any_eq_true]
  constructor
  · rintro ⟨a, ha, h⟩
    obtain ⟨hact, hname⟩ : a.action = .recreate ∧ a.name = name := by simpa using h
    obtain ⟨w, hw, g, hg, hd, rfl⟩ := exists_group_of_deletes ha (by rw [hact]; rfl)
    exact ⟨w, hw, hname, g, hg, hd⟩
  · rintro ⟨w, hw, rfl, g, hg, hd⟩
    refine ⟨_, groupAction_mem live hw, ?_⟩
    rw [groupAction_of_differs hg hd]
    simp

end Planner

end Converge
