import Mathlib.Data.List.Perm.Subperm
import Converge.Proofs.Plan.Normal
import Converge.Simulation.Basic
/-!
# Comparing interfaces

A comparison goes through the desired interfaces and looks each of them up among the live ones by
its index; it never goes through the live ones.  What it finds is that there are as many and that
each desired one is the first live one with its index (`Diff.interfaces_eq_nil_iff_found`).  Where
each desired index is listed once, this leaves no room for a live interface that is not desired, and
none for one that lives twice: the desired ones are distinct, all of them live, and there are no
more live ones than that (`perm_iff_found`).

So a group or load balancer has no differences exactly when its fields are the desired ones and its
interfaces are, in any order.  Its name is not compared.

Main statements: `Diff.interfaces_eq_nil_iff` and `infrastructure_compared_exactly`.
-/

namespace Converge

/-! ## 1. Looking up what is desired -/

section

variable {α : Type} {index : α → Int16} {live desired : List α}

/-- Lists are the same in some order when they are equally long and each entry of the one is found
in the other by its index, where each of its indices is listed once. -/
theorem perm_iff_found (distinct : (desired.map index).Nodup) :
    live.Perm desired ↔ live.length = desired.length ∧
      ∀ w ∈ desired, live.find? (index · = index w) = some w := by
  constructor
  · intro h
    have distinct' : (live.map index).Nodup := (h.map index).nodup_iff.2 distinct
    exact ⟨h.length_eq, fun w hw =>
      (find?_key_eq_some_iff distinct').2 ⟨h.mem_iff.2 hw, rfl⟩⟩
  · rintro ⟨count, found⟩
    have subset : desired ⊆ live := fun w hw => (find?_key_eq_some (found w hw)).1
    -- distinct entries that fill a list of their number leave no room in it
    have fills : desired.Subperm live := List.subperm_of_subset (.of_map _ distinct) subset
    exact (fills.perm_of_length_le (Nat.le_of_eq count)).symm

namespace Diff

variable {changes : α → α → List String}

/-- No line about the interfaces means that there are as many as desired, and that each desired one
is the first live one with its index. -/
theorem interfaces_eq_nil_iff_found
    (exact_changes : ∀ i w, index i = index w → (changes i w = [] ↔ i = w)) :
    interfaces index changes live desired = [] ↔ live.length = desired.length ∧
      ∀ w ∈ desired, live.find? (index · = index w) = some w := by
  unfold interfaces
  split
  next count =>
    rw [and_iff_right count, List.flatMap_eq_nil_iff]
    refine forall₂_congr fun w _ => ?_
    cases hi : live.find? (index · = index w) with
    | none => simp
    | some i => simpa using exact_changes i w (find?_key_eq_some hi).2
  next count => simp [count]

/-- No line about the interfaces means that they are the desired ones in some order, where each
desired index is listed once. -/
theorem interfaces_eq_nil_iff (distinct : (desired.map index).Nodup)
    (exact_changes : ∀ i w, index i = index w → (changes i w = [] ↔ i = w)) :
    interfaces index changes live desired = [] ↔ live.Perm desired :=
  (interfaces_eq_nil_iff_found exact_changes).trans (perm_iff_found distinct).symm

end Diff

end

/-! ## 2. Single interfaces -/

namespace Diff

@[simp] theorem nameServers_eq_nil_iff {live desired : List String} :
    nameServers live desired = [] ↔ live = desired := by
  unfold nameServers
  split <;> simp [*]

@[simp] theorem ipPool_eq_nil_iff {index : Int16} {live desired : List IpRange} :
    ipPool index live desired = [] ↔ live = desired := by
  unfold ipPool
  split <;> simp_all [eq_comm]

theorem groupInterface_eq_nil_iff {live desired : GroupInterface}
    (h : live.interfaceIndex = desired.interfaceIndex) :
    groupInterface live desired = [] ↔ live = desired := by
  simp only [groupInterface, List.append_eq_nil_iff, Change.text_eq_nil_iff,
    Change.scalar_eq_nil_iff, Change.optional_eq_nil_iff, ipPool_eq_nil_iff]
  constructor
  · rintro ⟨⟨⟨⟨⟨network, lb⟩, mask⟩, gateway⟩, filter⟩, pool⟩
    cases live
    cases desired
    simp_all
  · rintro rfl
    simp

theorem balancerInterface_eq_nil_iff {live desired : BalancerInterface}
    (h : live.interfaceIndex = desired.interfaceIndex) :
    balancerInterface live desired = [] ↔ live = desired := by
  simp only [balancerInterface, List.append_eq_nil_iff, Change.text_eq_nil_iff,
    Change.optional_eq_nil_iff, ipPool_eq_nil_iff]
  constructor
  · rintro ⟨⟨⟨⟨⟨⟨network, mask⟩, gateway⟩, vip⟩, router⟩, filter⟩, pool⟩
    cases live
    cases desired
    simp_all
  · rintro rfl
    simp

end Diff

/-! ## 3. Groups and load balancers -/

/-- Whether a live group has the desired settings, whatever its name: its fields are the desired
ones, and its interfaces are those that would be requested, in any order. -/
structure Group.SameSettings (g : Group) (w : GroupConfig) : Prop where
  zone : g.zone = w.zone
  workerServiceClassPath : g.workerServiceClassPath = w.workerServiceClassPath
  minNodes : g.minNodes = w.minNodes
  maxNodes : g.maxNodes = w.maxNodes
  nameServers : g.nameServers = w.nameServers
  interfaces : g.interfaces.Perm w.request.interfaces

/-- Whether a live load balancer has the desired settings, whatever its name and owner. -/
structure Balancer.SameSettings (b : Balancer) (w : BalancerConfig) : Prop where
  serviceClassPath : b.serviceClassPath = w.serviceClassPath
  nameServers : b.nameServers = w.nameServers
  interfaces : b.interfaces.Perm w.request.interfaces

/-- A group has no differences exactly when it has the desired settings. -/
theorem Diff.group_eq_nil_iff_sameSettings {g : Group} {w : GroupConfig}
    (distinct : (w.interfaces.map (·.interfaceIndex)).Nodup) :
    Diff.group g w = [] ↔ g.SameSettings w := by
  simp only [Diff.group, List.append_eq_nil_iff, Change.text_eq_nil_iff, Change.scalar_eq_nil_iff,
    nameServers_eq_nil_iff,
    interfaces_eq_nil_iff distinct fun i w h => groupInterface_eq_nil_iff h]
  constructor
  · rintro ⟨⟨⟨⟨⟨zone, path⟩, min⟩, max⟩, servers⟩, interfaces⟩
    exact ⟨zone, path, min, max, servers, interfaces⟩
  · rintro ⟨zone, path, min, max, servers, interfaces⟩
    exact ⟨⟨⟨⟨⟨zone, path⟩, min⟩, max⟩, servers⟩, interfaces⟩

/-- A load balancer has no differences exactly when it has the desired settings. -/
theorem Diff.balancer_eq_nil_iff_sameSettings {b : Balancer} {w : BalancerConfig}
    (distinct : (w.interfaces.map (·.interfaceIndex)).Nodup) :
    Diff.balancer b w = [] ↔ b.SameSettings w := by
  simp only [Diff.balancer, List.append_eq_nil_iff, Change.text_eq_nil_iff,
    nameServers_eq_nil_iff,
    interfaces_eq_nil_iff distinct fun i w h => balancerInterface_eq_nil_iff h]
  constructor
  · rintro ⟨⟨path, servers⟩, interfaces⟩
    exact ⟨path, servers, interfaces⟩
  · rintro ⟨path, servers, interfaces⟩
    exact ⟨⟨path, servers⟩, interfaces⟩

/-- **Infrastructure is compared exactly, up to the order of the interfaces.**  Where each desired
index is listed once, whatever lives, a group or load balancer has no differences exactly when it
has the desired settings.  An interface that lives and is not desired makes a difference, and so
does one that lives twice. -/
theorem infrastructure_compared_exactly :
    (∀ (live : Group) (desired : GroupConfig),
      (desired.interfaces.map (·.interfaceIndex)).Nodup →
      (Diff.group live desired = [] ↔ live.SameSettings desired) ∧
      (∀ i ∈ live.interfaces, i ∉ desired.request.interfaces → Diff.group live desired ≠ []) ∧
      (¬ live.interfaces.Nodup → Diff.group live desired ≠ [])) ∧
    (∀ (live : Balancer) (desired : BalancerConfig),
      (desired.interfaces.map (·.interfaceIndex)).Nodup →
      (Diff.balancer live desired = [] ↔ live.SameSettings desired) ∧
      (∀ i ∈ live.interfaces, i ∉ desired.request.interfaces →
        Diff.balancer live desired ≠ []) ∧
      (¬ live.interfaces.Nodup → Diff.balancer live desired ≠ [])) := by
  constructor
  · intro live desired distinct
    have unchanged := Diff.group_eq_nil_iff_sameSettings (g := live) distinct
    have once : desired.request.interfaces.Nodup := .of_map _ distinct
    refine ⟨unchanged, fun i hi extra none => ?_, fun repeated none => ?_⟩
    · exact extra ((unchanged.1 none).interfaces.mem_iff.1 hi)
    · exact repeated ((unchanged.1 none).interfaces.nodup_iff.2 once)
  · intro live desired distinct
    have unchanged := Diff.balancer_eq_nil_iff_sameSettings (b := live) distinct
    have once : desired.request.interfaces.Nodup := .of_map _ distinct
    refine ⟨unchanged, fun i hi extra none => ?_, fun repeated none => ?_⟩
    · exact extra ((unchanged.1 none).interfaces.mem_iff.1 hi)
    · exact repeated ((unchanged.1 none).interfaces.nodup_iff.2 once)

namespace Wiring

/-- An interface of a group on a network. -/
def port (index : Int16) (network : String) : GroupInterface :=
  ⟨index, network, true, [⟨"10.0.0.1", "10.0.0.9"⟩], some 24, none, none⟩

/-- An interface of a load balancer with a shared address. -/
def front (index : Int16) (vip : String) : BalancerInterface :=
  ⟨index, "lan", [], some 24, none, some vip, some 7, none⟩

/-- A group with two interfaces. -/
def groupConfig : GroupConfig :=
  ⟨"web", "is1a", "cloud/1core", 1, 2, ["8.8.8.8"], [port 0 "lan", port 1 "wan"]⟩

/-- A load balancer with two interfaces. -/
def balancerConfig : BalancerConfig :=
  ⟨"front", "web", "lb/small", [], [front 0 "10.0.1.1", front 1 "10.0.1.2"]⟩

/-- The group that lives with some interfaces. -/
def groupWith (interfaces : List GroupInterface) : Group :=
  { Simulation.storedGroup default groupConfig.request with interfaces }

/-- The load balancer that lives with some interfaces. -/
def balancerWith (interfaces : List BalancerInterface) : Balancer :=
  { Simulation.storedBalancer default balancerConfig.request with interfaces }

/-- In the other order there is no difference; one interface in the place of another is one, and so
is one that lives twice. -/
theorem compared_by_index :
    (groupConfig.interfaces.map (·.interfaceIndex)).Nodup ∧
    (balancerConfig.interfaces.map (·.interfaceIndex)).Nodup ∧
    Diff.group (groupWith [port 1 "wan", port 0 "lan"]) groupConfig = [] ∧
    Diff.group (groupWith [port 0 "lan", port 7 "wan"]) groupConfig ≠ [] ∧
    Diff.group (groupWith [port 0 "lan", port 0 "lan"]) groupConfig ≠ [] ∧
    Diff.balancer (balancerWith [front 1 "10.0.1.2", front 0 "10.0.1.1"]) balancerConfig = [] ∧
    Diff.balancer (balancerWith [front 0 "10.0.1.1", front 7 "10.0.1.2"]) balancerConfig ≠ [] := by
  have groups : (groupConfig.interfaces.map (·.interfaceIndex)).Nodup := by decide
  have balancers : (balancerConfig.interfaces.map (·.interfaceIndex)).Nodup := by decide
  obtain ⟨turned, -, -⟩ := infrastructure_compared_exactly.1
    (groupWith [port 1 "wan", port 0 "lan"]) groupConfig groups
  obtain ⟨-, extra, -⟩ := infrastructure_compared_exactly.1
    (groupWith [port 0 "lan", port 7 "wan"]) groupConfig groups
  obtain ⟨-, -, repeated⟩ := infrastructure_compared_exactly.1
    (groupWith [port 0 "lan", port 0 "lan"]) groupConfig groups
  obtain ⟨turned', -, -⟩ := infrastructure_compared_exactly.2
    (balancerWith [front 1 "10.0.1.2", front 0 "10.0.1.1"]) balancerConfig balancers
  obtain ⟨-, extra', -⟩ := infrastructure_compared_exactly.2
    (balancerWith [front 0 "10.0.1.1", front 7 "10.0.1.2"]) balancerConfig balancers
  refine ⟨groups, balancers, turned.2 ?_, ?_, repeated (by decide), turned'.2 ?_, ?_⟩
  · exact ⟨rfl, rfl, rfl, rfl, rfl, .swap ..⟩
  · exact extra (port 7 "wan") (by decide) (by decide)
  · exact ⟨rfl, rfl, .swap ..⟩
  · exact extra' (front 7 "10.0.1.2") (by decide) (by decide)

/-- An index that is desired twice is looked up twice and found once, so that there is room for an
interface that nobody desires. -/
example : Diff.group (groupWith [port 0 "lan", port 7 "wan"])
    { groupConfig with interfaces := [port 0 "lan", port 0 "lan"] } = [] := by decide +kernel

end Wiring

end Converge
