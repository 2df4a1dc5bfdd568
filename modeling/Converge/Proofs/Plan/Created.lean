import Converge.Proofs.Plan.Infrastructure
import Converge.Proofs.Plan.Update
/-!
# What is left to change after a creation

What was just created is as configured, and a comparison finds nothing to change, wherever what it
looks up by a key is one thing: the interfaces of a group or load balancer by their index, and the
variables of an application by their name.  The checker asks that no two ports of an application
have the same number, but it does not ask the same of interfaces and variables; where two of
them have the same key and differ, each comparison finds a difference, and a group or load balancer
is recreated with every apply.  `ClusterConfig.KeysAgree` says exactly when that cannot happen.

Main statement: `unchanged_after_creation_iff`.
-/

namespace Converge

/-! ## 1. Interfaces -/

/-- Interfaces do not differ from themselves exactly when those with the same index are the
same. -/
theorem Diff.interfaces_self_eq_nil_iff {α : Type} {index : α → Int16}
    {changes : α → α → List String} {l : List α}
    (exact_changes : ∀ i w, index i = index w → (changes i w = [] ↔ i = w)) :
    interfaces index changes l l = [] ↔ ∀ i ∈ l, ∀ j ∈ l, index i = index j → i = j := by
  -- the one that is found by an index is compared with all that have it
  have compared {f w : α} (found : l.find? (index · = index w) = some f) (hw : w ∈ l)
      (h : interfaces index changes l l = []) : f = w := by
    rw [interfaces, if_pos rfl] at h
    have := List.flatMap_eq_nil_iff.1 h w hw
    rw [found] at this
    exact (exact_changes f w (find?_key_eq_some found).2).1 this
  have finds {w : α} (hw : w ∈ l) : ∃ f, l.find? (index · = index w) = some f :=
    Option.isSome_iff_exists.1 (find?_key_isSome hw rfl)
  constructor
  · intro h i hi j hj same
    obtain ⟨f, found⟩ := finds hi
    exact (compared found hi h).symm.trans (compared (same ▸ found) hj h)
  · intro agree
    rw [interfaces, if_pos rfl]
    refine List.flatMap_eq_nil_iff.2 fun w hw => ?_
    obtain ⟨f, found⟩ := finds hw
    obtain ⟨hf, same⟩ := find?_key_eq_some found
    rw [found]
    exact (exact_changes f w same).2 (agree f hf w hw same)

/-- When a group that was just created has no differences. -/
theorem GroupConfig.created_unchanged_iff (g : GroupConfig) (id : Uuid) :
    Diff.group (Simulation.storedGroup id g.request) g = [] ↔
      ∀ i ∈ g.interfaces, ∀ j ∈ g.interfaces, i.interfaceIndex = j.interfaceIndex → i = j := by
  rw [← Diff.interfaces_self_eq_nil_iff fun _ _ => Diff.groupInterface_eq_nil_iff]
  simp [Diff.group, Simulation.storedGroup, GroupConfig.request]

/-- When a load balancer that was just created has no differences. -/
theorem BalancerConfig.created_unchanged_iff (b : BalancerConfig) (id : Uuid) :
    Diff.balancer (Simulation.storedBalancer id b.request) b = [] ↔
      ∀ i ∈ b.interfaces, ∀ j ∈ b.interfaces, i.interfaceIndex = j.interfaceIndex → i = j := by
  rw [← Diff.interfaces_self_eq_nil_iff fun _ _ => Diff.balancerInterface_eq_nil_iff]
  simp [Diff.balancer, Simulation.storedBalancer, BalancerConfig.request]

/-! ## 2. Versions -/

namespace ApplicationSpec

variable {spec : ApplicationSpec}

/-- A version that has nothing to inherit but an image. -/
def blankVersion (image : String) : ApplicationVersion where
  version := 0
  cpu := 0
  memory := 0
  scalingMode := ""
  fixedScale := none
  minScale := none
  maxScale := none
  scaleInThreshold := none
  scaleOutThreshold := none
  image := image
  cmd := []
  registryUsername := none
  exposedPorts := []
  env := []

/-- The first version is written as if there were a version before it with the image of the spec
and nothing else. -/
theorem request_none (spec : ApplicationSpec) :
    spec.request none = spec.request (some (blankVersion spec.image)) := rfl

/-- What can be inherited of a blank version cannot be seen. -/
theorem settles_blankVersion {image : String} :
    spec.Settles (blankVersion image) ↔ ∀ e ∈ spec.env, spec.Repeats e where
  mp h := h.keys
  mpr h := ⟨fun _ => rfl, fun _ => rfl, fun _ _ => rfl, fun _ _ => rfl, fun _ => rfl, h⟩

/-- When a version that was just created has no differences. -/
theorem Sound.created_unchanged_iff (sound : spec.Sound) (name : String) (number : Int32)
    (ledger : SecretLedger) :
    Diff.application name (Simulation.stored number (spec.request none)) spec
      (ledger.record name spec).1 = .ok [] ↔ ∀ e ∈ spec.env, spec.Repeats e := by
  rw [request_none, sound.settles_iff, settles_blankVersion]

end ApplicationSpec

/-! ## 3. The whole configuration -/

namespace ClusterConfig

/-- Whether no comparison finds a difference in what was just created: in a group or load balancer
under any identifier, and in a first version under any number, against the ledger in which it was
recorded. -/
structure UnchangedAfterCreation (c : ClusterConfig) : Prop where
  groups : ∀ g ∈ c.groups, ∀ id, Diff.group (Simulation.storedGroup id g.request) g = []
  balancers : ∀ b ∈ c.balancers, ∀ id,
    Diff.balancer (Simulation.storedBalancer id b.request) b = []
  applications : ∀ a ∈ c.applications, ∀ number (ledger : SecretLedger),
    Diff.application a.name (Simulation.stored number (a.spec.request none)) a.spec
      (ledger.record a.name a.spec).1 = .ok []

/-- Whether what has the same key is the same: the interfaces of a group or load balancer with one
index, and what the variables of an application with one name say. -/
structure KeysAgree (c : ClusterConfig) : Prop where
  groups : ∀ g ∈ c.groups, ∀ i ∈ g.interfaces, ∀ j ∈ g.interfaces,
    i.interfaceIndex = j.interfaceIndex → i = j
  balancers : ∀ b ∈ c.balancers, ∀ i ∈ b.interfaces, ∀ j ∈ b.interfaces,
    i.interfaceIndex = j.interfaceIndex → i = j
  applications : ∀ a ∈ c.applications, ∀ e ∈ a.spec.env, a.spec.Repeats e

end ClusterConfig

/-- **What was just created is left alone** exactly when no two interfaces of a group or load
balancer, and no two variables of an application, have the same key and say different things.  The
configuration is valid. -/
theorem unchanged_after_creation_iff {c : ClusterConfig} {latestTag : Bool}
    (valid : (c.check latestTag).isValid) : c.UnchangedAfterCreation ↔ c.KeysAgree := by
  have sound := ClusterConfig.sound_of_isValid valid
  constructor
  · rintro ⟨groups, balancers, applications⟩
    exact {
      groups := fun g hg => (g.created_unchanged_iff default).1 (groups g hg default)
      balancers := fun b hb => (b.created_unchanged_iff default).1 (balancers b hb default)
      applications := fun a ha => ((sound.specs a ha).created_unchanged_iff a.name 1 .empty).1
        (applications a ha 1 .empty) }
  · rintro ⟨groups, balancers, applications⟩
    exact {
      groups := fun g hg id => (g.created_unchanged_iff id).2 (groups g hg)
      balancers := fun b hb id => (b.created_unchanged_iff id).2 (balancers b hb)
      applications := fun a ha number ledger =>
        ((sound.specs a ha).created_unchanged_iff a.name number ledger).2 (applications a ha) }

/-! ## 4. Two configurations -/

namespace Creation

/-- A cluster with one resource of each kind: an interface and a variable of each, and another of
each with a second key. -/
def configOf (index : Int16) (key : String) : ClusterConfig where
  clusterName := "prod"
  cluster := none
  groups := [⟨"web", "is1a", "cloud/1core", 1, 2, [],
    [⟨0, "lan", true, [], none, none, none⟩, ⟨index, "wan", true, [], none, none, none⟩]⟩]
  balancers := [⟨"front", "web", "cloud/lb", [],
    [⟨0, "lan", [], none, none, none, none, none⟩,
      ⟨index, "wan", [], none, none, none, none, none⟩]⟩]
  applications := [⟨"api", { Update.silentSpec with
    env := [⟨"MODE", some "fast", false, none⟩, ⟨key, some "safe", false, none⟩] }⟩]

/-- With other keys, nothing is changed after the creation. -/
theorem unchanged_after_creation : (configOf 1 "LEVEL").UnchangedAfterCreation := by
  have valid : ((configOf 1 "LEVEL").check true).isValid := by decide +kernel
  refine (unchanged_after_creation_iff valid).2 ⟨?_, ?_, ?_⟩
  · decide
  · decide
  · refine List.forall_mem_singleton.2 (List.forall_mem_cons.2 ⟨⟨_, rfl, rfl, rfl⟩, ?_⟩)
    exact List.forall_mem_singleton.2 ⟨_, rfl, rfl, rfl⟩

/-- With the same keys the configuration is valid as well, and what was created differs from it. -/
theorem changed_after_creation : ((configOf 0 "MODE").check true).isValid ∧
    (configOf 0 "MODE").groups.map (fun g => Diff.group (Simulation.storedGroup default g.request) g)
      = [["Interface[0].Upstream: lan -> wan"]] ∧
    (configOf 0 "MODE").balancers.map
      (fun b => Diff.balancer (Simulation.storedBalancer default b.request) b)
      = [["Interface[0].Upstream: lan -> wan"]] ∧
    (configOf 0 "MODE").applications.map (fun a =>
      Diff.application a.name (Simulation.stored 1 (a.spec.request none)) a.spec
        (SecretLedger.empty.record a.name a.spec).1)
      = [.ok ["Env update: MODE=safe -> fast"]] := by
  refine ⟨?_, ?_, ?_, ?_⟩ <;> decide +kernel

end Creation

end Converge
