import Converge.Config.Validation
import Mathlib.Data.List.DropRight
/-!
# The documented rules

`ClusterConfig.Documented` says of a configuration that it is as it is documented to be, part by
part and without a word on how that is checked.  The checker reports no violation of exactly these
configurations.

It looks at each entry of a list together with the keys of the entries before it (`eachWithKeys`),
and an entry with an empty name leaves no key.  That makes no difference for lists without a
violation, since an empty name is one; so each list passes when its entries do and their keys are
distinct (`eachWithKeys_eq_nil_iff`), and every level of the configuration gets one equivalence.

Main statement: `valid_iff_documented`.
-/

namespace Converge

/-! ## 1. The rules -/

/-- Whether a text has nothing but white space in it. -/
def Blank (s : String) : Prop := ∀ c ∈ s.toList, Char.isBlank c

/-- What is documented of a group, apart from its name being its own. -/
structure GroupConfig.Documented (g : GroupConfig) : Prop where
  name : g.name ≠ ""
  zone : g.zone ≠ ""
  workerServiceClassPath : g.workerServiceClassPath ≠ ""
  nodes : 0 ≤ g.minNodes ∧ g.minNodes ≤ g.maxNodes

/-- What is documented of a load balancer, apart from its name being its own. -/
structure BalancerConfig.Documented (b : BalancerConfig) : Prop where
  name : b.name ≠ ""
  groupName : b.groupName ≠ ""
  serviceClassPath : b.serviceClassPath ≠ ""

/-- What is documented of the scaling of a spec: it is manual and fixed, or between two bounds. -/
inductive ApplicationSpec.Scaled (s : ApplicationSpec) : Prop where
  | manual {n} (mode : s.scalingMode = "manual") (fixed : s.fixedScale = some n)
  | cpu {m n} (mode : s.scalingMode = "cpu") (min : s.minScale = some m) (max : s.maxScale = some n)
      (le : m ≤ n)

/-- What is documented of a spec. -/
structure ApplicationSpec.Documented (s : ApplicationSpec) : Prop where
  cpu : 100 ≤ s.cpu ∧ s.cpu ≤ 64000
  memory : 128 ≤ s.memory ∧ s.memory ≤ 131072
  scaleInThreshold : ∀ n, s.scaleInThreshold = some n → 30 ≤ n ∧ n ≤ 70
  scaleOutThreshold : ∀ n, s.scaleOutThreshold = some n → 50 ≤ n ∧ n ≤ 99
  image : s.image ≠ ""
  scaling : s.Scaled
  registryPassword : s.registryPassword.isSome → s.registryPasswordVersion.isSome
  exposed : s.exposedPorts ≠ []
  ports : ∀ p ∈ s.exposedPorts, 1 ≤ p.targetPort ∧ p.targetPort ≤ 65535
  portNumbers : (s.exposedPorts.map (·.targetPort)).Nodup
  keys : ∀ e ∈ s.env, e.key ≠ ""
  secrets : ∀ e ∈ s.env, e.secret → e.secretVersion.isSome

/-- What is documented of an application, apart from its name being its own. -/
structure ApplicationConfig.Documented (a : ApplicationConfig) : Prop where
  name : a.name ≠ ""
  spec : a.spec.Documented

/-- What is documented of a configuration. -/
structure ClusterConfig.Documented (c : ClusterConfig) : Prop where
  clusterName : ¬Blank c.clusterName
  principal : ∀ s, c.cluster = some s → ¬Blank s.servicePrincipalId
  groups : ∀ g ∈ c.groups, g.Documented
  groupNames : (c.groups.map (·.name)).Nodup
  balancers : ∀ b ∈ c.balancers, b.Documented
  balancerNames : (c.balancers.map fun b => (b.groupName, b.name)).Nodup
  applications : ∀ a ∈ c.applications, a.Documented
  applicationNames : (c.applications.map (·.name)).Nodup

/-- Nothing is left of a blank text when the blanks are cut off both ends, and of no other. -/
theorem isEmpty_trimBlank {s : String} : (trimBlank s).isEmpty = true ↔ Blank s := by
  have both : trimBlank s =
      String.ofList ((s.toList.dropWhile Char.isBlank).rdropWhile Char.isBlank) := rfl
  rw [String.isEmpty_iff, both, String.ofList_eq_empty_iff, List.rdropWhile_eq_nil_iff,
    ← List.dropWhile_eq_nil_iff, List.dropWhile_idempotent, List.dropWhile_eq_nil_iff, Blank]

/-- A word names the mode that it is the word for. -/
theorem ScalingMode.eq_word_of_ofWord? {w : String} {mode : ScalingMode}
    (h : ofWord? w = some mode) : w = mode.word := by
  unfold ofWord? at h
  split at h
  next hw => exact Option.some.inj h ▸ hw
  next =>
    split at h
    next hw => exact Option.some.inj h ▸ hw
    next => nomatch h

namespace Validation

@[simp] theorem when_eq_nil {broken : Bool} {field message : String} :
    when broken field message = [] ↔ broken = false := by
  cases broken <;> simp [when]

/-! ## 2. Going through a list -/

/-- **A list passes when its entries do and their keys are distinct**, by induction on it: the keys
that were seen grow by those of the entries that passed. -/
theorem eachWithKeys_eq_nil_iff {κ α β : Type} [BEq κ] {key : α → Option κ}
    {check : Nat → List κ → α → List β} {f : α → κ} {P : α → Prop}
    (rule : ∀ j seen a, check j seen a = [] ↔ P a ∧ f a ∉ seen)
    (left : ∀ a, P a → key a = some (f a)) :
    ∀ {l : List α} {i : Nat} {seen : List κ}, eachWithKeys key check i seen l = [] ↔
      (∀ a ∈ l, P a) ∧ (l.map f).Nodup ∧ ∀ a ∈ l, f a ∉ seen
  | [], _, _ => by simp [eachWithKeys]
  | a :: rest, i, seen => by
    have split : eachWithKeys key check i seen (a :: rest) = [] ↔ check i seen a = [] ∧
        eachWithKeys key check (i + 1) ((key a).toList ++ seen) rest = [] :=
      List.append_eq_nil_iff
    rw [split, rule, eachWithKeys_eq_nil_iff rule left, List.map_cons, List.nodup_cons]
    constructor
    · rintro ⟨⟨ha, new⟩, all, distinct, fresh⟩
      rw [left a ha] at fresh
      simp only [Option.toList_some, List.singleton_append, List.mem_cons, not_or] at fresh
      refine ⟨List.forall_mem_cons.2 ⟨ha, all⟩, ⟨fun h => ?_, distinct⟩,
        List.forall_mem_cons.2 ⟨new, fun b hb => (fresh b hb).2⟩⟩
      obtain ⟨b, hb, same⟩ := List.mem_map.1 h
      exact (fresh b hb).1 same
    · rintro ⟨all, ⟨own, distinct⟩, fresh⟩
      obtain ⟨ha, all⟩ := List.forall_mem_cons.1 all
      obtain ⟨new, fresh⟩ := List.forall_mem_cons.1 fresh
      refine ⟨⟨ha, new⟩, all, distinct, fun b hb => ?_⟩
      rw [left a ha]
      simp only [Option.toList_some, List.singleton_append, List.mem_cons, not_or]
      exact ⟨fun same => own (same ▸ List.mem_map_of_mem hb), fresh b hb⟩

/-- The rule for a name: it is not empty, and its key was not seen before. -/
theorem nameRule_eq_nil {κ : Type} [BEq κ] [LawfulBEq κ] {name field message : String}
    {v : Violation} {seen : List κ} {k : κ} :
    (if name.isEmpty then [v] else when (seen.contains k) field message) = [] ↔
      name ≠ "" ∧ k ∉ seen := by
  cases h : name.isEmpty <;> simp_all

/-! ## 3. Groups and load balancers -/

theorem group_eq_nil_iff (i : Nat) (seen : List String) (g : GroupConfig) :
    group i seen g = [] ↔ g.Documented ∧ g.name ∉ seen := by
  simp only [group, List.append_eq_nil_iff, nameRule_eq_nil, when_eq_nil, Bool.or_eq_false_iff,
    decide_eq_false_iff_not, Int32.not_lt]
  constructor
  · rintro ⟨⟨⟨⟨name, new⟩, zone⟩, path⟩, nodes⟩
    exact ⟨⟨name, by simpa using zone, by simpa using path, nodes⟩, new⟩
  · rintro ⟨⟨name, zone, path, nodes⟩, new⟩
    exact ⟨⟨⟨⟨name, new⟩, by simpa using zone⟩, by simpa using path⟩, nodes⟩

theorem groups_eq_nil_iff {gs : List GroupConfig} :
    groups gs = [] ↔ (∀ g ∈ gs, g.Documented) ∧ (gs.map (·.name)).Nodup := by
  refine (eachWithKeys_eq_nil_iff group_eq_nil_iff fun g hg => ?_).trans (by simp)
  simp [nameKey, hg.name]

theorem balancer_eq_nil_iff (i : Nat) (seen : List (String × String)) (b : BalancerConfig) :
    balancer i seen b = [] ↔ b.Documented ∧ (b.groupName, b.name) ∉ seen := by
  simp only [balancer, List.append_eq_nil_iff, nameRule_eq_nil, when_eq_nil]
  constructor
  · rintro ⟨⟨⟨name, new⟩, owner⟩, path⟩
    exact ⟨⟨name, by simpa using owner, by simpa using path⟩, new⟩
  · rintro ⟨⟨name, owner, path⟩, new⟩
    exact ⟨⟨⟨name, new⟩, by simpa using owner⟩, by simpa using path⟩

theorem balancers_eq_nil_iff {bs : List BalancerConfig} :
    balancers bs = [] ↔
      (∀ b ∈ bs, b.Documented) ∧ (bs.map fun b => (b.groupName, b.name)).Nodup := by
  refine (eachWithKeys_eq_nil_iff balancer_eq_nil_iff fun b hb => ?_).trans (by simp)
  simp [balancerKey, hb.name]

/-! ## 4. Applications -/

theorem outside_eq_false_iff {lo hi : Int32} {o : Option Int32} :
    outside lo hi o = false ↔ ∀ n, o = some n → lo ≤ n ∧ n ≤ hi := by
  cases o <;> simp [outside, Int32.not_lt]

theorem specScaling_eq_nil_iff {at_ : String} {s : ApplicationSpec} :
    specScaling at_ s = [] ↔ s.Scaled := by
  unfold specScaling
  constructor
  · intro h
    split at h
    next mode =>
      obtain ⟨n, fixed⟩ := Option.isSome_iff_exists.1 (by simpa using h : s.fixedScale.isSome)
      exact .manual (ScalingMode.eq_word_of_ofWord? mode) fixed
    next mode =>
      obtain ⟨given, order⟩ := List.append_eq_nil_iff.1 h
      split at order
      next m n min max =>
        refine .cpu (ScalingMode.eq_word_of_ofWord? mode) min max ?_
        simpa [Int32.not_lt] using order
      next missing =>
        simp only [when_eq_nil, Bool.or_eq_false_iff, Option.isNone_eq_false_iff,
          Option.isSome_iff_exists] at given
        obtain ⟨⟨m, min⟩, n, max⟩ := given
        exact absurd max (missing m n min)
    next => nomatch h
  · rintro (⟨mode, fixed⟩ | ⟨mode, min, max, le⟩)
    · have manual : s.scaling = some .manual := by rw [ApplicationSpec.scaling, mode]; rfl
      simp [manual, fixed]
    · have cpu : s.scaling = some .cpu := by rw [ApplicationSpec.scaling, mode]; rfl
      simp [cpu, min, max, le, Int32.not_lt]

theorem ports_eq_nil_iff {at_ : String} {ports : List ExposedPort} :
    eachWithKeys (fun p => some p.targetPort) (port at_) 0 [] ports = [] ↔
      (∀ p ∈ ports, 1 ≤ p.targetPort ∧ p.targetPort ≤ 65535) ∧
        (ports.map (·.targetPort)).Nodup := by
  have rule (j : Nat) (seen : List Int32) (p : ExposedPort) : port at_ j seen p = [] ↔
      (1 ≤ p.targetPort ∧ p.targetPort ≤ 65535) ∧ p.targetPort ∉ seen := by
    simp [port, Int32.not_lt]
  exact (eachWithKeys_eq_nil_iff rule fun _ _ => rfl).trans (by simp)

theorem env_eq_nil_iff {at_ : String} {env : List EnvEntry} :
    (env.zipIdx.flatMap fun (e, j) => envEntry at_ j e) = [] ↔
      (∀ e ∈ env, e.key ≠ "") ∧ ∀ e ∈ env, e.secret → e.secretVersion.isSome := by
  have rule (j : Nat) (e : EnvEntry) : envEntry at_ j e = [] ↔
      e.key ≠ "" ∧ (e.secret → e.secretVersion.isSome) := by
    simp [envEntry]
  rw [List.flatMap_eq_nil_iff]
  constructor
  · intro h
    have each : ∀ e ∈ env, e.key ≠ "" ∧ (e.secret → e.secretVersion.isSome) := by
      intro e he
      obtain ⟨j, hj⟩ := List.getElem?_of_mem he
      exact (rule j e).1 (h (e, j) (List.mem_zipIdx_iff_getElem?.2 hj))
    exact ⟨fun e he => (each e he).1, fun e he => (each e he).2⟩
  · rintro ⟨keys, secrets⟩ ⟨e, j⟩ he
    have he := List.mem_of_getElem? (List.mem_zipIdx_iff_getElem?.1 he)
    exact (rule j e).2 ⟨keys e he, secrets e he⟩

theorem spec_eq_nil_iff {at_ : String} {s : ApplicationSpec} :
    spec at_ s = [] ↔ s.Documented := by
  simp only [spec, specFields, List.append_eq_nil_iff, when_eq_nil, specScaling_eq_nil_iff,
    ports_eq_nil_iff, env_eq_nil_iff, outside_eq_false_iff, Bool.or_eq_false_iff,
    decide_eq_false_iff_not, Int64.not_lt]
  constructor
  · rintro ⟨⟨⟨⟨⟨⟨⟨⟨⟨cpu, exposed⟩, image⟩, memory⟩, inAt⟩, outAt⟩, scaling⟩, password⟩,
      ports, numbers⟩, keys, secrets⟩
    exact ⟨cpu, memory, inAt, outAt, by simpa using image, scaling, by simpa using password,
      by simpa using exposed, ports, numbers, keys, secrets⟩
  · rintro ⟨cpu, memory, inAt, outAt, image, scaling, password, exposed, ports, numbers, keys,
      secrets⟩
    exact ⟨⟨⟨⟨⟨⟨⟨⟨⟨cpu, by simpa using exposed⟩, by simpa using image⟩, memory⟩, inAt⟩, outAt⟩,
      scaling⟩, by simpa using password⟩, ports, numbers⟩, keys, secrets⟩

theorem application_eq_nil_iff (i : Nat) (seen : List String) (a : ApplicationConfig) :
    application i seen a = [] ↔ a.Documented ∧ a.name ∉ seen := by
  simp only [application, List.append_eq_nil_iff, nameRule_eq_nil, spec_eq_nil_iff]
  constructor
  · rintro ⟨⟨name, new⟩, spec⟩
    exact ⟨⟨name, spec⟩, new⟩
  · rintro ⟨⟨name, spec⟩, new⟩
    exact ⟨⟨name, new⟩, spec⟩

theorem applications_eq_nil_iff {as : List ApplicationConfig} :
    applications as = [] ↔ (∀ a ∈ as, a.Documented) ∧ (as.map (·.name)).Nodup := by
  refine (eachWithKeys_eq_nil_iff application_eq_nil_iff fun a ha => ?_).trans (by simp)
  simp [nameKey, ha.name]

/-! ## 5. The whole configuration -/

theorem settings_eq_nil_iff {settings : Option ClusterSettings} :
    (match settings with
      | some s => when (trimBlank s.servicePrincipalId).isEmpty "cluster.servicePrincipalId"
          "servicePrincipalId is required when cluster settings are given"
      | none => []) = [] ↔ ∀ s, settings = some s → ¬Blank s.servicePrincipalId := by
  cases settings with
  | none => simp
  | some s => simp [← isEmpty_trimBlank]

/-- **No rule is broken exactly when everything is as documented.** -/
theorem errors_eq_nil_iff {c : ClusterConfig} : errors c = [] ↔ c.Documented := by
  simp only [errors, List.append_eq_nil_iff, groups_eq_nil_iff, balancers_eq_nil_iff,
    applications_eq_nil_iff, when_eq_nil]
  constructor
  · rintro ⟨⟨⟨⟨name, principal⟩, groups, groupNames⟩, balancers, balancerNames⟩, applications,
      applicationNames⟩
    refine ⟨fun blank => ?_, settings_eq_nil_iff.1 principal, groups, groupNames, balancers,
      balancerNames, applications, applicationNames⟩
    exact Bool.false_ne_true (name.symm.trans (isEmpty_trimBlank.2 blank))
  · rintro ⟨name, principal, groups, groupNames, balancers, balancerNames, applications,
      applicationNames⟩
    refine ⟨⟨⟨⟨?_, settings_eq_nil_iff.2 principal⟩, groups, groupNames⟩, balancers,
      balancerNames⟩, applications, applicationNames⟩
    exact Bool.eq_false_iff.2 fun empty => name (isEmpty_trimBlank.1 empty)

end Validation

/-! ## 6. Checking -/

/-- **The checker accepts exactly the documented configurations.**  What else is worth a look does
not come into it.  Validation fails with the first broken rule if there is one, and comes to the
report otherwise. -/
theorem valid_iff_documented (c : ClusterConfig) (latestTag : Bool) :
    ((c.check latestTag).errors = [] ↔ c.Documented) ∧
    (∀ other, (c.check latestTag).errors = (c.check other).errors) ∧
    c.validate latestTag = match (c.check latestTag).errors with
      | v :: _ => .error (.invalid v.message v.field)
      | [] => .ok (c.check latestTag) := by
  refine ⟨Validation.errors_eq_nil_iff, fun _ => rfl, ?_⟩
  cases h : (c.check latestTag).errors with
  | nil => simp [ClusterConfig.validate, Report.failure?, h]
  | cons v rest => simp [ClusterConfig.validate, Report.failure?, h]

end Converge
