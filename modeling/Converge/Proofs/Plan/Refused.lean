import Converge.Proofs.Config.Validation
import Converge.Proofs.Plan.Applications
import Converge.Proofs.Plan.Rearranged
import Mathlib.Data.List.Duplicate
/-!
# Why planning fails

Only the comparison of an application with its latest version can fail, and only for a target port
that one of the two sides lists twice.  Ports are compared in the order of their numbers, so the
first that is found to be repeated is the smallest one (`firstRepeated_eq_some_iff`); the version is
looked at before the spec, and the applications in the order of the configuration.

A valid spec lists no port twice, which leaves the version as the only cause.

Main statement: `plan_refused`.
-/

namespace Converge

/-! ## 1. The smallest port that is listed twice -/

/-- Whether a target port is the smallest of those that are listed more than once. -/
def SmallestDuplicate (ports : List ExposedPort) (n : Int32) : Prop :=
  (ports.map (·.targetPort)).Duplicate n ∧
    ∀ m, (ports.map (·.targetPort)).Duplicate m → n ≤ m

namespace NormalSpec

/-- Whether a number comes up again in a list, after those that were seen before. -/
def Recurs (seen l : List Int32) (n : Int32) : Prop := n ∈ l ∧ n ∈ seen ∨ l.Duplicate n

/-- In a sorted list the first number that comes up again is the smallest that does, by induction
on the list: a number that is not seen yet joins those that were. -/
theorem firstRepeated_eq_some_iff {n : Int32} : ∀ {l seen : List Int32}, l.Pairwise (· ≤ ·) →
    (firstRepeated seen l = some n ↔ Recurs seen l n ∧ ∀ m, Recurs seen l m → n ≤ m)
  | [], seen, _ => by simp [firstRepeated, Recurs]
  | a :: rest, seen, sorted => by
    have least : ∀ m, Recurs seen (a :: rest) m → a ≤ m := by
      intro m h
      have hm : m ∈ a :: rest := h.elim (·.1) (·.mem)
      rcases List.mem_cons.1 hm with rfl | hm
      · exact Int32.le_refl m
      · exact List.rel_of_pairwise_cons sorted hm
    unfold firstRepeated
    split
    next ha =>
      have here : Recurs seen (a :: rest) a := .inl ⟨List.mem_cons_self, ha⟩
      constructor
      · intro h
        obtain rfl := Option.some.inj h
        exact ⟨here, least⟩
      · rintro ⟨hn, smallest⟩
        exact congrArg some (Int32.le_antisymm (least n hn) (smallest a here))
    next ha =>
      have same (m : Int32) : Recurs (a :: seen) rest m ↔ Recurs seen (a :: rest) m := by
        simp only [Recurs, List.mem_cons, List.duplicate_cons_iff]
        constructor
        · rintro (⟨hm, rfl | hs⟩ | hd)
          · exact .inr (.inl ⟨rfl, hm⟩)
          · exact .inl ⟨.inr hm, hs⟩
          · exact .inr (.inr hd)
        · rintro (⟨rfl | hm, hs⟩ | ⟨rfl, hm⟩ | hd)
          · exact absurd hs ha
          · exact .inl ⟨hm, .inr hs⟩
          · exact .inl ⟨hm, .inl rfl⟩
          · exact .inr hd
      simp only [firstRepeated_eq_some_iff sorted.of_cons, same]

variable {s : NormalSpec} {ports : List ExposedPort}

/-- The port that is found to be repeated is the smallest that is listed twice. -/
theorem firstRepeated_normalPorts {n : Int32} :
    firstRepeated [] ((normalPorts ports).map (·.targetPort)) = some n ↔
      SmallestDuplicate ports n := by
  have sorted : ((normalPorts ports).map (·.targetPort)).Pairwise (· ≤ ·) :=
    List.pairwise_map.2 (normalPorts_pairwise ports)
  have numbers : ((normalPorts ports).map (·.targetPort)).Perm (ports.map (·.targetPort)) := by
    have perm : (normalPorts ports).Perm (ports.map ExposedPort.normal) := List.mergeSort_perm ..
    have := perm.map (·.targetPort)
    rwa [List.map_map] at this
  have same (m : Int32) : Recurs [] ((normalPorts ports).map (·.targetPort)) m ↔
      (ports.map (·.targetPort)).Duplicate m := by
    simp only [Recurs, List.not_mem_nil, and_false, false_or, List.duplicate_iff_two_le_count,
      numbers.count_eq]
  simp only [firstRepeated_eq_some_iff sorted, SmallestDuplicate, same]

/-- There is one unless the ports are distinct. -/
theorem exists_smallestDuplicate_iff :
    (∃ n, SmallestDuplicate ports n) ↔ ¬(ports.map (·.targetPort)).Nodup := by
  simp only [← firstRepeated_normalPorts, ← Option.isSome_iff_exists, Option.isSome_iff_ne_none,
    ne_eq, firstRepeated_eq_none_iff, nodup_normalPorts_iff]
  simp

theorem repeatedPort_eq_some_iff {n : Int32} (h : s.exposedPorts = normalPorts ports) :
    s.repeatedPort = some n ↔ SmallestDuplicate ports n := by
  rw [repeatedPort, h, firstRepeated_normalPorts]

theorem repeatedPort_eq_none_iff (h : s.exposedPorts = normalPorts ports) :
    s.repeatedPort = none ↔ (ports.map (·.targetPort)).Nodup := by
  rw [repeatedPort, h, firstRepeated_eq_none_iff, nodup_normalPorts_iff]
  simp

end NormalSpec

/-! ## 2. An application that is refused -/

/-- Whether a configured application cannot be planned: it lives with a latest version, and this or
the spec lists a target port twice. -/
def ApplicationConfig.Refused (live : LiveState) (w : ApplicationConfig) : Prop :=
  ∃ l ∈ live.applications, l.application.name = w.name ∧ ∃ v, l.latestVersion = some v ∧
    (¬(v.exposedPorts.map (·.targetPort)).Nodup ∨ ¬(w.spec.exposedPorts.map (·.targetPort)).Nodup)

/-- The target port for which it is refused: the smallest that the version lists twice, or else the
smallest that the spec lists twice. -/
inductive ApplicationConfig.RefusedFor (live : LiveState) (w : ApplicationConfig) :
    Int32 → Prop where
  | version {l v n} (hl : l ∈ live.applications) (hn : l.application.name = w.name)
      (hv : l.latestVersion = some v) (h : SmallestDuplicate v.exposedPorts n) : RefusedFor live w n
  | spec {l v n} (hl : l ∈ live.applications) (hn : l.application.name = w.name)
      (hv : l.latestVersion = some v) (fine : (v.exposedPorts.map (·.targetPort)).Nodup)
      (h : SmallestDuplicate w.spec.exposedPorts n) : RefusedFor live w n

/-- The failure of a plan for an application and a target port. -/
def Failure.duplicatePort (name : String) (n : Int32) : Failure :=
  .plan ⟨name, "duplicate target port " ++ toString n⟩

namespace Planner

variable {live : LiveState} {ledger : SecretLedger} {w : ApplicationConfig} {f : Failure}
  {l : LiveApplication}

/-- An application is found by its name where no other has the same. -/
theorem application?_eq_some_iff (distinct : (live.applications.map (·.application.name)).Nodup)
    {name : String} : live.application? name = some l ↔
      l ∈ live.applications ∧ l.application.name = name := by
  have reversed : (live.applications.reverse.map (·.application.name)).Nodup := by
    rwa [List.map_reverse, List.nodup_reverse]
  exact (find?_key_eq_some_iff reversed).trans (by rw [List.mem_reverse])

theorem exists_refusedFor_iff : (∃ n, w.RefusedFor live n) ↔ w.Refused live := by
  constructor
  · rintro ⟨n, ⟨hl, hn, hv, h⟩ | ⟨hl, hn, hv, -, h⟩⟩
    · exact ⟨_, hl, hn, _, hv, .inl (NormalSpec.exists_smallestDuplicate_iff.1 ⟨n, h⟩)⟩
    · exact ⟨_, hl, hn, _, hv, .inr (NormalSpec.exists_smallestDuplicate_iff.1 ⟨n, h⟩)⟩
  · rintro ⟨l, hl, hn, v, hv, twice⟩
    by_cases fine : (v.exposedPorts.map (·.targetPort)).Nodup
    · obtain ⟨n, h⟩ := NormalSpec.exists_smallestDuplicate_iff.2
        (twice.resolve_left (not_not_intro fine))
      exact ⟨n, .spec hl hn hv fine h⟩
    · obtain ⟨n, h⟩ := NormalSpec.exists_smallestDuplicate_iff.2 fine
      exact ⟨n, .version hl hn hv h⟩

/-- What an application is refused for, as the planner finds it. -/
theorem refusedFor_iff (distinct : (live.applications.map (·.application.name)).Nodup) {n : Int32} :
    w.RefusedFor live n ↔ ∃ l v, live.application? w.name = some l ∧ l.latestVersion = some v ∧
      v.normal.repeatedPort.or w.spec.normal.repeatedPort = some n := by
  have found (v : ApplicationVersion) :
      v.normal.repeatedPort.or w.spec.normal.repeatedPort = some n ↔
        SmallestDuplicate v.exposedPorts n ∨
          (v.exposedPorts.map (·.targetPort)).Nodup ∧ SmallestDuplicate w.spec.exposedPorts n := by
    rw [Option.or_eq_some_iff, NormalSpec.repeatedPort_eq_some_iff rfl,
      NormalSpec.repeatedPort_eq_none_iff rfl, NormalSpec.repeatedPort_eq_some_iff rfl]
  simp only [application?_eq_some_iff distinct, found]
  constructor
  · rintro (⟨hl, hn, hv, h⟩ | ⟨hl, hn, hv, fine, h⟩)
    · exact ⟨_, _, ⟨hl, hn⟩, hv, .inl h⟩
    · exact ⟨_, _, ⟨hl, hn⟩, hv, .inr ⟨fine, h⟩⟩
  · rintro ⟨l, v, ⟨hl, hn⟩, hv, h | ⟨fine, h⟩⟩
    · exact .version hl hn hv h
    · exact .spec hl hn hv fine h

/-- The failure of an application has its name in place of that of a side. -/
theorem applicationAction_eq_error_iff
    (distinct : (live.applications.map (·.application.name)).Nodup) :
    applicationAction live ledger w = .error f ↔
      ∃ n, w.RefusedFor live n ∧ f = .duplicatePort w.name n := by
  simp only [refusedFor_iff distinct]
  unfold applicationAction
  cases live.application? w.name with
  | none => simp
  | some l =>
    cases hv : l.latestVersion with
    | none => simp [hv]
    | some v =>
      simp only [hv, Diff.application, NormalSpec.compare, NormalSpec.refusal, Option.some.injEq,
        exists_and_left, exists_eq_left', Failure.duplicatePort]
      cases v.normal.repeatedPort with
      | some n => simpa using eq_comm
      | none =>
        cases w.spec.normal.repeatedPort with
        | some n => simpa using eq_comm
        | none => simp

end Planner

/-! ## 3. The plan -/

open Planner

/-- A traversal fails with the failure of the first entry that fails. -/
theorem mapM_eq_error_iff {ε α β : Type} {f : α → Except ε β} {e : ε} : ∀ {l : List α},
    l.mapM f = .error e ↔ ∃ before a after, l = before ++ a :: after ∧
      (∀ b ∈ before, ∀ e, f b ≠ .error e) ∧ f a = .error e
  | [] => by
    refine iff_of_false (fun h : Except.ok [] = .error e => nomatch h) ?_
    rintro ⟨before, a, after, split, -⟩
    exact List.append_ne_nil_of_right_ne_nil before (List.cons_ne_nil a after) split.symm
  | a :: rest => by
    rw [List.mapM_cons]
    cases ha : f a with
    | error e' =>
      constructor
      · intro h
        obtain rfl := Except.error.inj h
        exact ⟨[], a, rest, rfl, fun _ => List.not_mem_nil.elim, ha⟩
      · rintro ⟨before, b, after, split, fine, hb⟩
        rcases List.cons_eq_append_iff.1 split with ⟨rfl, split⟩ | ⟨front, rfl, -⟩
        · obtain ⟨rfl, -⟩ := List.cons.inj split
          obtain rfl := Except.error.inj (ha.symm.trans hb)
          rfl
        · exact absurd ha (fine a List.mem_cons_self e')
    | ok c =>
      have onward : (do let bs ← rest.mapM f; pure (c :: bs) : Except ε (List β)) = .error e ↔
          rest.mapM f = .error e := by
        cases rest.mapM f <;> simp [bind, Except.bind, pure, Except.pure]
      refine onward.trans (mapM_eq_error_iff.trans ⟨?_, ?_⟩)
      · rintro ⟨before, b, after, rfl, fine, hb⟩
        refine ⟨a :: before, b, after, rfl, List.forall_mem_cons.2 ⟨fun e h => ?_, fine⟩, hb⟩
        nomatch ha.symm.trans h
      · rintro ⟨before, b, after, split, fine, hb⟩
        rcases List.cons_eq_append_iff.1 split with ⟨rfl, split⟩ | ⟨front, rfl, rfl⟩
        · obtain ⟨rfl, -⟩ := List.cons.inj split
          nomatch ha.symm.trans hb
        · exact ⟨front, b, after, rfl, (List.forall_mem_cons.1 fine).2, hb⟩

section

variable {live : LiveState} {ledger : SecretLedger} {desired : ClusterConfig} {now : Timestamp}
  {f : Failure} (distinct : (live.applications.map (·.application.name)).Nodup)

include distinct

theorem applicationAction_ne_error_iff {w : ApplicationConfig} :
    (∀ e, applicationAction live ledger w ≠ .error e) ↔ ¬w.Refused live := by
  rw [← exists_refusedFor_iff]
  constructor
  · rintro h ⟨n, hn⟩
    exact h _ ((applicationAction_eq_error_iff distinct).2 ⟨n, hn, rfl⟩)
  · intro h e he
    obtain ⟨n, hn, -⟩ := (applicationAction_eq_error_iff distinct).1 he
    exact h ⟨n, hn⟩

/-- The failure of a plan is that of the first application that is refused. -/
theorem plan_eq_error_iff : plan desired live ledger now = .error f ↔
    ∃ before w after n, desired.applications = before ++ w :: after ∧
      (∀ u ∈ before, ¬u.Refused live) ∧ w.RefusedFor live n ∧ f = .duplicatePort w.name n := by
  have planned : plan desired live ledger now = .error f ↔
      applicationActions desired live ledger = .error f := by
    unfold plan
    cases applicationActions desired live ledger <;> simp
  rw [planned, applicationActions, mapM_eq_error_iff]
  simp only [applicationAction_ne_error_iff distinct, applicationAction_eq_error_iff distinct,
    exists_and_left]

theorem exists_plan_error_iff : (∃ f, plan desired live ledger now = .error f) ↔
    ∃ w ∈ desired.applications, w.Refused live := by
  constructor
  · rintro ⟨f, h⟩
    obtain ⟨before, w, after, n, split, -, hn, -⟩ := (plan_eq_error_iff distinct).1 h
    refine ⟨w, ?_, exists_refusedFor_iff.1 ⟨n, hn⟩⟩
    rw [split]
    exact List.mem_append_right before List.mem_cons_self
  · rintro ⟨w, hw, refused⟩
    cases h : plan desired live ledger now with
    | error f => exact ⟨f, rfl⟩
    | ok p =>
      obtain ⟨a, ha⟩ := exists_plan_iff.1 ⟨p, h⟩ w hw
      have fine : ∀ e, applicationAction live ledger w ≠ .error e := by
        rw [ha]
        exact fun _ => nofun
      exact absurd refused ((applicationAction_ne_error_iff distinct).1 fine)

end

/-- **Planning fails only for target ports that are listed twice**, and says where.  Live
applications have names of their own.  Then there is no plan exactly when a configured application
lives with a latest version and this or its spec lists a target port twice.  The failure names the
first such application of the configuration, and the smallest port that the version lists twice, or
else the smallest that the spec does.  In a valid configuration it is the version that does. -/
theorem plan_refused {live : LiveState}
    (distinct : (live.applications.map (·.application.name)).Nodup) (desired : ClusterConfig)
    (ledger : SecretLedger) (now : Timestamp) :
    ((∃ f, plan desired live ledger now = .error f) ↔
      ∃ w ∈ desired.applications, w.Refused live) ∧
    (∀ f, plan desired live ledger now = .error f ↔
      ∃ before w after n, desired.applications = before ++ w :: after ∧
        (∀ u ∈ before, ¬u.Refused live) ∧ w.RefusedFor live n ∧ f = .duplicatePort w.name n) ∧
    (∀ latestTag f, (desired.check latestTag).isValid → plan desired live ledger now = .error f →
      ∃ w ∈ desired.applications, ∃ l ∈ live.applications, ∃ v n, l.application.name = w.name ∧
        l.latestVersion = some v ∧ SmallestDuplicate v.exposedPorts n ∧
        f = .duplicatePort w.name n) := by
  refine ⟨exists_plan_error_iff distinct, fun f => plan_eq_error_iff distinct,
    fun latestTag f valid h => ?_⟩
  obtain ⟨before, w, after, n, split, -, refused, rfl⟩ := (plan_eq_error_iff distinct).1 h
  have hw : w ∈ desired.applications := split ▸ List.mem_append_right before List.mem_cons_self
  cases refused with
  | version hl hn hv smallest => exact ⟨w, hw, _, hl, _, n, hn, hv, smallest, rfl⟩
  | spec _ _ _ _ twice =>
    have sound := (ClusterConfig.sound_of_isValid valid).specs w hw
    exact absurd sound.portNumbers (NormalSpec.exists_smallestDuplicate_iff.1 ⟨n, twice⟩)

namespace ListedTwice

/-- A version with two target ports, each of them twice. -/
def version : ApplicationVersion :=
  { (default : ApplicationVersion) with exposedPorts := [443, 80, 443, 80].map fun n =>
      { (default : ExposedPort) with targetPort := n } }

def live : LiveState where
  cluster := ⟨"prod", .ofNat 1⟩
  detail := ⟨.ofNat 1, "prod", "principal", false⟩
  groups := []
  balancers := .ofList []
  applications := [⟨⟨.ofNat 7, "web", .ofNat 1, some 1⟩, some version⟩]

def spec : ApplicationSpec :=
  { (default : ApplicationSpec) with
    cpu := 500
    memory := 1024
    scalingMode := "manual"
    fixedScale := some 1
    image := "web:1"
    exposedPorts := [{ (default : ExposedPort) with targetPort := 80 }] }

def desired : ClusterConfig :=
  { (default : ClusterConfig) with
    clusterName := "prod"
    applications := [⟨"new", spec⟩, ⟨"web", spec⟩] }

/-- The configuration is valid; its second application is refused for the smaller of the two ports
of the version. -/
theorem refused_for_smaller :
    (live.applications.map (·.application.name)).Nodup ∧ (desired.check true).isValid ∧
    plan desired live .empty .epoch = .error (.duplicatePort "web" 80) ∧
    ∃ w ∈ desired.applications, ∃ l ∈ live.applications, ∃ v n, l.application.name = w.name ∧
      l.latestVersion = some v ∧ SmallestDuplicate v.exposedPorts n ∧
      Failure.duplicatePort "web" 80 = .duplicatePort w.name n := by
  have distinct : (live.applications.map (·.application.name)).Nodup := by decide +kernel
  have valid : (desired.check true).isValid := by decide +kernel
  obtain ⟨-, failure, cause⟩ := plan_refused distinct desired .empty .epoch
  have refused : plan desired live .empty .epoch = .error (.duplicatePort "web" 80) := by
    refine (failure _).2 ⟨[⟨"new", spec⟩], ⟨"web", spec⟩, [], 80, rfl, ?_, ?_, rfl⟩
    · rintro u hu ⟨l, hl, hn, -⟩
      obtain rfl := List.mem_singleton.1 hu
      obtain rfl := List.mem_singleton.1 hl
      exact absurd hn (by decide +kernel)
    · refine .version List.mem_cons_self rfl rfl ⟨by decide +kernel, fun m hm => ?_⟩
      have listed : m = 443 ∨ m = 80 ∨ m = 443 ∨ m = 80 := by simpa [version] using hm.mem
      rcases listed with rfl | rfl | rfl | rfl <;> decide +kernel
  exact ⟨distinct, valid, refused, cause true _ valid refused⟩

end ListedTwice

end Converge
