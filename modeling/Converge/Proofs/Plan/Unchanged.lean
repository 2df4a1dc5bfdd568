import Mathlib.Data.List.Forall2
import Converge.Proofs.Plan.Applications
import Converge.Proofs.Plan.Update
/-!
# What an application is like that has nothing to change

A comparison goes by the normal form of a spec and a version, in which the command is one line,
the names of the hosts of a port are sorted and joined, and what is missing is empty; and it goes
by the ledger for secrets.  So where it finds nothing, the request for a further version repeats
the version before in everything but the words of the command, the host names, and what is empty or
missing; `ApplicationVersion.RepeatedBy` says it field by field.  Words and host names are the
same where the character that joins them does not occur in them.

Main statement: `repeated_of_unchanged`.
-/

namespace Converge

/-! ## 1. What is joined -/

/-- Whether some texts can be told apart when they are joined by a character. -/
def Separable (sep : Char) (l : List String) : Prop := l ≠ [""] ∧ ∀ w ∈ l, sep ∉ w.toList

/-- Texts are recovered from what they are joined to. -/
theorem splitOn_joined {sep : Char} {l : List String} (hl : Separable sep l) (hn : l ≠ []) :
    (sep.toString.intercalate l).toList.splitOn sep = l.map String.toList := by
  have joined : (sep.toString.intercalate l).toList = [sep].intercalate (l.map String.toList) := by
    rw [String.toList_intercalate]
    congr 1
    simp
  rw [joined]
  refine List.splitOn_intercalate sep (fun w hw => ?_) (by simpa using hn)
  obtain ⟨v, hv, rfl⟩ := List.mem_map.1 hw
  exact hl.2 v hv

/-- Texts that can be told apart are the same when they are the same joined. -/
theorem eq_of_joined_eq {sep : Char} {l m : List String} (hl : Separable sep l)
    (hm : Separable sep m)
    (h : sep.toString.intercalate l = sep.toString.intercalate m) : l = m := by
  -- nothing joined is empty, and so is only the empty text otherwise
  have empty {m : List String} (hm : Separable sep m)
      (h : sep.toString.intercalate [] = sep.toString.intercalate m) : m = [] := by
    by_contra hn
    have split := splitOn_joined hm hn
    rw [← h] at split
    have one : [[]] = m.map String.toList := split
    obtain ⟨w, rfl, hw⟩ := List.map_eq_singleton_iff.1 one.symm
    exact hm.1 (by rw [String.toList_eq_nil_iff.1 hw])
  by_cases hln : l = []
  · subst hln
    exact (empty hm h).symm
  · by_cases hmn : m = []
    · subst hmn
      exact empty hl h.symm
    · have split := splitOn_joined hl hln
      rw [h, splitOn_joined hm hmn] at split
      exact (List.map_injective_iff.2 (fun _ _ => String.toList_inj.1) split).symm

theorem sortedNames_perm (names : List String) : (sortedNames names).Perm names :=
  List.mergeSort_perm ..

theorem Separable.perm {sep : Char} {l m : List String} (h : Separable sep l) (p : l.Perm m) :
    Separable sep m := by
  refine ⟨?_, fun w hw => h.2 w (p.mem_iff.2 hw)⟩
  rintro rfl
  exact h.1 (List.perm_singleton.1 p)

/-- Host names that can be told apart are the same when they are the same sorted and joined. -/
theorem perm_of_joinedHosts_eq {l m : List String} (hl : Separable ',' l) (hm : Separable ',' m)
    (h : ",".intercalate (sortedNames l) = ",".intercalate (sortedNames m)) : l.Perm m := by
  have sorted : sortedNames l = sortedNames m :=
    eq_of_joined_eq (hl.perm (sortedNames_perm l).symm) (hm.perm (sortedNames_perm m).symm) h
  exact (sortedNames_perm l).symm.trans (sorted ▸ sortedNames_perm m)

/-! ## 2. What a comparison sees -/

/-- Whether two ports are the same as a comparison sees them: a health check that says nothing is
none, and the host names are the same joined, and so the same in some order where they can be told
apart. -/
structure ExposedPort.Same (p q : ExposedPort) : Prop where
  targetPort : p.targetPort = q.targetPort
  loadBalancerPort : p.loadBalancerPort = q.loadBalancerPort
  useLetsEncrypt : p.useLetsEncrypt = q.useLetsEncrypt
  healthCheck : p.healthCheck.getD ⟨"", 0, 0⟩ = q.healthCheck.getD ⟨"", 0, 0⟩
  joinedHosts : ",".intercalate (sortedNames p.host) = ",".intercalate (sortedNames q.host)
  hosts : Separable ',' p.host → Separable ',' q.host → p.host.Perm q.host

theorem ExposedPort.same_of_normal_eq {p q : ExposedPort} (h : p.normal = q.normal) :
    p.Same q := by
  simp only [ExposedPort.normal, NormalPort.mk.injEq] at h
  obtain ⟨target, balancer, tls, hosts, path, interval, timeout⟩ := h
  have fields (check : Option HealthCheck) : check.getD ⟨"", 0, 0⟩ =
      ⟨(check.map (·.path)).getD "", (check.map (·.intervalSeconds)).getD 0,
        (check.map (·.timeoutSeconds)).getD 0⟩ := by
    cases check <;> rfl
  refine ⟨target, balancer, tls, ?_, hosts, fun hp hq => perm_of_joinedHosts_eq hp hq hosts⟩
  rw [fields, fields q.healthCheck, path, interval, timeout]

/-- Ports with the same normal forms are the same up to their order. -/
theorem exists_same_of_normalPorts_perm {l m : List ExposedPort}
    (h : (normalPorts l).Perm (normalPorts m)) :
    ∃ n, n.Perm m ∧ List.Forall₂ ExposedPort.Same l n := by
  have forms : (l.map ExposedPort.normal).Perm (m.map ExposedPort.normal) :=
    (List.mergeSort_perm ..).symm.trans (h.trans (List.mergeSort_perm ..))
  have own : List.Forall₂ (fun x p => x = ExposedPort.normal p) (m.map ExposedPort.normal) m :=
    List.forall₂_map_left_iff.2 (List.forall₂_same.2 fun _ _ => rfl)
  obtain ⟨n, hn, perm⟩ := List.perm_comp_forall₂ forms own
  exact ⟨n, perm, (List.forall₂_map_left_iff.1 hn).imp fun _ _ => ExposedPort.same_of_normal_eq⟩

/-- Whether a request repeats a version as a comparison sees it.  The command is the same on one
line, and so word for word where the words can be told apart; an empty user name is none; the
variables have the same names, and what is not a secret is the last variable with its name. -/
structure ApplicationVersion.RepeatedBy (v : ApplicationVersion) (r : CreateVersionRequest) :
    Prop where
  cpu : r.cpu = v.cpu
  memory : r.memory = v.memory
  scalingMode : r.scalingMode = v.scalingMode
  manualScale : ScalingMode.ofWord? v.scalingMode = some .manual → r.fixedScale = v.fixedScale
  cpuScale : ScalingMode.ofWord? v.scalingMode = some .cpu →
    r.minScale = v.minScale ∧ r.maxScale = v.maxScale ∧
    r.scaleInThreshold = v.scaleInThreshold ∧ r.scaleOutThreshold = v.scaleOutThreshold
  image : r.image = v.image
  joinedCmd : " ".intercalate r.cmd = " ".intercalate v.cmd
  cmd : Separable ' ' r.cmd → Separable ' ' v.cmd → r.cmd = v.cmd
  registryUsername : r.registryUsername = ApplicationSpec.userName v.registryUsername
  exposedPorts : ∃ ports, ports.Perm v.exposedPorts ∧
    List.Forall₂ ExposedPort.Same r.exposedPorts ports
  envKeys : ∀ key, key ∈ r.env.map (·.key) ↔ key ∈ v.env.map (·.key)
  env : ∀ e ∈ r.env, e.secret = false → Diff.lastWithKey v.env e.key = some e

/-! ## 3. The request that would follow -/

namespace ApplicationSpec

variable {spec : ApplicationSpec} {live : ApplicationVersion}

/-- What is inherited where a version has what the spec asks for. -/
theorem inheritScale_same {desired : Option Int32} {ofBase : ApplicationVersion → Option Int32}
    (h : ofBase live = desired) : inheritScale (some live) desired ofBase = ofBase live := by
  rw [h, inheritScale_eq_iff]
  exact fun none => h.trans none

theorem userName_congr {name other : Option String} (h : name.getD "" = other.getD "") :
    userName name = userName other := by
  have text (name : Option String) : userName name = userName (some (name.getD "")) := by
    cases name <;> rfl
  rw [text name, text other, h]

/-- The numbers of the scaling mode are inherited or the same. -/
theorem scale_repeated (mode : spec.inheritMode (some live) = live.scalingMode)
    (same : NormalSpec.SameScale live.normal spec.normal)
    (word : live.scalingMode = spec.scalingMode) :
    (ScalingMode.ofWord? live.scalingMode = some .manual →
      (spec.request (some live)).fixedScale = live.fixedScale) ∧
    (ScalingMode.ofWord? live.scalingMode = some .cpu →
      (spec.request (some live)).minScale = live.minScale ∧
      (spec.request (some live)).maxScale = live.maxScale ∧
      (spec.request (some live)).scaleInThreshold = live.scaleInThreshold ∧
      (spec.request (some live)).scaleOutThreshold = live.scaleOutThreshold) := by
  have known : ScalingMode.ofWord? spec.normal.scalingMode =
      ScalingMode.ofWord? live.scalingMode := congrArg ScalingMode.ofWord? word.symm
  rw [NormalSpec.SameScale, known] at same
  constructor
  · intro manual
    rw [manual] at same
    simp only [request, mode, manual]
    exact inheritScale_same same
  · intro cpu
    rw [cpu] at same
    obtain ⟨min, max, scaleIn, scaleOut⟩ := same
    simp only [request, mode, cpu]
    exact ⟨inheritScale_same min, inheritScale_same max, inheritScale_same scaleIn,
      inheritScale_same scaleOut⟩

/-- The variables that are sent have the names of the live ones, and what is plain is the same. -/
theorem env_repeated
    (keys : ∀ key, key ∈ spec.env.map (·.key) ↔ key ∈ live.env.map (·.key))
    (plain : ∀ e ∈ spec.env, e.secret = false → Diff.lastWithKey live.env e.key = some e.sent) :
    (∀ key, key ∈ (spec.request (some live)).env.map (·.key) ↔ key ∈ live.env.map (·.key)) ∧
    ∀ e ∈ (spec.request (some live)).env, e.secret = false →
      Diff.lastWithKey live.env e.key = some e := by
  by_cases hn : spec.env = []
  · -- nothing is inherited, since nothing lives
    have none : live.env = [] := by
      refine List.eq_nil_iff_forall_not_mem.2 fun v hv => ?_
      have := (keys v.key).2 (List.mem_map_of_mem hv)
      rw [hn] at this
      exact List.not_mem_nil this
    have inherited : (spec.request (some live)).env = [] := by
      simp [request, inheritList, hn, none]
    rw [inherited, none]
    exact ⟨fun _ => Iff.rfl, fun _ he => absurd he List.not_mem_nil⟩
  · have sent : (spec.request (some live)).env = spec.env.map (·.sent) :=
      inheritList_of_ne_nil (by simpa using hn)
    have names : (spec.env.map (·.sent)).map (·.key) = spec.env.map (·.key) := by
      rw [List.map_map]
      rfl
    rw [sent, names]
    refine ⟨keys, fun v hv => ?_⟩
    obtain ⟨e, he, rfl⟩ := List.mem_map.1 hv
    exact plain e he

/-- The command that is sent is the live one where the spec has none. -/
theorem request_cmd_of_nil (h : spec.cmd = []) : (spec.request (some live)).cmd = live.cmd := by
  simp [request, inheritList, h]

theorem joinedCmd_repeated (same : " ".intercalate live.cmd = " ".intercalate spec.cmd) :
    " ".intercalate (spec.request (some live)).cmd = " ".intercalate live.cmd := by
  by_cases hn : spec.cmd = []
  · rw [request_cmd_of_nil hn]
  · have sent : (spec.request (some live)).cmd = spec.cmd := inheritList_of_ne_nil hn
    rw [sent, same]

end ApplicationSpec

/-- **Where there is nothing to change, there is nothing to deploy** that a comparison sees.  The
configuration is valid and has an application with this spec; the ledger, the version that lives
and the name under which they are compared are any.  When the comparison succeeds and finds nothing,
the request that an apply would send repeats the version, also the words of the command where the
spec has none, and the ledger has the version of every secret. -/
theorem repeated_of_unchanged {c : ClusterConfig} {latestTag : Bool} {name app : String}
    {spec : ApplicationSpec} {live : ApplicationVersion} {ledger : SecretLedger}
    (valid : (c.check latestTag).isValid) (configured : ⟨name, spec⟩ ∈ c.applications)
    (unchanged : Diff.application app live spec ledger = .ok []) :
    live.RepeatedBy (spec.request (some live)) ∧
    (spec.cmd = [] → (spec.request (some live)).cmd = live.cmd) ∧
    ∀ e ∈ spec.env, e.secret → ledger.env? app e.key = e.secretVersion := by
  have sound : spec.Sound := (ClusterConfig.sound_of_isValid valid).specs _ configured
  obtain ⟨compared, env, -⟩ := Diff.application_eq_nil_iff.1 unchanged
  obtain ⟨-, -, fields, ports⟩ := NormalSpec.compare_eq_nil_iff.1 compared
  obtain ⟨cpu, memory, word, scale, cmd, user⟩ := NormalSpec.fieldChanges_eq_nil_iff.1 fields
  obtain ⟨keys, same⟩ := (Diff.env_eq_nil_iff sound.secrets).1 env
  have mode : spec.inheritMode (some live) = live.scalingMode := by
    rcases sound.scaling with ⟨hm, -⟩ | ⟨hm, -⟩
    · exact (ApplicationSpec.inheritMode_of_scaling hm _).trans word.symm
    · exact (ApplicationSpec.inheritMode_of_scaling hm _).trans word.symm
  have names : ApplicationSpec.userName spec.registryUsername =
      ApplicationSpec.userName live.registryUsername := ApplicationSpec.userName_congr user.symm
  have exposed : (spec.request (some live)).exposedPorts = spec.exposedPorts :=
    ApplicationSpec.inheritList_of_ne_nil sound.ports
  have joined : " ".intercalate (spec.request (some live)).cmd = " ".intercalate live.cmd :=
    ApplicationSpec.joinedCmd_repeated cmd
  obtain ⟨manual, bounds⟩ := ApplicationSpec.scale_repeated mode scale word
  obtain ⟨envKeys, plain⟩ := ApplicationSpec.env_repeated keys fun e he => (same e he).1
  refine ⟨?_, ApplicationSpec.request_cmd_of_nil, fun e he => (same e he).2⟩
  exact {
    cpu := (ApplicationSpec.inheritNumber_of_ne_zero sound.cpu).trans cpu.symm
    memory := (ApplicationSpec.inheritNumber_of_ne_zero sound.memory).trans memory.symm
    scalingMode := mode
    manualScale := manual
    cpuScale := bounds
    image := rfl
    joinedCmd := joined
    cmd := fun hr hv => eq_of_joined_eq hr hv joined
    registryUsername := by
      simp [ApplicationSpec.request, names]
    exposedPorts := exposed ▸ exists_same_of_normalPorts_perm ports.symm
    envKeys := envKeys
    env := plain }

/-! ## 4. A version that a comparison cannot tell from a spec -/

namespace Blurred

/-- A command of two words, a port with two host names, and a secret. -/
def spec : ApplicationSpec :=
  { Update.silentSpec with
    cmd := ["serve", "--fast"]
    exposedPorts := [⟨80, none, false, ["a.test", "b.test"], none⟩]
    env := [⟨"MODE", some "fast", false, none⟩, ⟨"TOKEN", some "t", true, some 7⟩] }

/-- One word, one host name, an empty user, a health check that says nothing, and two variables with
the same name. -/
def live : ApplicationVersion :=
  Simulation.stored 1 { spec.request none with
    cmd := ["serve --fast"]
    registryUsername := some ""
    exposedPorts := [⟨80, none, false, ["a.test,b.test"], some ⟨"", 0, 0⟩⟩]
    env := [⟨"MODE", some "slow", false⟩, ⟨"MODE", some "fast", false⟩, ⟨"TOKEN", some "t", false⟩] }

/-- The secret was recorded. -/
def ledger : SecretLedger := (SecretLedger.empty.record "web" spec).1

/-- The ports have the same normal form. -/
theorem normal_ports : live.normal.exposedPorts = spec.normal.exposedPorts := by
  have sorted : sortedNames ["a.test", "b.test"] = ["a.test", "b.test"] :=
    List.mergeSort_of_pairwise (by decide +kernel)
  have hosts : ",".intercalate (sortedNames ["a.test,b.test"]) =
      ",".intercalate (sortedNames ["a.test", "b.test"]) := by
    rw [sorted]
    decide +kernel
  have one (p : ExposedPort) : normalPorts [p] = [p.normal] := List.mergeSort_singleton _
  refine (one _).trans (.trans ?_ (one _).symm)
  exact congrArg (fun hosts => [(⟨80, none, false, hosts, "", 0, 0⟩ : NormalPort)]) hosts

theorem unchanged : Diff.application "web" live spec ledger = .ok [] := by
  have distinct : (spec.normal.exposedPorts.map (·.targetPort)).Nodup :=
    nodup_normalPorts (by decide)
  have fields : NormalSpec.fieldChanges true live.normal spec.normal = [] := by decide +kernel
  refine Diff.application_eq_nil_iff.2 ⟨NormalSpec.compare_eq_nil_iff.2 ?_, ?_, ?_⟩
  · exact ⟨normal_ports ▸ distinct, distinct, fields, .of_eq normal_ports⟩
  · decide +kernel
  · decide +kernel

/-- The request repeats the version as far as a comparison sees. -/
theorem repeated_blurred : live.RepeatedBy (spec.request (some live)) ∧
    (spec.cmd = [] → (spec.request (some live)).cmd = live.cmd) ∧
    ∀ e ∈ spec.env, e.secret → ledger.env? "web" e.key = e.secretVersion := by
  have valid : ((Update.configOf spec).check true).isValid := by decide +kernel
  have configured : ⟨"web", spec⟩ ∈ (Update.configOf spec).applications := List.mem_singleton.2 rfl
  exact repeated_of_unchanged valid configured unchanged

/-- It does not repeat the words of the command, the user, the host names, the health check, the
first of the variables and the flag of the secret. -/
theorem unrepeated_blurred : ((Update.configOf spec).check true).isValid ∧
    ⟨"web", spec⟩ ∈ (Update.configOf spec).applications ∧
    (live.exposedPorts.map (·.targetPort)).Nodup ∧
    Diff.application "web" live spec ledger = .ok [] ∧
    (spec.request (some live)).cmd ≠ live.cmd ∧
    (spec.request (some live)).registryUsername ≠ live.registryUsername ∧
    (∀ p ∈ (spec.request (some live)).exposedPorts, ∀ q ∈ live.exposedPorts,
      p.healthCheck ≠ q.healthCheck ∧ ∀ host ∈ p.host, host ∉ q.host) ∧
    (∃ v ∈ live.env, v.secret = false ∧ v ∉ (spec.request (some live)).env) ∧
    ∃ e ∈ (spec.request (some live)).env, e.secret ∧ ∀ v ∈ live.env, v.key = e.key → !v.secret := by
  refine ⟨?_, List.mem_singleton.2 rfl, ?_, unchanged, ?_, ?_, ?_, ?_, ?_⟩ <;> decide +kernel

end Blurred

end Converge
