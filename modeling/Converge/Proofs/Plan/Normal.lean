import Converge.Proofs.Data.Keyed
import Converge.Proofs.Plan.Environment
/-!
# When a comparison finds nothing

A comparison of two normal forms is a concatenation of parts, each of which is empty when its
field agrees.  A side whose ports have distinct numbers can be compared, and two sides with the same
ports, in whatever order, have no line about them.  Environments are compared by the names of the
variables, with the last live one of each name, and secrets with the ledger.

Main statements: `NormalSpec.compare_eq_nil_iff`, `Diff.env_eq_nil_iff` and
`Diff.application_eq_nil_iff`.
-/

namespace Converge

/-! ## 1. Single lines -/

namespace Change

variable {α : Type} [DecidableEq α] [ToString α]

@[simp] theorem scalar_eq_nil_iff {field : String} {before after : α} :
    scalar field before after = [] ↔ before = after := by
  unfold scalar
  split <;> simp [*]

@[simp] theorem text_eq_nil_iff {field before after : String} :
    text field before after = [] ↔ before = after := by
  unfold text
  split <;> simp [*]

@[simp] theorem optional_eq_nil_iff {field : String} {before after : Option α} :
    optional field before after = [] ↔ before = after := by
  unfold optional
  split <;> simp [*]

end Change

/-! ## 2. Normal forms -/

namespace NormalSpec

variable {before after : NormalSpec}

/-- The numbers that are compared agree: those of the scaling mode of the new side. -/
def SameScale (before after : NormalSpec) : Prop :=
  match ScalingMode.ofWord? after.scalingMode with
  | some .manual => before.fixedScale = after.fixedScale
  | some .cpu => before.minScale = after.minScale ∧ before.maxScale = after.maxScale ∧
      before.scaleInThreshold = after.scaleInThreshold ∧
      before.scaleOutThreshold = after.scaleOutThreshold
  | none => True

theorem SameScale.refl (s : NormalSpec) : SameScale s s := by
  unfold SameScale
  split <;> simp

theorem scaleChanges_eq_nil_iff : scaleChanges before after = [] ↔ SameScale before after := by
  unfold scaleChanges SameScale
  cases ScalingMode.ofWord? after.scalingMode with
  | none => simp
  | some mode => cases mode <;> simp

/-- No line about the fields means that they agree, the image apart. -/
theorem fieldChanges_eq_nil_iff : fieldChanges true before after = [] ↔
    before.cpu = after.cpu ∧ before.memory = after.memory ∧
    before.scalingMode = after.scalingMode ∧ SameScale before after ∧ before.cmd = after.cmd ∧
    before.registryUsername = after.registryUsername := by
  simp [fieldChanges, scaleChanges_eq_nil_iff]

theorem portChanges_eq_nil_iff {before after : NormalPort}
    (h : before.targetPort = after.targetPort) : portChanges before after = [] ↔ before = after := by
  simp only [portChanges, List.append_eq_nil_iff, Change.text_eq_nil_iff,
    Change.scalar_eq_nil_iff, Change.optional_eq_nil_iff]
  constructor
  · rintro ⟨⟨⟨⟨⟨port, tls⟩, hosts⟩, path⟩, interval⟩, timeout⟩
    cases before
    cases after
    simp_all
  · rintro rfl
    simp

/-- No line about the ports means that they are the same in some order. -/
theorem allPortChanges_eq_nil_iff (hb : (before.exposedPorts.map (·.targetPort)).Nodup)
    (ha : (after.exposedPorts.map (·.targetPort)).Nodup) :
    allPortChanges before after = [] ↔ before.exposedPorts.Perm after.exposedPorts := by
  rw [allPortChanges, List.append_eq_nil_iff, List.flatMap_eq_nil_iff, List.flatMap_eq_nil_iff]
  constructor
  · rintro ⟨wanted, gone⟩
    -- a port that is wanted is found, and it is the one that is there
    have same {p : NormalPort} (hp : p ∈ after.exposedPorts) :
        before.port? p.targetPort = some p := by
      have := wanted p hp
      cases hf : before.port? p.targetPort with
      | none => rw [hf] at this; nomatch this
      | some old =>
        rw [hf] at this
        rw [(portChanges_eq_nil_iff (find?_key_eq_some hf).2).1 this]
    refine (List.perm_ext_iff_of_nodup hb.of_map ha.of_map).2 fun p => ⟨fun hp => ?_, fun hp => ?_⟩
    · have := gone p hp
      split at this
      next found =>
        obtain ⟨q, hq⟩ := Option.isSome_iff_exists.1 found
        obtain ⟨hq, hn⟩ := find?_key_eq_some hq
        obtain ⟨hqb, -⟩ := find?_key_eq_some (same hq)
        exact List.inj_on_of_nodup_map hb hqb hp hn ▸ hq
      next => nomatch this
    · exact (find?_key_eq_some (same hp)).1
  · intro perm
    have found {p : NormalPort} (hp : p ∈ after.exposedPorts) :
        before.port? p.targetPort = some p :=
      (find?_key_eq_some_iff hb).2 ⟨perm.mem_iff.2 hp, rfl⟩
    refine ⟨fun p hp => ?_, fun p hp => if_pos ?_⟩
    · rw [found hp]
      exact (portChanges_eq_nil_iff rfl).2 rfl
    · exact find?_key_isSome (perm.mem_iff.1 hp) rfl

theorem firstRepeated_eq_none_iff [DecidableEq α] : ∀ {l seen : List α},
    firstRepeated seen l = none ↔ l.Nodup ∧ ∀ a ∈ l, a ∉ seen
  | [], seen => by simp [firstRepeated]
  | a :: rest, seen => by
    unfold firstRepeated
    split
    next h => simp [h]
    next h =>
      rw [firstRepeated_eq_none_iff, List.nodup_cons]
      simp only [List.mem_cons, not_or, forall_eq_or_imp]
      constructor
      · rintro ⟨hn, hs⟩
        exact ⟨⟨fun ha => (hs a ha).1 rfl, hn⟩, h, fun b hb => (hs b hb).2⟩
      · rintro ⟨⟨ha, hn⟩, -, hs⟩
        exact ⟨hn, fun b hb => ⟨fun e => ha (e ▸ hb), hs b hb⟩⟩

/-- A side can be compared when the numbers of its ports are distinct. -/
theorem refusal_eq_none_iff {side : String} {s : NormalSpec} :
    s.refusal side = none ↔ (s.exposedPorts.map (·.targetPort)).Nodup := by
  simp [refusal, repeatedPort, firstRepeated_eq_none_iff]

/-- Two sides can be compared when the numbers of the ports of each of them are distinct. -/
theorem exists_compare_iff {skipImage : Bool} :
    (∃ changes, compare before after skipImage = .ok changes) ↔
      (before.exposedPorts.map (·.targetPort)).Nodup ∧
      (after.exposedPorts.map (·.targetPort)).Nodup := by
  have comparable : ∀ side (s : NormalSpec), s.refusal side = none ↔
      (s.exposedPorts.map (·.targetPort)).Nodup := fun _ _ => refusal_eq_none_iff
  rw [← comparable "current", ← comparable "desired", compare]
  cases before.refusal "current" <;> cases after.refusal "desired" <;> simp

/-- A comparison finds nothing exactly when no field differs and the ports are the same in some
order, on both sides with distinct numbers. -/
theorem compare_eq_nil_iff {skipImage : Bool} : compare before after skipImage = .ok [] ↔
    (before.exposedPorts.map (·.targetPort)).Nodup ∧
    (after.exposedPorts.map (·.targetPort)).Nodup ∧ fieldChanges skipImage before after = [] ∧
    before.exposedPorts.Perm after.exposedPorts := by
  constructor
  · intro h
    obtain ⟨hb, ha⟩ := exists_compare_iff.1 ⟨_, h⟩
    rw [compare, refusal_eq_none_iff.2 hb, refusal_eq_none_iff.2 ha] at h
    obtain ⟨fields, ports⟩ := List.append_eq_nil_iff.1 (Except.ok.inj h)
    exact ⟨hb, ha, fields, (allPortChanges_eq_nil_iff hb ha).1 ports⟩
  · rintro ⟨hb, ha, fields, perm⟩
    rw [compare, refusal_eq_none_iff.2 hb, refusal_eq_none_iff.2 ha, fields,
      (allPortChanges_eq_nil_iff hb ha).2 perm]
    rfl

end NormalSpec

/-- The numbers of the ports are distinct in the normal form as they are in the spec. -/
theorem nodup_normalPorts_iff {ports : List ExposedPort} :
    ((normalPorts ports).map (·.targetPort)).Nodup ↔ (ports.map (·.targetPort)).Nodup := by
  have perm : (normalPorts ports).Perm (ports.map ExposedPort.normal) := List.mergeSort_perm ..
  rw [(perm.map (·.targetPort)).nodup_iff, List.map_map]
  rfl

theorem nodup_normalPorts {ports : List ExposedPort} (h : (ports.map (·.targetPort)).Nodup) :
    ((normalPorts ports).map (·.targetPort)).Nodup := nodup_normalPorts_iff.2 h

/-! ## 3. Environments -/

namespace Diff

variable {app : String} {ledger : SecretLedger}

theorem lastWithKey_eq_none_iff {before : List EnvVar} {key : String} :
    lastWithKey before key = none ↔ key ∉ before.map (·.key) := by
  simp [lastWithKey]

/-- No line about the registry password means that the ledger has its version, or that there is none
on either side. -/
theorem password_eq_none_iff {version : Option Int64} :
    password app version ledger = none ↔ ledger.password? app = version := by
  unfold password
  cases ledger.password? app <;> cases version <;> simp

/-- The last live variable with a name is as desired when there is one, which is the same if a plain
one is desired, and the ledger has the version of the secret if a secret is. -/
theorem exists_as_desired_iff {before : List EnvVar} {e : EnvEntry}
    (version : e.secret → e.secretVersion.isSome) :
    (∃ old, lastWithKey before e.key = some old ∧ ¬ old.DiffersFrom ledger app e) ↔
      e.key ∈ before.map (·.key) ∧
      (e.secret = false → lastWithKey before e.key = some e.sent) ∧
      (e.secret → ledger.env? app e.key = e.secretVersion) := by
  cases hl : lastWithKey before e.key with
  | none => simp [lastWithKey_eq_none_iff.1 hl]
  | some current =>
    have found : e.key ∈ before.map (·.key) := by
      by_contra hn
      rw [lastWithKey_eq_none_iff.2 hn] at hl
      nomatch hl
    have key : current.key = e.key := (find?_key_eq_some hl).2
    cases hs : e.secret with
    | true => simp [EnvVar.DiffersFrom, hs, found, version hs]
    | false =>
      have same : current = e.sent ↔ current.secret = false ∧ current.value = e.value := by
        cases current
        simp_all [EnvEntry.sent, and_comm]
      simp [EnvVar.DiffersFrom, hs, found, same]

/-- No line about an environment means that the variables have the same names, that a plain one is
the last live one with its name, and that the ledger has the version of each secret. -/
theorem env_eq_nil_iff {before : List EnvVar} {after : List EnvEntry}
    (versions : ∀ e ∈ after, e.secret → e.secretVersion.isSome) :
    env app before after ledger = [] ↔
      (∀ key, key ∈ after.map (·.key) ↔ key ∈ before.map (·.key)) ∧
      ∀ e ∈ after, (e.secret = false → lastWithKey before e.key = some e.sent) ∧
        (e.secret → ledger.env? app e.key = e.secretVersion) := by
  have wanted : (∀ e ∈ after, ∃ old, lastWithKey before e.key = some old ∧
      ¬ old.DiffersFrom ledger app e) ↔ ∀ e ∈ after,
      e.key ∈ before.map (·.key) ∧ (e.secret = false → lastWithKey before e.key = some e.sent) ∧
        (e.secret → ledger.env? app e.key = e.secretVersion) :=
    forall₂_congr fun e he => exists_as_desired_iff (versions e he)
  rw [env_eq_map_line, List.map_eq_nil_iff]
  refine (keyedDifferences_eq_nil_iff.trans (and_congr_left' wanted)).trans ?_
  constructor
  · rintro ⟨wanted, gone⟩
    refine ⟨fun key => ⟨fun h => ?_, fun h => ?_⟩, fun e he => (wanted e he).2⟩
    · obtain ⟨e, he, rfl⟩ := List.mem_map.1 h
      exact (wanted e he).1
    · obtain ⟨v, hv, rfl⟩ := List.mem_map.1 h
      exact gone v hv
  · rintro ⟨keys, same⟩
    exact ⟨fun e he => ⟨(keys e.key).1 (List.mem_map_of_mem he), same e he⟩,
      fun v hv => (keys v.key).2 (List.mem_map_of_mem hv)⟩

/-! ## 4. Applications -/

/-- A comparison finds nothing exactly when it finds nothing in the normal forms, the environment
and the password version. -/
theorem application_eq_nil_iff {live : ApplicationVersion} {spec : ApplicationSpec} :
    application app live spec ledger = .ok [] ↔
      live.normal.compare spec.normal true = .ok [] ∧ env app live.env spec.env ledger = [] ∧
        password app spec.registryPasswordVersion ledger = none := by
  unfold application
  cases live.normal.compare spec.normal true <;> simp

end Diff

end Converge
