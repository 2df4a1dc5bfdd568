import Converge.Proofs.Plan.Environment
import Converge.Proofs.Plan.Update
/-!
# Planned rotations and recorded rotations

That a secret has a new version is decided twice.  A comparison holds the desired version against
the ledger, and recording writes it into the ledger, where it drops the versions of variables that
are secret no more.  Neither looks at the other; what they agree on is that a rotation is planned
exactly when recording would change what the ledger says of the secret, and that nothing is left to
rotate once it was recorded.

Which key a line is about cannot be read off its text: a key may contain any character, and a value
that is shown may look like the rest of such a line.  So a line is taken here together with the
difference that it is about.

Main statements: `Diff.rotationPlanned_iff` and `rotation_planned_iff_recorded`.
-/

namespace Converge

namespace Diff

/-! ## 1. Lines about rotations -/

/-- Whether a line about a key says that the version of a secret differs. -/
def IsRotation (key line : String) : Prop :=
  ∃ rest, line = "Env update: " ++ key ++ " (secret, version: " ++ rest

/-- A line that says something of a key by itself is about a rotation when what it says is. -/
theorem isRotation_update_iff {key said : String} :
    IsRotation key ("Env update: " ++ key ++ said) ↔
      ∃ rest, said = " (secret, version: " ++ rest := by
  simp only [IsRotation, String.append_assoc, String.append_right_inj]

theorem isRotation_rotationLine (key : String) (stored : Option Int64) (version : Int64) :
    IsRotation key (rotationLine key stored version) := by
  cases stored with
  | none =>
    have opening : " (secret, version: new -> " = " (secret, version: " ++ "new -> " := rfl
    exact ⟨"new -> " ++ toString version ++ ")", by
      simp only [rotationLine_none, opening, String.append_assoc]⟩
  | some stored =>
    exact ⟨toString stored ++ " -> " ++ toString version ++ ")", by
      simp only [rotationLine_some, String.append_assoc]⟩

/-- After the key of a plain variable follows an equals sign. -/
theorem not_isRotation_plain (key said : String) :
    ¬ IsRotation key ("Env update: " ++ key ++ ("=" ++ said)) := by
  rw [isRotation_update_iff]
  rintro ⟨rest, h⟩
  have first := congrArg (·.toList.take 1) h
  simp [String.toList_append] at first

/-- A line that does not begin as an update is not about a rotation. -/
theorem not_isRotation_of_take {key line : String}
    (h : line.toList.take 5 ≠ ['E', 'n', 'v', ' ', 'u']) : ¬ IsRotation key line := by
  rintro ⟨rest, rfl⟩
  exact h (by simp [String.toList_append])

variable {ledger : SecretLedger} {app : String}

/-- The line about a plain variable that is on both sides has an equals sign after the key. -/
theorem exists_envLine_plain (old : EnvVar) {new : EnvEntry} (plain : new.secret = false) :
    ∃ said, envLine ledger app (.updated old new) =
      "Env update: " ++ new.key ++ ("=" ++ said) := by
  have unveiled : "=(secret) -> " = "=" ++ "(secret) -> " := rfl
  cases hs : old.secret with
  | true =>
    exact ⟨"(secret) -> " ++ new.value.getD "", by
      simp only [envLine, plain, hs, if_true, if_false, Bool.false_eq_true, unveiled,
        String.append_assoc]⟩
  | false =>
    refine ⟨old.value.getD "" ++ " -> " ++ new.value.getD "", ?_⟩
    rw [envLine, plain, hs, if_neg Bool.false_ne_true, if_neg Bool.false_ne_true]
    show "Env update: " ++ new.key ++ "=" ++ old.value.getD "" ++ " -> " ++ new.value.getD "" = _
    simp only [String.append_assoc]

/-- Lines about rotations are those about secrets that are on both sides. -/
theorem isRotation_envLine_iff {d : KeyedDifference EnvVar EnvEntry} :
    IsRotation (d.key EnvVar.key EnvEntry.key) (envLine ledger app d) ↔
      ∃ old new, d = .updated old new ∧ new.secret := by
  cases d with
  | added new =>
    have other : ¬ IsRotation new.key (envAdd new) := by
      refine not_isRotation_of_take ?_
      unfold envAdd
      split
      · simp [String.toList_append]
      · split <;> simp [String.toList_append]
    exact iff_of_false other fun ⟨_, _, h, _⟩ => nomatch h
  | removed old =>
    have other : ¬ IsRotation old.key (envRemove old) := by
      refine not_isRotation_of_take ?_
      unfold envRemove
      split <;> simp [String.toList_append]
    exact iff_of_false other fun ⟨_, _, h, _⟩ => nomatch h
  | updated old new =>
    cases hs : new.secret with
    | true =>
      have line : envLine ledger app (.updated old new) =
          rotationLine new.key (ledger.env? app new.key) (new.secretVersion.getD 0) := if_pos hs
      refine iff_of_true ?_ ⟨old, new, rfl, hs⟩
      rw [line]
      exact isRotation_rotationLine ..
    | false =>
      have plain : ∃ said, envLine ledger app (.updated old new) =
          "Env update: " ++ new.key ++ ("=" ++ said) := exists_envLine_plain old hs
      obtain ⟨said, line⟩ := plain
      refine iff_of_false ?_ ?_
      · rw [line]
        exact not_isRotation_plain new.key said
      · rintro ⟨_, _, h, secret⟩
        cases h
        nomatch hs.symm.trans secret

/-! ## 2. Rotations that are planned -/

/-- Whether the comparison of a live environment with a desired one has a line about a key which
says that the version of a secret differs. -/
def RotationPlanned (app : String) (live : List EnvVar) (desired : List EnvEntry)
    (ledger : SecretLedger) (key : String) : Prop :=
  ∃ d ∈ envDifferences app live desired ledger,
    d.key EnvVar.key EnvEntry.key = key ∧ IsRotation key (envLine ledger app d)

/-- **When a rotation is planned**: there is a live variable under the key, and a desired secret
whose version is not the one in the ledger. -/
theorem rotationPlanned_iff {live : List EnvVar} {desired : List EnvEntry} {key : String} :
    RotationPlanned app live desired ledger key ↔
      key ∈ live.map (·.key) ∧ ∃ e ∈ desired, e.key = key ∧ e.secret ∧ e.secretVersion.isSome ∧
        ledger.env? app key ≠ e.secretVersion := by
  constructor
  · rintro ⟨d, hd, rfl, rotation⟩
    obtain ⟨old, new, rfl, secret⟩ := isRotation_envLine_iff.1 rotation
    rcases List.mem_append.1 hd with hd | hd
    · obtain ⟨e, he, found⟩ := List.mem_filterMap.1 hd
      rcases newDifference_eq_some_iff.1 found with ⟨h, -⟩ | ⟨_, h, listed, differ⟩
      · nomatch h
      · cases h
        obtain ⟨hm, same⟩ := find?_key_eq_some listed
        rcases differ with ⟨-, version, differ⟩ | ⟨plain, -⟩
        · refine ⟨?_, new, he, rfl, secret, version, differ⟩
          exact List.mem_map.2 ⟨old, List.mem_reverse.1 hm, same⟩
        · nomatch secret.symm.trans plain
    · obtain ⟨_, -, h⟩ := List.mem_map.1 hd
      nomatch h
  · rintro ⟨hk, e, he, rfl, secret, version, differ⟩
    obtain ⟨v, hv, same⟩ := List.mem_map.1 hk
    obtain ⟨old, listed⟩ : ∃ old, live.reverse.find? (·.key = e.key) = some old :=
      Option.isSome_iff_exists.1 (find?_key_isSome (List.mem_reverse.2 hv) same)
    have found : newDifference EnvVar.key EnvEntry.key (EnvVar.DiffersFrom ledger app) live e =
        some (.updated old e) :=
      newDifference_eq_some_iff.2 (.inr ⟨old, rfl, listed, .inl ⟨secret, version, differ⟩⟩)
    refine ⟨.updated old e, ?_, rfl, isRotation_envLine_iff.2 ⟨old, e, rfl, secret⟩⟩
    exact List.mem_append_left _ (List.mem_filterMap.2 ⟨e, he, found⟩)

/-! ## 3. Rotations that are recorded -/

variable {spec : ApplicationSpec}

/-- Where no key is listed twice, what is recorded of a secret is its version. -/
theorem recorded_version_of_distinct {e : EnvEntry}
    (distinct : (spec.env.map (·.key)).Nodup)
    (versions : ∀ e ∈ spec.env, e.secret → e.secretVersion.isSome) (he : e ∈ spec.env)
    (secret : e.secret) : (ledger.record app spec).1.env? app e.key = e.secretVersion := by
  rw [recorded_version versions he secret, ApplicationSpec.lastSecret?_eq_some distinct he secret]
  rfl

/-- A rotation of a variable is planned exactly when recording the spec changes what the ledger says
of it. -/
theorem rotationPlanned_iff_record {live : List EnvVar} {key : String}
    (distinct : (spec.env.map (·.key)).Nodup)
    (versions : ∀ e ∈ spec.env, e.secret → e.secretVersion.isSome) :
    RotationPlanned app live spec.env ledger key ↔
      key ∈ live.map (·.key) ∧ (∃ e ∈ spec.env, e.key = key ∧ e.secret) ∧
        (ledger.record app spec).1.env? app key ≠ ledger.env? app key := by
  rw [rotationPlanned_iff]
  refine and_congr_right fun _ => ?_
  constructor
  · rintro ⟨e, he, rfl, secret, -, differ⟩
    refine ⟨⟨e, he, rfl, secret⟩, ?_⟩
    rw [recorded_version_of_distinct distinct versions he secret]
    exact differ.symm
  · rintro ⟨⟨e, he, rfl, secret⟩, changed⟩
    rw [recorded_version_of_distinct distinct versions he secret] at changed
    exact ⟨e, he, rfl, secret, versions e he secret, changed.symm⟩

end Diff

/-- **A rotation is planned exactly when applying it changes the ledger, and then it is over.**  The
keys of the spec are distinct and its secrets have versions; the live environment and the ledger
are any.  A line about the registry password says that recording changes its version, and a line
about the version of a secret that recording changes that of the secret.  Against the ledger in
which the spec was recorded there are no such lines.  Recording it once more changes nothing, and
what is recorded for other applications is left as it is. -/
theorem rotation_planned_iff_recorded {spec : ApplicationSpec}
    (distinct : (spec.env.map (·.key)).Nodup)
    (versions : ∀ e ∈ spec.env, e.secret → e.secretVersion.isSome) (app : String)
    (ledger : SecretLedger) (live : List EnvVar) :
    ((Diff.password app spec.registryPasswordVersion ledger).isSome ↔
      (ledger.record app spec).1.password? app ≠ ledger.password? app) ∧
    (∀ key, Diff.RotationPlanned app live spec.env ledger key ↔
      key ∈ live.map (·.key) ∧ (∃ e ∈ spec.env, e.key = key ∧ e.secret) ∧
        (ledger.record app spec).1.env? app key ≠ ledger.env? app key) ∧
    (∀ known, Diff.env app live spec.env known =
      (Diff.envDifferences app live spec.env known).map (Diff.envLine known app)) ∧
    Diff.password app spec.registryPasswordVersion (ledger.record app spec).1 = none ∧
    (∀ key, ¬ Diff.RotationPlanned app live spec.env (ledger.record app spec).1 key) ∧
    (ledger.record app spec).1.record app spec = ((ledger.record app spec).1, false) ∧
    ∀ other, other ≠ app → (ledger.record app spec).1.applications.get? other =
      ledger.applications.get? other := by
  have password : (ledger.record app spec).1.password? app = spec.registryPasswordVersion := by
    rw [SecretLedger.password?_record, if_pos rfl]
  refine ⟨?_, fun key => Diff.rotationPlanned_iff_record distinct versions,
    Diff.env_eq_map_line app live spec.env, Diff.password_recorded, fun key planned => ?_,
    ledger.record_record app spec, fun other h => ledger.get?_record_of_ne app spec h⟩
  · rw [password, Option.isSome_iff_ne_none, ne_eq, Diff.password_eq_none_iff, ne_comm]
  · -- what is recorded is what would be recorded once more
    obtain ⟨-, -, changed⟩ := (Diff.rotationPlanned_iff_record distinct versions).1 planned
    rw [ledger.record_record app spec] at changed
    exact changed rfl

namespace Rotating

/-- A spec with a password and three secrets. -/
def spec : ApplicationSpec :=
  { Update.silentSpec with
    registryPasswordVersion := some 4
    env := [⟨"TOKEN", some "t", true, some 2⟩, ⟨"KEY", some "k", true, some 1⟩,
      ⟨"NEW", some "n", true, some 1⟩, ⟨"MODE", some "fast", false, none⟩] }

/-- Two of them live, and a variable that is gone. -/
def live : List EnvVar := [⟨"KEY", none, true⟩, ⟨"TOKEN", none, true⟩, ⟨"OLD", none, true⟩]

/-- What was recorded before: another version of one of them, the same one of the other, and
something about another application. -/
def ledger : SecretLedger :=
  (SecretLedger.setEnvs "web" [("TOKEN", some 1), ("KEY", some 1), ("OLD", some 3)]
    (SecretLedger.empty.setPassword "api" (some 9)).1).1

/-- The password and one of the secrets are rotated, and only once. -/
theorem rotated_once :
    (spec.env.map (·.key)).Nodup ∧
    (∀ e ∈ spec.env, e.secret → e.secretVersion.isSome) ∧
    (Diff.password "web" spec.registryPasswordVersion ledger).isSome ∧
    Diff.RotationPlanned "web" live spec.env ledger "TOKEN" ∧
    ¬ Diff.RotationPlanned "web" live spec.env ledger "KEY" ∧
    ¬ Diff.RotationPlanned "web" live spec.env ledger "NEW" ∧
    Diff.password "web" spec.registryPasswordVersion (ledger.record "web" spec).1 = none ∧
    ¬ Diff.RotationPlanned "web" live spec.env (ledger.record "web" spec).1 "TOKEN" ∧
    (ledger.record "web" spec).1.applications.get? "api" = some ⟨some 9, .empty⟩ := by
  have distinct : (spec.env.map (·.key)).Nodup := by decide
  have versions : ∀ e ∈ spec.env, e.secret → e.secretVersion.isSome := by decide
  obtain ⟨password, secrets, -, settled, finished, -, others⟩ :=
    rotation_planned_iff_recorded distinct versions "web" ledger live
  refine ⟨distinct, versions, password.2 (by decide), (secrets _).2 (by decide), ?_, ?_, settled,
    finished "TOKEN", (others "api" (by decide)).trans (by decide)⟩
  · exact fun h => absurd ((secrets _).1 h).2.2 (by decide)
  · exact fun h => absurd ((secrets _).1 h).1 (by decide)

end Rotating

end Converge
