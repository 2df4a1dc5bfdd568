import Converge.Config.Validation
import Converge.Plan.Diff
import Converge.Proofs.Cluster.Overlay
import Converge.Proofs.Data.Keyed
import Converge.Proofs.Ledger.Recording
/-!
# Recorded without being sent

The ledger stands in for secrets that nobody can look at, so a version belongs in it once the secret
was sent.  The version and the secret are two optional parts of a spec, however: recording reads the
one, the request reads the other, and neither looks at what the other does.
`ApplicationSpec.OnlySent` says that everything which recording a spec brings into the ledger was
in the request; `only_sent_iff` says for which specs and ledgers this is so.  It is never a matter
of the version that the request is laid over.

A validated spec has a version for each of its secrets, but not the other way round.
`rotation_recorded_unsent` is a rotation that is lost in this way: the number of the password goes
up, the request keeps the old password, and afterwards there is nothing left to do.

Main statement: `only_sent_iff`.
-/

namespace Converge

/-! ## 1. What a request carries -/

namespace CreateVersionRequest

/-- The request replaces the registry password and brings the new one along. -/
def CarriesPassword (r : CreateVersionRequest) : Prop :=
  r.passwordAction = .new ∧ r.registryPassword.isSome

/-- The request brings a value for a secret variable along. -/
def CarriesSecret (r : CreateVersionRequest) (key : String) : Prop :=
  ∃ e ∈ r.env, e.key = key ∧ e.secret ∧ e.value.isSome

end CreateVersionRequest

namespace ApplicationSpec

variable {spec : ApplicationSpec} {base : Option ApplicationVersion}

/-- A password is sent exactly when the spec has one, whatever the version before. -/
theorem carriesPassword_request :
    (spec.request base).CarriesPassword ↔ spec.registryPassword.isSome := by
  rw [CreateVersionRequest.CarriesPassword, registryPassword_request, and_iff_right_iff_imp]
  exact fun h => if_pos h

/-- The spec has a value for a secret variable. -/
def GivesSecret (spec : ApplicationSpec) (key : String) : Prop :=
  ∃ e ∈ spec.env, e.key = key ∧ e.secret ∧ e.value.isSome

/-- A secret is sent exactly when the spec has a value for it, if it has variables at all. -/
theorem carriesSecret_request (h : spec.env ≠ []) {key : String} :
    (spec.request base).CarriesSecret key ↔ spec.GivesSecret key := by
  unfold CreateVersionRequest.CarriesSecret
  rw [env_request h]
  constructor
  · rintro ⟨_, hv, hkey, hsecret, hvalue⟩
    obtain ⟨e, he, rfl⟩ := List.mem_map.1 hv
    exact ⟨e, he, hkey, hsecret, hvalue⟩
  · rintro ⟨e, he, hkey, hsecret, hvalue⟩
    exact ⟨e.sent, List.mem_map.2 ⟨e, he, rfl⟩, hkey, hsecret, hvalue⟩

/-! ## 2. What recording claims -/

/-- Every version that recording the spec brings into the ledger is that of a secret which the
request made from the spec carries. -/
structure OnlySent (spec : ApplicationSpec) (base : Option ApplicationVersion)
    (ledger : SecretLedger) (app : String) : Prop where
  password : ∀ n, (ledger.record app spec).1.password? app = some n →
    ledger.password? app ≠ some n → (spec.request base).CarriesPassword
  secrets : ∀ key n, (ledger.record app spec).1.env? app key = some n →
    ledger.env? app key ≠ some n → (spec.request base).CarriesSecret key

/-- The spec gives a secret wherever it has a version that the ledger does not know yet. -/
structure GivesNewSecrets (spec : ApplicationSpec) (ledger : SecretLedger) (app : String) :
    Prop where
  password : ∀ n, spec.registryPasswordVersion = some n → ledger.password? app ≠ some n →
    spec.registryPassword.isSome
  secrets : ∀ e, spec.lastSecret? e.key = some e → ∀ n, e.secretVersion = some n →
    ledger.env? app e.key ≠ some n → spec.GivesSecret e.key

variable {ledger : SecretLedger} {app : String}

theorem recorded_password {n : Int64} :
    (ledger.record app spec).1.password? app = some n ↔ spec.registryPasswordVersion = some n := by
  rw [SecretLedger.password?_record, if_pos rfl]

/-- A version that recording brings in for a variable is that of the last secret with its key. -/
theorem recorded_secret {key : String} {n : Int64} (new : ledger.env? app key ≠ some n) :
    (ledger.record app spec).1.env? app key = some n ↔
      ∃ e, spec.lastSecret? key = some e ∧ e.secretVersion = some n := by
  rw [SecretLedger.env?_record]
  cases spec.lastSecret? key with
  | none => simp
  | some e =>
    cases hv : e.secretVersion with
    | none => simp [hv, new]
    | some v => simp [hv]

/-- **When the ledger claims only what was sent**: exactly when the spec gives a secret wherever it
has a version that the ledger does not know yet. -/
theorem only_sent_iff : spec.OnlySent base ledger app ↔ spec.GivesNewSecrets ledger app := by
  constructor
  · intro h
    refine ⟨fun n hn new => ?_, fun e he n hn new => ?_⟩
    · exact carriesPassword_request.1 (h.password n (recorded_password.2 hn) new)
    · have nonempty : spec.env ≠ [] := List.ne_nil_of_mem (lastSecret?_mem he).1
      exact (carriesSecret_request nonempty).1
        (h.secrets e.key n ((recorded_secret new).2 ⟨e, he, hn⟩) new)
  · intro h
    refine ⟨fun n hn new => ?_, fun key n hn new => ?_⟩
    · exact carriesPassword_request.2 (h.password n (recorded_password.1 hn) new)
    · obtain ⟨e, he, hv⟩ := (recorded_secret new).1 hn
      obtain ⟨mem, -, rfl⟩ := lastSecret?_mem he
      exact (carriesSecret_request (List.ne_nil_of_mem mem)).2 (h.secrets e he n hv new)

end ApplicationSpec

/-! ## 3. A rotation that is lost -/

namespace Rotation

/-- A spec with the second version of a password, and without the password. -/
def spec : ApplicationSpec where
  cpu := 500
  memory := 1024
  scalingMode := "manual"
  fixedScale := some 1
  minScale := none
  maxScale := none
  scaleInThreshold := none
  scaleOutThreshold := none
  image := "nginx"
  cmd := []
  registryUsername := some "robot"
  registryPassword := none
  registryPasswordVersion := some 2
  exposedPorts := [⟨80, none, false, [], none⟩]
  env := []

/-- A configuration with this application. -/
def config : ClusterConfig := ⟨"prod", none, [], [], [⟨"web", spec⟩]⟩

/-- The version that was written with the first password. -/
def base : ApplicationVersion :=
  Simulation.stored 1 ({ spec with registryPassword := some "hunter2" }.request none)

/-- The ledger that knows the first password. -/
def before : SecretLedger := (SecretLedger.empty.setPassword "web" (some 1)).1

/-- **The number is recorded and the password is not sent.**  The configuration is valid, the
comparison asks for an update, the request keeps the old password, the ledger has the new number,
and nothing is left to update afterwards. -/
theorem rotation_recorded_unsent :
    (config.check true).isValid ∧ ⟨"web", spec⟩ ∈ config.applications ∧
    Diff.application "web" base spec before = .ok ["RegistryPasswordVersion: 1 -> 2"] ∧
    (spec.request (some base)).passwordAction = .keep ∧
    (spec.request (some base)).registryPassword = none ∧
    (before.record "web" spec).1.password? "web" = some 2 ∧
    ¬ spec.OnlySent (some base) before "web" ∧
    Diff.application "web" (Simulation.stored 2 (spec.request (some base))) spec
      (before.record "web" spec).1 = .ok [] := by
  have recorded : (before.record "web" spec).1.password? "web" = some 2 := by decide
  have known : before.password? "web" ≠ some 2 := by decide
  refine ⟨by decide, List.mem_singleton.2 rfl, by decide +kernel, by decide, by decide, recorded,
    fun h => ?_, by decide +kernel⟩
  obtain ⟨hnew, -⟩ := h.password 2 recorded known
  have kept : (spec.request (some base)).passwordAction = .keep := by decide
  rw [kept] at hnew
  nomatch hnew

end Rotation

end Converge
