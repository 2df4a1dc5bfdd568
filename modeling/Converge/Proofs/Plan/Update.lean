import Converge.Plan.Diff
import Converge.Proofs.Cluster.Overlay
import Converge.Proofs.Config.Validation
import Converge.Proofs.Ledger.Recording
import Converge.Proofs.Plan.Normal
/-!
# What is left to update after an update

A new version is the spec laid over the version before it: what the spec leaves open is inherited.
A comparison takes the spec literally: what it leaves open is expected to be empty.  So an update
leaves nothing to update only if nothing was inherited that a comparison can see.
`ApplicationSpec.Settles` says exactly when that is so, and otherwise every further apply writes
the same version again.

The image is inherited as well, and there the comparison knows it: it is left out.

Main statement: `update_settles_iff`.
-/

namespace Converge

/-! ## 1. Nothing inherited that shows -/

namespace ApplicationSpec

/-- The last variable of a spec with a key. -/
def last? (spec : ApplicationSpec) (key : String) : Option EnvEntry :=
  spec.env.reverse.find? (·.key = key)

/-- A variable says the same as the last one with its key: a secret has the version of the last
secret one, and a plain one has the value of the last one, which is plain. -/
def Repeats (spec : ApplicationSpec) (e : EnvEntry) : Prop :=
  if e.secret then (spec.lastSecret? e.key).bind (·.secretVersion) = e.secretVersion
  else ∃ l, spec.last? e.key = some l ∧ l.secret = false ∧ l.value = e.value

/-- Laid over a version, a spec inherits nothing that a comparison can see. -/
structure Settles (spec : ApplicationSpec) (base : ApplicationVersion) : Prop where
  cmd : spec.cmd = [] → " ".intercalate base.cmd = ""
  user : userName spec.registryUsername = none → userName base.registryUsername = none
  scaleIn : spec.scaling = some .cpu → spec.scaleInThreshold = none → base.scaleInThreshold = none
  scaleOut : spec.scaling = some .cpu → spec.scaleOutThreshold = none →
    base.scaleOutThreshold = none
  env : spec.env = [] → base.env = []
  keys : ∀ e ∈ spec.env, spec.Repeats e

end ApplicationSpec

/-! ## 2. Variables -/

/-- A variable as it is shown after it was sent. -/
def EnvEntry.shown (e : EnvEntry) : EnvVar := e.sent.inherited

namespace ApplicationSpec

variable {spec : ApplicationSpec} {e : EnvEntry}

theorem lastSecret?_of_mem (he : e ∈ spec.env) (hs : e.secret) :
    ∃ l, spec.lastSecret? e.key = some l := by
  have mem : e ∈ (spec.env.filter (·.secret)).reverse :=
    List.mem_reverse.2 (List.mem_filter.2 ⟨he, hs⟩)
  exact Option.isSome_iff_exists.1 (find?_key_isSome mem rfl)

theorem lastWithKey_shown (spec : ApplicationSpec) (key : String) :
    Diff.lastWithKey (spec.env.map EnvEntry.shown) key = (spec.last? key).map EnvEntry.shown := by
  rw [Diff.lastWithKey, ← List.map_reverse, List.find?_map]
  rfl

end ApplicationSpec

namespace Diff

variable {spec : ApplicationSpec} {app : String} {ledger : SecretLedger}

/-- What is recorded of a secret is the version of the last secret with its key. -/
theorem recorded_version {e : EnvEntry}
    (versions : ∀ e ∈ spec.env, e.secret → e.secretVersion.isSome) (he : e ∈ spec.env)
    (hs : e.secret) : (ledger.record app spec).1.env? app e.key =
      (spec.lastSecret? e.key).bind (·.secretVersion) := by
  obtain ⟨l, hl⟩ := ApplicationSpec.lastSecret?_of_mem he hs
  obtain ⟨hle, hls, -⟩ := ApplicationSpec.lastSecret?_mem hl
  obtain ⟨stored, hw⟩ := Option.isSome_iff_exists.1 (versions l hle hls)
  rw [SecretLedger.env?_record, hl]
  simp [hw]

/-- A variable that was sent is shown as it was sent when it is plain and repeats the last one
with its key. -/
theorem lastWithKey_shown_eq_sent_iff {e : EnvEntry} (plain : e.secret = false) :
    lastWithKey (spec.env.map EnvEntry.shown) e.key = some e.sent ↔
      ∃ l, spec.last? e.key = some l ∧ l.secret = false ∧ l.value = e.value := by
  rw [ApplicationSpec.lastWithKey_shown, Option.map_eq_some_iff]
  refine exists_congr fun l => and_congr_right fun hl => ?_
  have key : l.key = e.key := (find?_key_eq_some hl).2
  cases hls : l.secret <;>
    simp [EnvEntry.shown, EnvEntry.sent, EnvVar.inherited, hls, plain, key]

/-- The variables that were sent do not differ, against the ledger in which they were recorded,
when every one repeats the last one with its key. -/
theorem env_recorded (app : String) (ledger : SecretLedger) (sound : spec.Sound) :
    env app (spec.env.map EnvEntry.shown) spec.env (ledger.record app spec).1 = [] ↔
      ∀ e ∈ spec.env, spec.Repeats e := by
  have keys : (spec.env.map EnvEntry.shown).map (·.key) = spec.env.map (·.key) := by
    rw [List.map_map]
    rfl
  rw [env_eq_nil_iff sound.secrets, keys, and_iff_right fun _ => Iff.rfl]
  refine forall₂_congr fun e he => ?_
  cases hs : e.secret with
  | true => simp [ApplicationSpec.Repeats, hs, recorded_version sound.secrets he hs]
  | false => simp [ApplicationSpec.Repeats, hs, lastWithKey_shown_eq_sent_iff hs]

/-- The environment after an update does not differ when nothing of it was inherited and every
variable repeats the last one with its key. -/
theorem env_updated (app : String) (ledger : SecretLedger) (base : ApplicationVersion)
    (sound : spec.Sound) :
    env app (((spec.request (some base)).env).map (·.inherited)) spec.env
      (ledger.record app spec).1 = [] ↔
      (spec.env = [] → base.env = []) ∧ ∀ e ∈ spec.env, spec.Repeats e := by
  by_cases hn : spec.env = []
  · have inherited : (spec.request (some base)).env = base.env.map (·.inherited) :=
      ApplicationSpec.env_request_of_eq_nil hn
    rw [inherited]
    cases hb : base.env with
    | nil => simp [env, hn]
    | cons v rest => simp [env, hn]
  · have sent : (spec.request (some base)).env = spec.env.map (·.sent) :=
      ApplicationSpec.inheritList_of_ne_nil (by simpa using hn)
    have shown : ((spec.request (some base)).env).map (·.inherited) =
        spec.env.map EnvEntry.shown := by
      rw [ApplicationSpec.env_request hn, List.map_map]
      rfl
    rw [shown, env_recorded app ledger sound, and_iff_right fun h => absurd h hn]

theorem password_recorded :
    password app spec.registryPasswordVersion (ledger.record app spec).1 = none :=
  password_eq_none_iff.2 (by rw [SecretLedger.password?_record, if_pos rfl])

end Diff

/-! ## 3. The comparison after an update -/

namespace ApplicationSpec

variable {spec : ApplicationSpec} {base : ApplicationVersion} {number : Int32}

theorem exposedPorts_updated (sound : spec.Sound) :
    (Simulation.stored number (spec.request (some base))).exposedPorts = spec.exposedPorts :=
  inheritList_of_ne_nil sound.ports

theorem scale_updated (sound : spec.Sound) :
    NormalSpec.SameScale (Simulation.stored number (spec.request (some base))).normal
      spec.normal ↔
      (spec.scaling = some .cpu → spec.scaleInThreshold = none → base.scaleInThreshold = none) ∧
      (spec.scaling = some .cpu → spec.scaleOutThreshold = none →
        base.scaleOutThreshold = none) := by
  have mode : ScalingMode.ofWord? spec.normal.scalingMode = spec.scaling := rfl
  rw [NormalSpec.SameScale, mode]
  rcases sound.scaling with ⟨hm, hfixed⟩ | ⟨hm, hmin, hmax⟩
  · have word : ScalingMode.ofWord? (spec.inheritMode (some base)) = some .manual := by
      rw [inheritMode_of_scaling hm]
      exact hm
    have fixed : (Simulation.stored number (spec.request (some base))).normal.fixedScale =
        spec.normal.fixedScale := by
      simp only [Simulation.stored, request, ApplicationVersion.normal, normal, word,
        inheritScale_of_isSome hfixed]
      simp
    simp [hm, fixed]
  · have word : ScalingMode.ofWord? (spec.inheritMode (some base)) = some .cpu := by
      rw [inheritMode_of_scaling hm]
      exact hm
    simp only [hm, Simulation.stored, request, ApplicationVersion.normal, normal, word,
      inheritScale_of_isSome hmin, inheritScale_of_isSome hmax]
    simp [inheritScale_eq_iff]

theorem cmd_updated :
    " ".intercalate (inheritList (some base) spec.cmd (·.cmd)) = " ".intercalate spec.cmd ↔
      (spec.cmd = [] → " ".intercalate base.cmd = "") := by
  cases hc : spec.cmd with
  | nil => simp [inheritList]
  | cons word rest => simp [inheritList]

theorem user_updated :
    ((userName spec.registryUsername).or (userName base.registryUsername)).getD "" =
        spec.registryUsername.getD "" ↔
      (userName spec.registryUsername = none → userName base.registryUsername = none) := by
  rw [← getD_userName spec.registryUsername]
  cases userName spec.registryUsername with
  | some u => simp
  | none =>
    rw [Option.none_or, Option.getD_none, userName_getD_eq_empty]
    simp

theorem fields_updated (number : Int32) (base : ApplicationVersion) (sound : spec.Sound) :
    NormalSpec.fieldChanges true (Simulation.stored number (spec.request (some base))).normal
      spec.normal = [] ↔
      (spec.cmd = [] → " ".intercalate base.cmd = "") ∧
      (userName spec.registryUsername = none → userName base.registryUsername = none) ∧
      (spec.scaling = some .cpu → spec.scaleInThreshold = none → base.scaleInThreshold = none) ∧
      (spec.scaling = some .cpu → spec.scaleOutThreshold = none →
        base.scaleOutThreshold = none) := by
  have mode : spec.inheritMode (some base) = spec.scalingMode := by
    rcases sound.scaling with ⟨hm, -⟩ | ⟨hm, -⟩
    · exact inheritMode_of_scaling hm _
    · exact inheritMode_of_scaling hm _
  rw [NormalSpec.fieldChanges_eq_nil_iff, scale_updated sound]
  simp only [Simulation.stored, request, ApplicationVersion.normal, normal, mode,
    inheritNumber_of_ne_zero sound.cpu, inheritNumber_of_ne_zero sound.memory, cmd_updated,
    Option.bind_some, user_updated]
  simp only [true_and]
  constructor
  · rintro ⟨⟨hi, ho⟩, hc, hu⟩
    exact ⟨hc, hu, hi, ho⟩
  · rintro ⟨hc, hu, hi, ho⟩
    exact ⟨⟨hi, ho⟩, hc, hu⟩

end ApplicationSpec

/-- Comparing a spec with what was written of it over a version, against the ledger in which it was
recorded, finds nothing exactly when the spec settles on that version. -/
theorem ApplicationSpec.Sound.settles_iff {spec : ApplicationSpec} (sound : spec.Sound)
    (name : String) (base : ApplicationVersion) (number : Int32) (ledger : SecretLedger) :
    Diff.application name (Simulation.stored number (spec.request (some base))) spec
      (ledger.record name spec).1 = .ok [] ↔ spec.Settles base := by
  have ports : (Simulation.stored number (spec.request (some base))).normal.exposedPorts =
      spec.normal.exposedPorts := congrArg normalPorts (ApplicationSpec.exposedPorts_updated sound)
  have distinct := nodup_normalPorts sound.portNumbers
  rw [Diff.application_eq_nil_iff, NormalSpec.compare_eq_nil_iff,
    ApplicationSpec.fields_updated number base sound]
  have env : Diff.env name (Simulation.stored number (spec.request (some base))).env spec.env
      (ledger.record name spec).1 = [] ↔ _ := Diff.env_updated name ledger base sound
  rw [env]
  constructor
  · rintro ⟨⟨-, -, ⟨hc, hu, hi, ho⟩, -⟩, ⟨hb, hk⟩, -⟩
    exact ⟨hc, hu, hi, ho, hb, hk⟩
  · rintro ⟨hc, hu, hi, ho, hb, hk⟩
    exact ⟨⟨ports ▸ distinct, distinct, ⟨hc, hu, hi, ho⟩, .of_eq ports⟩, ⟨hb, hk⟩,
      Diff.password_recorded⟩

/-- **When an update leaves nothing to update.**  For every valid spec, every version before it and
every ledger: comparing the spec with the version that an update has written, against the ledger
in which it was recorded, succeeds and finds nothing if and only if the spec settles on the
version before. -/
theorem update_settles_iff {c : ClusterConfig} {latestTag : Bool} {name : String}
    {spec : ApplicationSpec} (valid : (c.check latestTag).isValid)
    (configured : ⟨name, spec⟩ ∈ c.applications) (base : ApplicationVersion) (number : Int32)
    (ledger : SecretLedger) :
    Diff.application name (Simulation.stored number (spec.request (some base))) spec
      (ledger.record name spec).1 = .ok [] ↔ spec.Settles base := by
  have sound : spec.Sound := (ClusterConfig.sound_of_isValid valid).specs _ configured
  exact sound.settles_iff name base number ledger

/-! ## 4. Two specs -/

namespace Update

/-- A spec that leaves the command open. -/
def silentSpec : ApplicationSpec where
  cpu := 1000
  memory := 1024
  scalingMode := "manual"
  fixedScale := some 1
  minScale := none
  maxScale := none
  scaleInThreshold := none
  scaleOutThreshold := none
  image := "nginx"
  cmd := []
  registryUsername := none
  registryPassword := none
  registryPasswordVersion := none
  exposedPorts := [⟨80, none, false, [], none⟩]
  env := []

/-- The same spec with a command and a secret. -/
def fullSpec : ApplicationSpec :=
  { silentSpec with cmd := ["serve"], env := [⟨"TOKEN", some "t", true, some 7⟩] }

/-- A configuration with one application. -/
def configOf (spec : ApplicationSpec) : ClusterConfig := ⟨"prod", none, [], [], [⟨"web", spec⟩]⟩

/-- A live version with a command. -/
def live : ApplicationVersion :=
  Simulation.stored 1 { silentSpec.request none with cpu := 500, cmd := ["run"] }

/-- The spec that says everything has nothing left to update. -/
theorem update_settles_full : ((configOf fullSpec).check true).isValid ∧
    ⟨"web", fullSpec⟩ ∈ (configOf fullSpec).applications ∧
    Diff.application "web" (Simulation.stored 2 (fullSpec.request (some live))) fullSpec
      (SecretLedger.empty.record "web" fullSpec).1 = .ok [] := by
  have valid : ((configOf fullSpec).check true).isValid := by decide
  have configured : ⟨"web", fullSpec⟩ ∈ (configOf fullSpec).applications :=
    List.mem_singleton.2 rfl
  refine ⟨valid, configured, (update_settles_iff valid configured live 2 .empty).2 ?_⟩
  exact {
    cmd := fun h => nomatch h
    user := fun _ => rfl
    scaleIn := fun _ _ => rfl
    scaleOut := fun _ _ => rfl
    env := fun h => nomatch h
    keys := List.forall_mem_singleton.2 rfl }

/-- The spec that leaves the command open is updated again: the comparison expects no command,
and the update has kept the one from before. -/
theorem update_repeats_silent : ((configOf silentSpec).check true).isValid ∧
    ⟨"web", silentSpec⟩ ∈ (configOf silentSpec).applications ∧
    (live.exposedPorts.map (·.targetPort)).Nodup ∧
    Diff.application "web" (Simulation.stored 2 (silentSpec.request (some live))) silentSpec
      (SecretLedger.empty.record "web" silentSpec).1 = .ok ["Cmd: run -> \"\""] := by
  refine ⟨by decide, List.mem_singleton.2 rfl, by decide, ?_⟩
  decide +kernel

end Update

end Converge
