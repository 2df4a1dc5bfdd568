import Converge.Dump
import Converge.Plan.Planner
import Converge.Proofs.Cluster.Overlay
import Converge.Proofs.Data.Keyed
import Converge.Versions.Query
/-!
# Secrets that are read back

The control plane may show the values of secret variables; nothing here makes use of them.  To say
so, a version is taken without them (`ApplicationVersion.redacted`): whatever is written down,
compared, planned or sent because of a version is the same as for the version without the values of
its secrets.

What is secret on one side of a comparison only is the case to look at: a live variable that is
secret and becomes plain shows the new value, and never the old one.

Main statements: `plan_redacted`, `Planner.notices_redacted`, `ApplicationSpec.request_redacted` and
`Versions.difference_redacted`.
-/

namespace Converge

/-! ## 1. Versions without secret values -/

/-- A version without the values of its secret variables. -/
def ApplicationVersion.redacted (v : ApplicationVersion) : ApplicationVersion :=
  { v with env := v.env.map (·.inherited) }

theorem EnvVar.config_inherited (e : EnvVar) : e.inherited.config = e.config := by
  cases h : e.secret with
  | false => rw [inherited_of_plain h]
  | true => simp [config, inherited, h]

/-- What is written down of a version says nothing about secret values. -/
theorem ApplicationVersion.spec_redacted (v : ApplicationVersion) : v.redacted.spec = v.spec := by
  have env : v.redacted.env.map (·.config) = v.env.map (·.config) := by
    rw [redacted, List.map_map]
    exact List.map_congr_left fun e _ => e.config_inherited
  rw [spec, env]
  rfl

/-- What is sent because of the version before says nothing about secret values. -/
theorem ApplicationSpec.request_redacted (spec : ApplicationSpec)
    (base : Option ApplicationVersion) :
    spec.request (base.map (·.redacted)) = spec.request base := by
  cases base with
  | none => rfl
  | some v =>
    have env : v.redacted.env.map (·.inherited) = v.env.map (·.inherited) := by
      rw [ApplicationVersion.redacted, List.map_map]
      exact List.map_congr_left fun e _ => e.inherited_inherited
    have inherited : inheritList (some v.redacted) (spec.env.map (·.sent))
        (fun b => b.env.map (·.inherited)) =
        inheritList (some v) (spec.env.map (·.sent)) fun b => b.env.map (·.inherited) := by
      unfold inheritList
      rw [Option.map_some, Option.map_some, env]
    rw [Option.map_some, request, request, inherited]
    rfl

/-! ## 2. Comparisons -/

namespace Diff

variable {ledger : SecretLedger}

theorem lastWithKey_inherited (env : List EnvVar) (key : String) :
    lastWithKey (env.map (·.inherited)) key = (lastWithKey env key).map (·.inherited) := by
  rw [lastWithKey, ← List.map_reverse]
  exact find?_key_map (fun _ => rfl) env.reverse key

theorem any_key_inherited (env : List EnvVar) (key : String) :
    (env.map (·.inherited)).any (·.key = key) = env.any (·.key = key) := List.any_map

/-- A live secret is compared by its number, or only said to be secret. -/
theorem envChange_inherited (app : String) (before : List EnvVar) (e : EnvEntry) :
    envChange ledger app (before.map (·.inherited)) e = envChange ledger app before e := by
  unfold envChange
  rw [lastWithKey_inherited]
  cases lastWithKey before e.key with
  | none => rfl
  | some current =>
    cases h : current.secret with
    | false => rw [Option.map_some, EnvVar.inherited_of_plain h]
    | true => simp [EnvVar.inherited, h]

theorem env_inherited (app : String) (before : List EnvVar) (after : List EnvEntry) :
    env app (before.map (·.inherited)) after ledger = env app before after ledger := by
  have changes : envChange ledger app (before.map (·.inherited)) = envChange ledger app before :=
    funext (envChange_inherited app before)
  rw [env, env, changes, List.flatMap_map]
  rfl

theorem application_redacted_live (app : String) (v : ApplicationVersion)
    (spec : ApplicationSpec) :
    application app v.redacted spec ledger = application app v spec ledger := by
  have lines : env app v.redacted.env spec.env ledger = env app v.env spec.env ledger :=
    env_inherited app v.env spec.env
  rw [application, lines]
  rfl

/-- Between two versions, what is secret on either side is not compared. -/
theorem versionEnvChange_inherited (before : List EnvVar) (e : EnvVar) :
    versionEnvChange (before.map (·.inherited)) e.inherited = versionEnvChange before e := by
  unfold versionEnvChange
  have key : lastWithKey (before.map (·.inherited)) e.inherited.key =
      (lastWithKey before e.key).map (·.inherited) := lastWithKey_inherited before e.key
  rw [key]
  rcases Bool.eq_false_or_eq_true e.secret with he | he
  · cases lastWithKey before e.key <;> simp [EnvVar.inherited, he]
  · rw [EnvVar.inherited_of_plain he]
    cases lastWithKey before e.key with
    | none => rfl
    | some old =>
      rcases Bool.eq_false_or_eq_true old.secret with ho | ho
      · simp [EnvVar.inherited, ho]
      · rw [Option.map_some, EnvVar.inherited_of_plain ho]

theorem versionEnv_inherited (before after : List EnvVar) :
    versionEnv (before.map (·.inherited)) (after.map (·.inherited)) = versionEnv before after := by
  simp only [versionEnv, List.flatMap_map, versionEnvChange_inherited, any_key_inherited]
  rfl

theorem anySecret_inherited (before after : List EnvVar) :
    anySecret (before.map (·.inherited)) (after.map (·.inherited)) = anySecret before after := by
  rw [anySecret, ← List.map_append, List.any_map]
  rfl

end Diff

/-- The comparison of two versions says nothing about secret values. -/
theorem Versions.difference_redacted (a : Application) (before after : ApplicationVersion)
    (older newer : Int32) :
    difference a before.redacted after.redacted older newer =
      difference a before after older newer := by
  have lines : Diff.versionEnv before.redacted.env after.redacted.env =
      Diff.versionEnv before.env after.env := Diff.versionEnv_inherited before.env after.env
  have secret : Diff.anySecret before.redacted.env after.redacted.env =
      Diff.anySecret before.env after.env := Diff.anySecret_inherited before.env after.env
  rw [difference, lines, secret]
  rfl

/-! ## 3. Snapshots -/

/-- A live application, its version without the values of its secret variables. -/
def LiveApplication.redacted (l : LiveApplication) : LiveApplication :=
  { l with latestVersion := l.latestVersion.map (·.redacted) }

/-- A snapshot without the values of secret variables. -/
def LiveState.redacted (live : LiveState) : LiveState :=
  { live with applications := live.applications.map (·.redacted) }

theorem LiveState.application?_redacted (live : LiveState) (n : String) :
    live.redacted.application? n = (live.application? n).map (·.redacted) := by
  rw [application?, redacted, ← List.map_reverse]
  exact find?_key_map (fun _ => rfl) live.applications.reverse n

namespace Planner

variable {desired : ClusterConfig} {live : LiveState} {ledger : SecretLedger}

theorem applicationAction_redacted :
    applicationAction live.redacted ledger = applicationAction live ledger := by
  funext w
  simp only [applicationAction, LiveState.application?_redacted]
  cases live.application? w.name with
  | none => rfl
  | some l =>
    cases hv : l.latestVersion with
    | none => simp [LiveApplication.redacted, hv]
    | some v => simp [LiveApplication.redacted, hv, Diff.application_redacted_live]

theorem applicationNotices_redacted :
    applicationNotices live.redacted ledger = applicationNotices live ledger := by
  funext w
  simp only [applicationNotices, LiveState.application?_redacted]
  cases live.application? w.name with
  | none => rfl
  | some l =>
    cases hv : l.latestVersion with
    | none => simp [LiveApplication.redacted, hv]
    | some v => simp [LiveApplication.redacted, hv, Diff.application_redacted_live]

theorem comparable_redacted : ∀ l : List ApplicationConfig,
    comparable live.redacted ledger l = comparable live ledger l
  | [] => rfl
  | w :: rest => by
    rw [comparable, comparable, applicationAction_redacted, comparable_redacted rest]

theorem orphanApplications_redacted :
    orphanApplications desired live.redacted = orphanApplications desired live := by
  rw [orphanApplications, LiveState.redacted, List.map_map]
  rfl

/-- What the log says while a plan is made does not depend on secret values. -/
theorem notices_redacted : notices desired live.redacted ledger = notices desired live ledger := by
  unfold notices
  rw [comparable_redacted, applicationNotices_redacted, orphanApplications_redacted]
  rfl

end Planner

/-- A plan does not depend on secret values that live. -/
theorem plan_redacted {desired : ClusterConfig} {live : LiveState} {ledger : SecretLedger}
    {now : Timestamp} : plan desired live.redacted ledger now = plan desired live ledger now := by
  unfold plan Planner.applicationActions
  rw [Planner.applicationAction_redacted, Planner.orphanApplications_redacted]
  rfl

end Converge
