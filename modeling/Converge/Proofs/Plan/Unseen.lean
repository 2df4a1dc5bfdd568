import Converge.Plan.Planner
import Converge.Proofs.Data.Keyed
/-!
# What does not show in a plan

A plan is made from the whole configuration, but not everything in it leaves a trace: a plan and
what the log says while it is made go by the names of the applications and by the action that each
of them gets.  So what can be changed in a configuration without changing an action cannot be told
from the plan.

Two things are of this kind.  Secrets are never compared and never shown; only their keys and the
numbers that the operator gave them are.  And the image of an application that has a version is not
compared, because a new version takes over the image of the one before.

Main statements: `samePlanning_of_redacted_eq` and `samePlanning_of_unimaged_eq`.
-/

namespace Converge

open Planner

variable {c d : ClusterConfig} {live : LiveState} {ledger : SecretLedger}

/-! ## 1. The same plan -/

/-- The plan as it is when it is made at another time. -/
def Plan.madeAt (p : Plan) (time : Timestamp) : Plan := { p with createdAt := time }

/-- The time is all that the clock adds to a plan. -/
theorem plan_madeAt (now later : Timestamp) :
    (plan c live ledger now).map (·.madeAt later) = plan c live ledger later := by
  unfold plan
  cases applicationActions c live ledger <;> rfl

/-- Whether planning cannot tell two configurations apart: whenever either is planned, there is the
same plan but for its time, with the same text, or the same failure, and the log gets the same
warnings. -/
structure SamePlanning (live : LiveState) (ledger : SecretLedger) (c d : ClusterConfig) :
    Prop where
  plan : ∀ now later, (plan c live ledger now).map (·.madeAt later) = plan d live ledger later
  text : ∀ now later,
    (Converge.plan c live ledger now).map Plan.text =
      (Converge.plan d live ledger later).map Plan.text
  notices : notices c live ledger = notices d live ledger

/-- It is enough to plan both at the same time. -/
theorem SamePlanning.of_eq
    (same : ∀ now, Converge.plan c live ledger now = Converge.plan d live ledger now)
    (notices : Planner.notices c live ledger = Planner.notices d live ledger) :
    SamePlanning live ledger c d where
  plan now later := by rw [plan_madeAt, same]
  text now later := by
    rw [same, ← plan_madeAt now later]
    cases Converge.plan d live ledger now <;> rfl
  notices := notices

/-! ## 2. Changing the applications of a configuration -/

/-- The configuration with each of its applications changed. -/
def ClusterConfig.mapApplications (f : ApplicationConfig → ApplicationConfig)
    (c : ClusterConfig) : ClusterConfig :=
  { c with applications := c.applications.map f }

/-- The changed application is found where the other is. -/
theorem ClusterConfig.application?_mapApplications {f : ApplicationConfig → ApplicationConfig}
    (name : ∀ w, (f w).name = w.name) (n : String) :
    (c.mapApplications f).application? n = (c.application? n).map f :=
  find?_key_map name c.applications n

/-- Whether a change of an application leaves its name, its action and what the log says of it. -/
structure Unseen (live : LiveState) (ledger : SecretLedger)
    (f : ApplicationConfig → ApplicationConfig) : Prop where
  name : ∀ w, (f w).name = w.name
  action : ∀ w, applicationAction live ledger (f w) = applicationAction live ledger w
  notices : ∀ w, applicationNotices live ledger (f w) = applicationNotices live ledger w

namespace Unseen

variable {f : ApplicationConfig → ApplicationConfig}

theorem orphanApplications_eq (h : Unseen live ledger f) :
    orphanApplications (c.mapApplications f) live = orphanApplications c live := by
  unfold orphanApplications
  simp only [ClusterConfig.application?_mapApplications h.name, Option.isNone_map]

theorem applicationActions_eq (h : Unseen live ledger f) :
    applicationActions (c.mapApplications f) live ledger = applicationActions c live ledger := by
  have same : applicationAction live ledger ∘ f = applicationAction live ledger :=
    funext h.action
  rw [applicationActions, ClusterConfig.mapApplications, List.mapM_map, same]
  rfl

/-- The applications that are looked at are the changed ones of those that were. -/
theorem comparable_map (h : Unseen live ledger f) : ∀ l : List ApplicationConfig,
    comparable live ledger (l.map f) =
      ((comparable live ledger l).1.map f, (comparable live ledger l).2)
  | [] => rfl
  | w :: rest => by
    rw [List.map_cons, comparable, comparable, h.action w, comparable_map h rest]
    cases applicationAction live ledger w <;> rfl

theorem plan_eq (h : Unseen live ledger f) (now : Timestamp) :
    plan (c.mapApplications f) live ledger now = plan c live ledger now := by
  unfold plan
  rw [h.applicationActions_eq, h.orphanApplications_eq]
  rfl

theorem notices_eq (h : Unseen live ledger f) :
    Planner.notices (c.mapApplications f) live ledger = Planner.notices c live ledger := by
  have compared : comparable live ledger (c.mapApplications f).applications =
      ((comparable live ledger c.applications).1.map f,
        (comparable live ledger c.applications).2) := h.comparable_map c.applications
  unfold Planner.notices
  rw [compared]
  simp only [List.flatMap_map, h.notices, h.orphanApplications_eq]
  rfl

/-- **What is unseen cannot be told from the plan.** -/
theorem samePlanning (h : Unseen live ledger f)
    (same : c.mapApplications f = d.mapApplications f) : SamePlanning live ledger c d :=
  .of_eq (fun now => by rw [← h.plan_eq, same, h.plan_eq])
    (by rw [← h.notices_eq, same, h.notices_eq])

end Unseen

/-! ## 3. Secrets -/

/-- A variable, without its value if that is secret. -/
def EnvEntry.redacted (e : EnvEntry) : EnvEntry :=
  { e with value := if e.secret then none else e.value }

/-- A spec without its secrets: the password of the registry user and the values of secret
variables. -/
def ApplicationSpec.redacted (s : ApplicationSpec) : ApplicationSpec :=
  { s with registryPassword := none, env := s.env.map (·.redacted) }

/-- A configuration without its secrets. -/
def ClusterConfig.redacted (c : ClusterConfig) : ClusterConfig :=
  c.mapApplications fun w => { w with spec := w.spec.redacted }

theorem EnvEntry.redacted_of_plain {e : EnvEntry} (h : e.secret = false) : e.redacted = e := by
  obtain ⟨key, value, secret, version⟩ := e
  obtain rfl : secret = false := h
  rfl

namespace Diff

theorem envAdd_redacted (e : EnvEntry) : envAdd e.redacted = envAdd e := by
  cases hs : e.secret <;> simp [envAdd, EnvEntry.redacted, hs]

/-- Of a secret, only the number is compared, on whichever side it is secret. -/
theorem envChange_redacted (app : String) (before : List EnvVar) (e : EnvEntry) :
    envChange ledger app before e.redacted = envChange ledger app before e := by
  cases hs : e.secret with
  | false => rw [EnvEntry.redacted_of_plain hs]
  | true => simp [envChange, secretChange, envAdd, EnvEntry.redacted, hs]

theorem env_redacted (app : String) (before : List EnvVar) (after : List EnvEntry) :
    env app before (after.map (·.redacted)) ledger = env app before after ledger := by
  have keys (k : String) :
      (after.map (·.redacted)).any (·.key = k) = after.any (·.key = k) := List.any_map
  simp only [env, List.flatMap_map, envChange_redacted, keys]

theorem describeApplication_redacted (app : String) (spec : ApplicationSpec) :
    describeApplication app spec.redacted ledger = describeApplication app spec ledger := by
  have lines : spec.redacted.env.map envAdd = spec.env.map envAdd := by
    rw [ApplicationSpec.redacted, List.map_map]
    exact List.map_congr_left fun e _ => envAdd_redacted e
  rw [describeApplication, lines]
  rfl

/-- Secrets are no part of the normal form, and environments are compared without them. -/
theorem application_redacted (app : String) (v : ApplicationVersion) (spec : ApplicationSpec) :
    application app v spec.redacted ledger = application app v spec ledger := by
  have lines : env app v.env spec.redacted.env ledger = env app v.env spec.env ledger :=
    env_redacted app v.env spec.env
  rw [application, lines]
  rfl

end Diff

/-- Secrets leave the actions for applications as they are. -/
theorem unseen_redacted (live : LiveState) (ledger : SecretLedger) :
    Unseen live ledger fun w => { w with spec := w.spec.redacted } where
  name _ := rfl
  action w := by
    simp only [applicationAction, Diff.describeApplication_redacted, Diff.application_redacted]
  notices w := by
    simp only [applicationNotices, Diff.application_redacted]
    rfl

/-- **Planning does not reveal configured secrets.**  Where two configurations differ in nothing but
registry passwords, set or not, and the values of secret variables, planning cannot tell them
apart, whatever lives and whatever is in the ledger. -/
theorem samePlanning_of_redacted_eq (same : c.redacted = d.redacted) (live : LiveState)
    (ledger : SecretLedger) : SamePlanning live ledger c d :=
  (unseen_redacted live ledger).samePlanning same

namespace Redacted

/-- A spec with a registry password or none, and with two variables that are secret. -/
def spec (password : Option String) (token key : Option String) : ApplicationSpec where
  cpu := 1000
  memory := 1024
  scalingMode := "manual"
  fixedScale := some 1
  minScale := none
  maxScale := none
  scaleInThreshold := none
  scaleOutThreshold := none
  image := "nginx"
  cmd := []
  registryUsername := some "robot"
  registryPassword := password
  registryPasswordVersion := some 2
  exposedPorts := []
  env := [⟨"MODE", some "fast", false, none⟩, ⟨"TOKEN", token, true, some 5⟩,
    ⟨"KEY", key, true, none⟩]

/-- One application that lives and one that does not. -/
def desired (password token key : Option String) : ClusterConfig where
  clusterName := "prod"
  cluster := none
  groups := []
  balancers := []
  applications := [⟨"web", spec password token key⟩, ⟨"api", spec password none token⟩]

/-- In the version that lives the one variable is secret and the other is not. -/
def version : ApplicationVersion where
  version := 1
  cpu := 500
  memory := 1024
  scalingMode := "manual"
  fixedScale := some 1
  minScale := none
  maxScale := none
  scaleInThreshold := none
  scaleOutThreshold := none
  image := "nginx"
  cmd := []
  registryUsername := some "robot"
  exposedPorts := []
  env := [⟨"TOKEN", none, true⟩, ⟨"KEY", some "a", false⟩]

def observed : LiveState where
  cluster := ⟨"prod", .ofNat 1⟩
  detail := ⟨.ofNat 1, "prod", "", false⟩
  groups := []
  balancers := .empty
  applications := [⟨⟨.ofNat 2, "web", .ofNat 1, some 1⟩, some version⟩]

/-- That there is a password, and that a secret becomes the value which the live variable shows, are
no differences either. -/
theorem secrets_not_revealed :
    desired (some "s3cret") (some "x") none ≠ desired none (some "y") (some "a") ∧
    SamePlanning observed .empty (desired (some "s3cret") (some "x") none)
      (desired none (some "y") (some "a")) :=
  ⟨by decide +kernel, samePlanning_of_redacted_eq (by decide +kernel) observed .empty⟩

end Redacted

/-! ## 4. Images -/

/-- The version that is compared with the spec of a configured application. -/
def LiveState.latest? (live : LiveState) (name : String) : Option ApplicationVersion :=
  (live.application? name).bind (·.latestVersion)

/-- An application, without its image if it has a version. -/
def ApplicationConfig.unimaged (live : LiveState) (w : ApplicationConfig) : ApplicationConfig :=
  if (live.latest? w.name).isSome then { w with spec := { w.spec with image := "" } } else w

theorem ApplicationConfig.unimaged_name (live : LiveState) (w : ApplicationConfig) :
    (w.unimaged live).name = w.name := by
  unfold unimaged
  split <;> rfl

/-- A configuration without the images of applications that have a version. -/
def ClusterConfig.unimaged (live : LiveState) (c : ClusterConfig) : ClusterConfig :=
  c.mapApplications (·.unimaged live)

/-- A comparison that skips the image does not depend on it. -/
theorem Diff.application_image (app : String) (v : ApplicationVersion) (spec : ApplicationSpec)
    (image : String) :
    application app v { spec with image := image } ledger = application app v spec ledger := rfl

/-- Images leave the actions for applications that have a version as they are. -/
theorem unseen_unimaged (live : LiveState) (ledger : SecretLedger) :
    Unseen live ledger (·.unimaged live) where
  name w := w.unimaged_name live
  action w := by
    unfold ApplicationConfig.unimaged LiveState.latest?
    split
    next h =>
      obtain ⟨v, h⟩ := Option.isSome_iff_exists.1 h
      obtain ⟨l, hl, hv⟩ := Option.bind_eq_some_iff.1 h
      simp only [applicationAction, hl, hv, Diff.application_image]
    next => rfl
  notices w := by
    unfold ApplicationConfig.unimaged
    split
    next => simp only [applicationNotices, Diff.application_image]
    next => rfl

/-- **Planning does not go by the images of applications that have a version.** -/
theorem samePlanning_of_unimaged_eq (same : c.unimaged live = d.unimaged live)
    (ledger : SecretLedger) : SamePlanning live ledger c d :=
  (unseen_unimaged live ledger).samePlanning same

end Converge
