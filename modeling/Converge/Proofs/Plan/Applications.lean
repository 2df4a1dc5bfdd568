import Converge.Proofs.Ledger.Recording
import Converge.Proofs.Plan.Infrastructure
/-!
# What a plan says about the applications

`ApplicationPlanned` lists the actions that a configured application can get, each with what was
observed and, where there was something to compare, what came of it.  A plan that is made has one
of them for each configured application, in the order of the configuration, and no others.
`Plan.MadeFrom` is everything that a plan owes to the configuration, the snapshot and the ledger.

Main statements: `Planner.applicationPlanned` and `Plan.madeFrom`.
-/

namespace Converge

/-- Results of a traversal that succeeds stand for their arguments one by one. -/
theorem forall₂_of_mapM_ok {f : α → Except ε β} : ∀ {l : List α} {m : List β},
    l.mapM f = .ok m → List.Forall₂ (fun a b => f a = .ok b) l m
  | [], m, h => by
    rw [List.mapM_nil] at h
    obtain rfl := Except.ok.inj h
    exact .nil
  | a :: l, m, h => by
    rw [List.mapM_cons] at h
    cases ha : f a with
    | error e => rw [ha] at h; nomatch h
    | ok b =>
      rw [ha] at h
      cases hl : l.mapM f with
      | error e =>
        simp only [hl, bind, Except.bind] at h
        nomatch h
      | ok bs =>
        simp only [hl, bind, Except.bind, pure, Except.pure] at h
        obtain rfl := Except.ok.inj h
        exact .cons ha (forall₂_of_mapM_ok hl)

/-- A traversal succeeds when each of its steps does. -/
theorem mapM_ok_of_forall {f : α → Except ε β} : ∀ {l : List α},
    (∀ a ∈ l, ∃ b, f a = .ok b) → ∃ m, l.mapM f = .ok m
  | [], _ => ⟨[], rfl⟩
  | a :: l, h => by
    obtain ⟨⟨b, hb⟩, hl⟩ := List.forall_mem_cons.1 h
    obtain ⟨m, hm⟩ := mapM_ok_of_forall hl
    refine ⟨b :: m, ?_⟩
    rw [List.mapM_cons, hb, hm]
    rfl

/-! ## 1. Comparing applications -/

namespace Diff

variable {app : String} {live : ApplicationVersion} {spec : ApplicationSpec}
  {ledger other : SecretLedger}

/-- Of the ledger a comparison reads what it says of the application. -/
theorem password_congr (h : SecretLedger.Agree app other ledger) (version : Option Int64) :
    password app version other = password app version ledger := by
  simp only [password, h.1]

theorem env_congr (h : SecretLedger.Agree app other ledger) (before : List EnvVar)
    (after : List EnvEntry) : env app before after other = env app before after ledger := by
  have same : envChange other app before = envChange ledger app before := by
    funext e
    simp only [envChange, secretChange, h.2]
  rw [env, env, same]

theorem application_congr (h : SecretLedger.Agree app other ledger) :
    application app live spec other = application app live spec ledger := by
  simp only [application, env_congr h, password_congr h]

/-- An application can be compared when neither side lists a port twice. -/
theorem exists_application_iff : (∃ changes, application app live spec ledger = .ok changes) ↔
    (live.exposedPorts.map (·.targetPort)).Nodup ∧ (spec.exposedPorts.map (·.targetPort)).Nodup := by
  have compared : (∃ changes, live.normal.compare spec.normal true = .ok changes) ↔ _ :=
    NormalSpec.exists_compare_iff
  refine Iff.trans ?_ (compared.trans (and_congr nodup_normalPorts_iff nodup_normalPorts_iff))
  unfold application
  cases live.normal.compare spec.normal true <;> simp

end Diff

namespace Planner

variable {desired : ClusterConfig} {live : LiveState} {ledger : SecretLedger}
  {w : ApplicationConfig} {a : ApplicationAction}

/-! ## 2. The action for an application -/

/-- The actions that a configured application can get. -/
inductive ApplicationPlanned (live : LiveState) (ledger : SecretLedger) (w : ApplicationConfig) :
    ApplicationAction → Prop where
  | missing (h : live.application? w.name = none) :
      ApplicationPlanned live ledger w
        ⟨w.name, .create, none, Diff.describeApplication w.name w.spec ledger⟩
  | unversioned {l} (h : live.application? w.name = some l) (hv : l.latestVersion = none) :
      ApplicationPlanned live ledger w
        ⟨w.name, .update, some l.application.id, [initialVersionNote]⟩
  | same {l v} (h : live.application? w.name = some l) (hv : l.latestVersion = some v)
      (hd : Diff.application w.name v w.spec ledger = .ok []) :
      ApplicationPlanned live ledger w ⟨w.name, .noop, some l.application.id, []⟩
  | differs {l v changes} (h : live.application? w.name = some l) (hv : l.latestVersion = some v)
      (hd : Diff.application w.name v w.spec ledger = .ok changes) (hn : changes ≠ []) :
      ApplicationPlanned live ledger w ⟨w.name, .update, some l.application.id, changes⟩

theorem applicationPlanned (h : applicationAction live ledger w = .ok a) :
    ApplicationPlanned live ledger w a := by
  unfold applicationAction at h
  split at h
  next hl =>
    obtain rfl := Except.ok.inj h
    exact .missing hl
  next l hl =>
    dsimp only at h
    split at h
    next hv =>
      obtain rfl := Except.ok.inj h
      exact .unversioned hl hv
    next v hv =>
      split at h
      next => nomatch h
      next => nomatch h
      next changes hd =>
        obtain rfl := Except.ok.inj h
        by_cases hn : changes = []
        · subst hn
          exact .same hl hv hd
        · have := ApplicationPlanned.differs hl hv hd hn
          simpa [hn] using this

theorem ApplicationPlanned.name (h : ApplicationPlanned live ledger w a) : a.name = w.name := by
  cases h <;> rfl

/-- An application is created only where none lives, and one that gets a version otherwise is
identified. -/
theorem ApplicationPlanned.identified (h : ApplicationPlanned live ledger w a)
    (hc : a.action ≠ .create) : ∃ id, a.applicationId = some id := by
  cases h with
  | missing _ => exact absurd rfl hc
  | unversioned _ _ => exact ⟨_, rfl⟩
  | same _ _ _ => exact ⟨_, rfl⟩
  | differs _ _ _ _ => exact ⟨_, rfl⟩

/-- The action for an application depends on what is found of it and on what the ledger says of
it. -/
theorem applicationAction_congr {live' : LiveState} {ledger' : SecretLedger}
    (same : live'.application? w.name = live.application? w.name)
    (agree : SecretLedger.Agree w.name ledger' ledger) :
    applicationAction live' ledger' w = applicationAction live ledger w := by
  simp only [applicationAction, same, Diff.application_congr agree, Diff.describeApplication,
    Diff.password_congr agree]

/-- There is an action for an application unless its latest version or its spec lists a port
twice. -/
theorem exists_applicationAction_iff : (∃ a, applicationAction live ledger w = .ok a) ↔
    ∀ l, live.application? w.name = some l → ∀ v, l.latestVersion = some v →
      (v.exposedPorts.map (·.targetPort)).Nodup ∧
      (w.spec.exposedPorts.map (·.targetPort)).Nodup := by
  unfold applicationAction
  cases live.application? w.name with
  | none => simp
  | some l =>
    cases hv : l.latestVersion with
    | none => simp [hv]
    | some v =>
      have compared : (∃ changes, Diff.application w.name v w.spec ledger = .ok changes) ↔ _ :=
        Diff.exists_application_iff
      simp only [hv, Option.some.injEq, forall_eq', ← compared]
      rcases Diff.application w.name v w.spec ledger with f | changes
      · cases f <;> simp
      · simp

end Planner

/-! ## 3. The whole plan -/

open Planner

/-- What a plan owes to the configuration, the snapshot and the ledger that it is made from. -/
structure Plan.MadeFrom (p : Plan) (desired : ClusterConfig) (live : LiveState)
    (ledger : SecretLedger) : Prop where
  cluster : p.cluster = live.cluster
  clusterAction : p.clusterAction = Planner.clusterAction desired live
  groupActions : p.groupActions = Planner.groupActions desired live
  balancerActions : p.balancerActions = Planner.balancerActions desired live p.groupActions
  applicationActions :
    List.Forall₂ (ApplicationPlanned live ledger) desired.applications p.applicationActions

/-- A plan has the actions for the configured applications in their order. -/
theorem Plan.applicationActions_of_plan {p : Plan} {desired : ClusterConfig} {live : LiveState}
    {ledger : SecretLedger} {now : Timestamp} (h : plan desired live ledger now = .ok p) :
    List.Forall₂ (fun w a => applicationAction live ledger w = .ok a) desired.applications
      p.applicationActions := by
  unfold Converge.plan at h
  dsimp only at h
  cases ha : Planner.applicationActions desired live ledger with
  | error f => rw [ha] at h; nomatch h
  | ok as =>
    rw [ha] at h
    obtain rfl := Except.ok.inj h
    exact forall₂_of_mapM_ok ha

/-- A plan is made when there is an action for each configured application. -/
theorem exists_plan_iff {desired : ClusterConfig} {live : LiveState} {ledger : SecretLedger}
    {now : Timestamp} : (∃ p, plan desired live ledger now = .ok p) ↔
      ∀ w ∈ desired.applications, ∃ a, applicationAction live ledger w = .ok a := by
  constructor
  · rintro ⟨p, h⟩ w hw
    obtain ⟨a, -, ha⟩ := exists_right_of_forall₂ (Plan.applicationActions_of_plan h) w hw
    exact ⟨a, ha⟩
  · intro h
    obtain ⟨as, ha⟩ := mapM_ok_of_forall h
    have ha : Planner.applicationActions desired live ledger = .ok as := ha
    exact ⟨_, by rw [Converge.plan, ha]⟩

theorem Plan.madeFrom {p : Plan} {desired : ClusterConfig} {live : LiveState}
    {ledger : SecretLedger} {now : Timestamp} (h : plan desired live ledger now = .ok p) :
    p.MadeFrom desired live ledger := by
  have applications := applicationActions_of_plan h
  unfold Converge.plan at h
  dsimp only at h
  split at h
  · nomatch h
  · obtain rfl := Except.ok.inj h
    exact ⟨rfl, rfl, rfl, rfl, applications.imp fun _ _ => applicationPlanned⟩

/-- Which actions a plan has for each kind of resource. -/
structure Plan.Kinds (p : Plan) : Prop where
  settings : p.clusterAction.action ∈ [.update, .noop]
  groups : ∀ a ∈ p.groupActions, a.action ∈ [.create, .recreate, .noop, .skip]
  balancers : ∀ a ∈ p.balancerActions, a.action ∈ [.create, .recreate, .noop, .skip]
  applications : ∀ a ∈ p.applicationActions, a.action ∈ [.create, .update, .noop]

namespace Plan.MadeFrom

variable {p : Plan} {desired : ClusterConfig} {live : LiveState} {ledger : SecretLedger}

/-- The settings are updated only where some are configured. -/
theorem settings (h : p.MadeFrom desired live ledger) (hu : p.clusterAction.action = .update) :
    desired.cluster ≠ none := by
  intro hn
  rw [h.clusterAction, Planner.clusterAction, hn] at hu
  nomatch hu

theorem application (h : p.MadeFrom desired live ledger) {a : ApplicationAction}
    (ha : a ∈ p.applicationActions) :
    ∃ w ∈ desired.applications, ApplicationPlanned live ledger w a :=
  exists_left_of_forall₂ h.applicationActions a ha

/-- **The actions that the planner has for each kind of resource.**  Nothing is deleted for good, no
infrastructure is updated in place, and no application is recreated or passed over. -/
theorem kinds (h : p.MadeFrom desired live ledger) : p.Kinds := by
  have infrastructure : ∀ t : ActionType, (t ≠ .skip → t ∈ [.create, .recreate, .noop]) →
      t ∈ [.create, .recreate, .noop, .skip] := by
    intro t ht
    cases t <;> simp_all
  refine ⟨?_, fun a ha => ?_, fun a ha => ?_, fun a ha => ?_⟩
  · rw [h.clusterAction, Planner.clusterAction]
    split
    · simp [ClusterAction.noop]
    · dsimp only
      split <;> simp [ClusterAction.noop]
  · rw [h.groupActions] at ha
    refine infrastructure _ fun hs => ?_
    obtain ⟨w, -, planned⟩ := mem_groupActions ha hs
    cases planned <;> simp
  · rw [h.balancerActions] at ha
    refine infrastructure _ fun hs => ?_
    obtain ⟨w, -, planned⟩ := mem_balancerActions ha hs
    cases planned <;> simp
  · obtain ⟨w, -, planned⟩ := h.application ha
    cases planned <;> simp

end Plan.MadeFrom

end Converge
