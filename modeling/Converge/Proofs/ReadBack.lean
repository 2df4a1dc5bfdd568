import Converge.Proofs.Apply.Asked
import Converge.Proofs.Apply.Saving
import Converge.Proofs.Cluster.Redacted
import Converge.Reconcile
/-!
# Secrets that are read back go nowhere

Two control planes that answer alike, except that the versions they show may have other values of
secret variables, cannot be told apart by what is done with them: writing down the cluster,
comparing two versions, planning, and applying any plan come to the same with both, and ask both the
same questions.  The questions are everything that goes out: the requests with their bodies, the
ledger that is stored, and the lines of the log.

Only `getVersion` shows an environment, so only the sessions that send this request have something
to show; of the others it is enough that they do not send it.

Main statement: `secrets_read_back_unused`.
-/

namespace Converge

/-! ## 1. Replies that differ in secrets -/

/-- A reply, without the values of secret variables. -/
def Question.redact : (q : Question) → q.Reply → q.Reply
  | .call (.getVersion _ _), reply => reply.map (·.redacted)
  | _, reply => reply

/-- Whether two replies differ at most in the values of secret variables. -/
def Question.SameButSecrets (q : Question) (reply reply' : q.Reply) : Prop :=
  q.redact reply = q.redact reply'

/-- Whether the replies to a question show no environment. -/
def Question.plain : Question → Bool
  | .call (.getVersion _ _) => false
  | _ => true

theorem Question.redact_of_plain {q : Question} (h : q.plain) (reply : q.Reply) :
    q.redact reply = reply := by
  cases q with
  | call c =>
    cases c with
    | getVersion _ _ => nomatch h
    | _ => rfl
  | _ => rfl

/-- Replies to such a question do not differ. -/
theorem Question.eq_of_plain (q : Question) (h : q.plain) (reply reply' : q.Reply)
    (same : q.SameButSecrets reply reply') : reply = reply' := by
  rwa [SameButSecrets, redact_of_plain h, redact_of_plain h] at same

theorem Question.plain_of_lists (q : Question) (h : q.lists) : q.plain := by
  cases q with
  | call c =>
    cases c with
    | getVersion _ _ => nomatch h
    | _ => rfl
  | _ => rfl

theorem Question.plain_of_unversioned (q : Question) (h : q.unversioned) : q.plain := by
  cases q with
  | call c =>
    cases c with
    | getVersion _ _ => nomatch h
    | _ => rfl
  | _ => rfl

theorem Question.plain_of_concludes (q : Question) (h : q.concludes) : q.plain := by
  cases q with
  | call c => nomatch h
  | _ => rfl

/-- Whether a session makes nothing of the values of secret variables. -/
abbrev Session.SecretBlind (R : α → β → Prop) (s : Session α) (t : Session β) : Prop :=
  Session.Alike Question.SameButSecrets R s t

/-- Whether a part of an apply makes nothing of the values of secret variables. -/
abbrev Execution.SecretBlind (R : α → β → Prop) (e : Execution α) (f : Execution β) : Prop :=
  Execution.Alike Question.SameButSecrets R e f

theorem Session.blind_of_plain {s : Session α} (h : s.Asks fun q => q.plain) :
    s.SecretBlind Eq s :=
  Session.alike_self Question.eq_of_plain h

theorem Session.blind_of_lists {s : Session α} (h : s.Asks fun q => q.lists) :
    s.SecretBlind Eq s :=
  blind_of_plain (h.mono Question.plain_of_lists)

theorem Session.blind_log (level : Level) (text : String) :
    (Session.log level text).SecretBlind Eq (Session.log level text) :=
  blind_of_plain (asks_log rfl)

theorem Session.blind_call {c : Call} (h : (Question.call c).plain) :
    (Session.call c).SecretBlind Eq (Session.call c) :=
  blind_of_plain (asks_call h)

/-- A version that is read shows the same but for secrets. -/
theorem Session.blind_getVersion (application : Uuid) (version : Int32) :
    (Session.call (.getVersion application version)).SecretBlind
      (fun v w => v.redacted = w.redacted) (Session.call (.getVersion application version)) := by
  refine Session.alike_call fun reply reply' same => ?_
  have same : reply.map (·.redacted) = reply'.map (·.redacted) := same
  cases reply with
  | error f =>
    cases reply' with
    | error g =>
      obtain rfl := Except.error.inj same
      exact .error f
    | ok w => nomatch same
  | ok v =>
    cases reply' with
    | error g => nomatch same
    | ok w => exact .ok (Except.ok.inj same)

/-! ## 2. Looking at a cluster -/

variable {limit : Nat}

namespace Observe

theorem blind_latestVersion (application : Uuid) :
    (latestVersion limit application).SecretBlind
      (fun b b' => b.map (·.redacted) = b'.map (·.redacted)) (latestVersion limit application) := by
  refine Session.alike_bind_eq (Session.blind_of_lists (lists_listVersions application)) fun _ => ?_
  split
  · refine Session.alike_bind (Session.blind_getVersion _ _) fun v w h => ?_
    exact Session.alike_pure (congrArg some h)
  · exact Session.alike_pure rfl

theorem blind_withLatest (applications : List Application) :
    (withLatest limit applications).SecretBlind
      (fun l m => l.map (·.redacted) = m.map (·.redacted)) (withLatest limit applications) := by
  have each : (withLatest limit applications).SecretBlind
      (List.Forall₂ fun l m => l.redacted = m.redacted) (withLatest limit applications) := by
    refine Session.alike_mapM (R := Eq) ?_ (List.forall₂_refl applications)
    rintro a _ rfl
    refine Session.alike_bind (blind_latestVersion a.id) fun b b' h => Session.alike_pure ?_
    rw [LiveApplication.redacted, LiveApplication.redacted, h]
  exact each.mono fun l m h => map_eq_of_forall₂ h fun _ _ => id

theorem blind_cluster (name : String) : (Observe.cluster limit name).SecretBlind
    (fun live live' => live.redacted = live'.redacted) (Observe.cluster limit name) := by
  refine Session.alike_bind_eq (Session.blind_log _ _) fun _ => ?_
  refine Session.alike_bind_eq (Session.blind_of_lists (lists_resolveCluster name)) fun i => ?_
  refine Session.alike_bind_eq (Session.blind_call rfl) fun detail => ?_
  refine Session.alike_bind_eq (Session.blind_of_lists (lists_listGroups i.id)) fun groups => ?_
  refine Session.alike_bind_eq
    (Session.blind_of_lists (lists_balancersByGroup i.id groups)) fun balancers => ?_
  refine Session.alike_bind_eq (Session.blind_of_lists (lists_listApplications i.id)) fun as => ?_
  refine Session.alike_bind (blind_withLatest as) fun l m h => ?_
  -- the line of the log says how many applications there are
  have length : l.length = m.length := by simpa using congrArg List.length h
  dsimp only
  rw [length]
  refine Session.alike_bind_eq (Session.blind_log _ _) fun _ => Session.alike_pure ?_
  rw [LiveState.redacted, LiveState.redacted, h]

end Observe

namespace Dump

theorem blind_application (a : Application) :
    (application limit a).SecretBlind Eq (application limit a) := by
  refine Session.alike_bind (Session.alike_outcome (Observe.blind_latestVersion a.id))
    fun r r' hr => ?_
  cases hr with
  | error f => exact Session.alike_bind_eq (Session.blind_log _ _) fun _ => Session.alike_pure rfl
  | @ok b b' h =>
    cases b with
    | none =>
      obtain rfl : b' = none := Option.map_eq_none_iff.1 h.symm
      exact Session.alike_bind_eq (Session.blind_log _ _) fun _ => Session.alike_pure rfl
    | some v =>
      obtain ⟨w, rfl, hw⟩ := Option.map_eq_some_iff.1 h.symm
      refine Session.alike_pure ?_
      rw [← v.spec_redacted, ← w.spec_redacted, hw]

/-- **What is written down of a cluster** has no secrets in it. -/
theorem blind_cluster (name : String) :
    (Dump.cluster limit name).SecretBlind Eq (Dump.cluster limit name) := by
  refine Session.alike_bind_eq (Session.blind_log _ _) fun _ => ?_
  refine Session.alike_bind_eq
    (Session.blind_of_lists (Observe.lists_resolveCluster name)) fun i => ?_
  refine Session.alike_bind_eq (Session.blind_call rfl) fun detail => ?_
  refine Session.alike_bind_eq
    (Session.blind_of_lists (Observe.lists_listGroups i.id)) fun groups => ?_
  refine Session.alike_bind_eq
    (Session.blind_of_lists (lists_balancers i.id groups)) fun balancers => ?_
  refine Session.alike_bind_eq
    (Session.blind_of_lists (Observe.lists_listApplications i.id)) fun as => ?_
  refine Session.alike_bind (R := List.Forall₂ Eq) ?_ fun l m h => ?_
  · refine Session.alike_mapM (R := Eq) ?_ (List.forall₂_refl as)
    rintro a _ rfl
    exact blind_application a
  · rw [List.forall₂_eq_eq_eq] at h
    exact Session.alike_pure (by rw [h])

end Dump

namespace Versions

theorem blind_fetch (a : Application) (numbers : List Int32) (version : Int32) :
    (fetch a numbers version).SecretBlind (fun v w => v.redacted = w.redacted)
      (fetch a numbers version) := by
  unfold fetch
  split
  · exact Session.blind_getVersion _ _
  · exact Session.alike_throw _

theorem blind_found (a : Option α) (missing : ResolveError) :
    (found a missing).SecretBlind Eq (found a missing) := by
  cases a with
  | none => exact Session.alike_throw _
  | some a => exact Session.alike_pure rfl

/-- **What is said about two versions** has no secrets in it. -/
theorem blind_diff (cluster application : String) (older newer : Option Int32) :
    (diff limit cluster application older newer).SecretBlind Eq
      (diff limit cluster application older newer) := by
  refine Session.alike_bind_eq
    (Session.blind_of_lists (lists_resolve cluster application)) fun a => ?_
  refine Session.alike_bind_eq
    (Session.blind_of_lists (Observe.lists_listVersions a.id)) fun summaries => ?_
  refine Session.alike_bind_eq (blind_found _ _) fun older => ?_
  refine Session.alike_bind_eq (blind_found _ _) fun newer => ?_
  refine Session.alike_bind (blind_fetch a _ older) fun before before' hb => ?_
  refine Session.alike_bind (blind_fetch a _ newer) fun after after' ha => ?_
  rw [← difference_redacted, hb, ha, difference_redacted]
  exact .done (outcomes_of_eq rfl)

end Versions

/-! ## 3. Planning -/

/-- **What is planned, and what is said meanwhile**, has no secrets in it. -/
theorem Reconcile.blind_plan (desired : ClusterConfig) :
    (Reconcile.plan limit desired).SecretBlind Eq (Reconcile.plan limit desired) := by
  refine Session.alike_bind_eq (Session.blind_of_plain ⟨rfl, fun _ => trivial⟩) fun ledger => ?_
  refine Session.alike_bind (Observe.blind_cluster desired.clusterName) fun live live' h => ?_
  -- what follows uses the snapshot in three places, and in none of them its secrets
  have cluster : live.redacted.cluster = live'.redacted.cluster := congrArg LiveState.cluster h
  have cluster : live.cluster = live'.cluster := cluster
  have notices : Planner.notices desired live ledger = Planner.notices desired live' ledger := by
    rw [← Planner.notices_redacted, h, Planner.notices_redacted]
  have plans (now : Timestamp) :
      Converge.plan desired live ledger now = Converge.plan desired live' ledger now := by
    rw [← plan_redacted, h, plan_redacted]
  simp only [cluster, notices, plans]
  refine Session.blind_of_plain ?_
  refine Session.asks_bind (Session.asks_log rfl) fun _ => ?_
  refine Session.asks_bind (Session.asks_ask rfl) fun now => ?_
  refine Session.asks_bind (Session.asks_forM (fun text => ?_) _) fun _ => ?_
  · exact Session.asks_log rfl
  · refine Session.asks_bind trivial fun plan => ?_
    exact Session.asks_bind (Session.asks_log rfl) fun _ => Session.asks_pure _

/-! ## 4. Applying -/

namespace ApplyContext

variable (c : ApplyContext)

/-- A part of an apply that does not look at versions. -/
theorem blind_of_unversioned {e : Execution α} (h : e.Asks fun q => q.unversioned) :
    e.SecretBlind Eq e :=
  Execution.alike_self Question.eq_of_plain (h.mono Question.plain_of_unversioned)

/-- The version that a new one is laid over is known but for its secrets. -/
theorem blind_target (a : ApplicationAction) : (c.target a).SecretBlind
    (fun t t' => t.1 = t'.1 ∧ t.2.map (·.redacted) = t'.2.map (·.redacted)) (c.target a) := by
  by_cases h : a.action = .create
  · refine (blind_of_unversioned (c.asks_create a h)).mono ?_
    rintro t _ rfl
    exact ⟨rfl, rfl⟩
  · rw [target, if_neg h]
    refine Execution.alike_bind_eq (Execution.alike_need _ _) fun id => ?_
    refine Execution.alike_bind (Execution.alike_session (Observe.blind_latestVersion id))
      fun b b' h => ?_
    exact Execution.alike_pure ⟨rfl, h⟩

theorem blind_application (a : ApplicationAction) :
    (c.application a).SecretBlind Eq (c.application a) := by
  rw [application_eq]
  refine Execution.alike_bind_eq (Execution.alike_need _ _) fun config => ?_
  refine Execution.alike_bind (c.blind_target a) ?_
  rintro ⟨id, base⟩ ⟨_, base'⟩ ⟨rfl, h⟩
  -- from here on the version before is only used for the request
  have sent : config.spec.request base = config.spec.request base' := by
    have h : base.map (·.redacted) = base'.map (·.redacted) := h
    rw [← config.spec.request_redacted base, h, config.spec.request_redacted]
  have delivered : c.deliver a config.spec (id, base) = c.deliver a config.spec (id, base') := by
    rw [deliver, deliver, sent]
  rw [delivered]
  exact blind_of_unversioned (c.asks_deliver a config.spec (id, base'))

/-- What a step does does not depend on secrets. -/
theorem blind_act (s : ApplyStep) : (c.act s).SecretBlind Eq (c.act s) := by
  cases s with
  | application a => exact c.blind_application a
  | _ => exact blind_of_unversioned (c.asks_act fun _ => nofun)

theorem blind_takeAll : ∀ steps : List ApplyStep,
    (c.takeAll steps).SecretBlind Eq (c.takeAll steps)
  | [] => Execution.alike_pure rfl
  | s :: rest => by
    refine Execution.alike_bind_eq ?_ fun _ => blind_takeAll rest
    exact Execution.alike_inStage _ _ (c.blind_act s)

end ApplyContext

/-- **What an apply sends and stores** has no secrets in it that were read back. -/
theorem Reconcile.blind_apply (options : ApplyOptions) (desired : ClusterConfig) (plan : Plan) :
    (Reconcile.apply options desired plan).SecretBlind Eq
      (Reconcile.apply options desired plan) := by
  refine Session.alike_bind_eq (Session.blind_of_plain ⟨rfl, fun _ => trivial⟩) fun ledger => ?_
  have steps := (plan.context options desired).blind_takeAll plan.script (.start ledger)
  change Program.Alike (I := Session.interface) _ _ (execute options desired plan ledger).run
    (execute options desired plan ledger).run
  rw [execute_run]
  refine .ask fun _ _ _ => Program.Alike.bind steps ?_
  rintro ⟨r, p⟩ ⟨r', _⟩ ⟨hr, rfl⟩
  obtain rfl := eq_of_outcomes hr
  exact Session.blind_of_plain ((concludes_finish (r, p)).mono Question.plain_of_concludes)

/-! ## 5. Two control planes -/

/-- Whether an operation comes to the same with two handlers and asks them the same questions. -/
def Session.SameWith (answer : (q : Question) → σ → q.Reply × σ)
    (answer' : (q : Question) → τ → q.Reply × τ) (s : σ) (t : τ) (x : Session α) : Prop :=
  x.result answer s = x.result answer' t ∧
    Program.questions (I := Session.interface) answer x.run s =
      Program.questions (I := Session.interface) answer' x.run t

theorem Session.SecretBlind.sameWith {answer : (q : Question) → σ → q.Reply × σ}
    {answer' : (q : Question) → τ → q.Reply × τ} {s : σ} {t : τ} {x : Session α}
    (h : x.SecretBlind Eq x)
    (alike : Program.AnswersAlike (I := Session.interface) Question.SameButSecrets answer answer'
      s t) : x.SameWith answer answer' s t := by
  obtain ⟨results, asked⟩ := Program.Alike.run h alike
  refine ⟨?_, asked⟩
  change (Program.run (I := Session.interface) answer x.run s).1 =
    (Program.run (I := Session.interface) answer' x.run t).1
  generalize (Program.run (I := Session.interface) answer x.run s).1 = r at results
  generalize (Program.run (I := Session.interface) answer' x.run t).1 = r' at results
  cases results with
  | none => rfl
  | some h => rw [eq_of_outcomes h]

/-- **Secret values that are read back go nowhere.**  Where two control planes answer every question
alike, whatever they were asked before, except that versions may be shown with other values of
secret variables, then the configuration that is written down of a cluster, the comparison of two
versions, the plan for a configuration and the report of an apply are the same with both; and so is
everything that is asked meanwhile: each request with its body, the ledger that is stored, and each
line of the log. -/
theorem secrets_read_back_unused {answer : (q : Question) → σ → q.Reply × σ}
    {answer' : (q : Question) → τ → q.Reply × τ} {s : σ} {t : τ}
    (alike : Program.AnswersAlike (I := Session.interface) Question.SameButSecrets answer answer'
      s t) (limit : Nat) :
    (∀ name, (Dump.cluster limit name).SameWith answer answer' s t) ∧
    (∀ cluster application older newer,
      (Versions.diff limit cluster application older newer).SameWith answer answer' s t) ∧
    (∀ desired, (Reconcile.plan limit desired).SameWith answer answer' s t) ∧
    ∀ options desired plan,
      (Reconcile.apply options desired plan).SameWith answer answer' s t :=
  ⟨fun name => (Dump.blind_cluster name).sameWith alike,
    fun cluster application older newer =>
      (Versions.blind_diff cluster application older newer).sameWith alike,
    fun desired => (Reconcile.blind_plan desired).sameWith alike,
    fun options desired plan => (Reconcile.blind_apply options desired plan).sameWith alike⟩

namespace ReadBack

/-- A version with a secret. -/
def version (secret : String) : ApplicationVersion where
  version := 1
  cpu := 1000
  memory := 1024
  scalingMode := "manual"
  fixedScale := some 1
  minScale := none
  maxScale := none
  scaleInThreshold := none
  scaleOutThreshold := none
  image := "nginx"
  cmd := []
  registryUsername := none
  exposedPorts := []
  env := [⟨"MODE", some "fast", false⟩, ⟨"TOKEN", some secret, true⟩]

/-- A control plane with one application that has this version. -/
def replies (secret : String) : (c : Call) → Except Failure c.Reply
  | .listClusters _ => .ok ⟨[⟨.ofNat 1, "prod"⟩], none⟩
  | .getCluster _ => .ok ⟨.ofNat 1, "prod", "", false⟩
  | .listGroups _ _ => .ok ⟨[], none⟩
  | .listApplications _ _ => .ok ⟨[⟨.ofNat 2, "web", .ofNat 1, some 1⟩], none⟩
  | .listVersions _ _ => .ok ⟨[⟨1, "nginx", 0, 1⟩], none⟩
  | .getVersion _ _ => .ok (version secret)
  | .createVersion _ _ => .ok 2
  | _ => .error (.notFound "resource")

def answer (secret : String) : (q : Question) → Unit → q.Reply × Unit :=
  Question.answerBy (replies secret)

/-- The application with a plain variable more and the secret marked as new. -/
def desired : ClusterConfig where
  clusterName := "prod"
  cluster := none
  groups := []
  balancers := []
  applications := [⟨"web", { (version "").spec with
    env := [⟨"MODE", some "slow", false, none⟩, ⟨"TOKEN", some "z", true, some 1⟩] }⟩]

def plan : Plan where
  cluster := ⟨"prod", .ofNat 1⟩
  clusterAction := .noop
  groupActions := []
  balancerActions := []
  applicationActions := [⟨"web", .update, some (.ofNat 2),
    ["Env update: MODE=fast -> slow", "Env update: TOKEN (secret, version: new -> 1)"]⟩]
  warnings := []
  createdAt := .epoch

/-- The two control planes show different secrets, and still come to the same plan and the same
apply. -/
theorem same_with_both_secrets :
    (answer "x" (.call (.getVersion (.ofNat 2) 1)) ()).1 ≠
      (answer "y" (.call (.getVersion (.ofNat 2) 1)) ()).1 ∧
    (Reconcile.plan 2 desired).result (answer "x") () = some (.ok plan) ∧
    (Dump.cluster 2 "prod").SameWith (answer "x") (answer "y") () () ∧
    (Versions.diff 2 "prod" "web" none none).SameWith (answer "x") (answer "y") () () ∧
    (Reconcile.plan 2 desired).SameWith (answer "x") (answer "y") () () ∧
    (Reconcile.apply ⟨⟨0, 0⟩, false, 2⟩ desired plan).SameWith (answer "x") (answer "y") () () := by
  have alike : Program.AnswersAlike (I := Session.interface) Question.SameButSecrets (answer "x")
      (answer "y") () () := by
    intro ops q
    cases q with
    | call c => cases c <;> rfl
    | _ => rfl
  obtain ⟨dumped, compared, planned, applied⟩ := secrets_read_back_unused alike 2
  exact ⟨by decide +kernel, by decide +kernel, dumped "prod", compared "prod" "web" none none,
    planned desired, applied ⟨⟨0, 0⟩, false, 2⟩ desired plan⟩

end ReadBack

end Converge
