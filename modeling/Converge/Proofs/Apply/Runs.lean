import Converge.Proofs.Apply.Steps
/-!
# What an apply can do

From what one step can do follows what a whole apply can do: `ApplyContext.ActsAll` takes the
steps of a script until one fails, and `Saves` saves the ledger if it changed.

Main statement: `execute_cases`.
-/

namespace Converge

open Execution

namespace ApplyContext

/-- Everything that steps can live through and come to, taken until one fails. -/
inductive ActsAll (c : ApplyContext) : List ApplyStep → Progress → List Event →
    Option (Except Failure Unit × Progress) → Prop where
  | nil {p} : ActsAll c [] p [] (some (.ok (), p))
  | cons {s rest p q as bs out} (h : c.Acts s p as (some (.ok (), q)))
      (hr : ActsAll c rest q bs out) : ActsAll c (s :: rest) p (as ++ bs) out
  | stopped {s rest p q es f} (h : c.Acts s p es (some (.error f, q))) :
      ActsAll c (s :: rest) p es
        (some (.error (.stage s.stage (s.resource c.cluster.name) f), q))
  | unfinished {s rest p es} (h : c.Acts s p es none) : ActsAll c (s :: rest) p es none

variable {c : ApplyContext}

theorem actsAll_of_course : ∀ {l : List ApplyStep} {p : Progress} {es : List Event}
    {out : Option (Except Failure Unit × Progress)},
    Execution.Course (c.takeAll l) p es out → c.ActsAll l p es out
  | [], p, es, out, h => by
    obtain ⟨rfl, rfl⟩ := Execution.course_pure.1 h
    exact .nil
  | s :: rest, p, es, out, h => by
    rcases Execution.course_bind.1 h with ⟨as, bs, u, q, rfl, hs, hr⟩ | ⟨g, q, hs, rfl⟩ |
      ⟨hs, rfl⟩
    · obtain ⟨_ | ⟨_ | _, q'⟩, ho, hq⟩ := course_inStage.1 hs <;> cases hq
      exact .cons (acts_of_course ho) (actsAll_of_course hr)
    · obtain ⟨_ | ⟨_ | _, q'⟩, ho, hq⟩ := course_inStage.1 hs <;> cases hq
      exact .stopped (acts_of_course ho)
    · obtain ⟨_ | ⟨_ | _, q'⟩, ho, hq⟩ := course_inStage.1 hs <;> cases hq
      exact .unfinished (acts_of_course ho)

/-- Steps that are taken without a failure are taken in two parts. -/
theorem ActsAll.append_ok : ∀ {l m : List ApplyStep} {p q : Progress} {es : List Event}
    {u : Unit}, c.ActsAll (l ++ m) p es (some (.ok u, q)) →
    ∃ as bs r, es = as ++ bs ∧ c.ActsAll l p as (some (.ok (), r)) ∧
      c.ActsAll m r bs (some (.ok (), q))
  | [], m, p, q, es, u, h => ⟨[], es, p, rfl, .nil, h⟩
  | s :: rest, m, p, q, es, u, h => by
    cases h with
    | @cons _ _ _ r as bs _ hs hr =>
      obtain ⟨cs, ds, r', rfl, hl, hm⟩ := hr.append_ok
      exact ⟨as ++ cs, ds, r', (List.append_assoc ..).symm, .cons hs hl, hm⟩

end ApplyContext

/-- How the ledger is saved, if it changed. -/
inductive Saves (p : Progress) : List Event → Except Failure Unit → Prop where
  | unchanged (h : p.result.ledgerModified = false) : Saves p [] (.ok ())
  | changed (h : p.result.ledgerModified = true) (reply : Except Failure Unit) :
      Saves p [.saved p.ledger reply] reply

theorem saves_of_course {p : Progress} {es : List Event}
    {out : Option (Except Failure (Except Failure Unit))} (h : (saveChanged p).Course es out) :
    ∃ reply, Saves p es reply ∧ out = some (.ok reply) := by
  unfold saveChanged at h
  split at h
  next hm =>
    obtain ⟨_, h⟩ := (Session.course_ask_bind fun _ => rfl).1 h
    have h := Session.course_log_bind.1 h
    obtain ⟨o, ho, rfl⟩ := Session.course_outcome.1 h
    obtain ⟨reply, rfl, rfl⟩ := Session.course_saveLedger.1 ho
    exact ⟨reply, .changed hm reply, rfl⟩
  next hm =>
    obtain ⟨rfl, rfl⟩ := Session.course_pure.1 h
    exact ⟨_, .unchanged (by simpa using hm), rfl⟩

/-- What an apply comes to when its steps have come to `r` and saving to `saved`. -/
def concluded (r saved : Except Failure Unit) (p : Progress) : Except Failure ExecutionResult :=
  match r, saved with
  | .error f, _ => .error f
  | .ok (), .error f => .error f
  | .ok (), .ok () => .ok p.result

/-- What an apply depends on. -/
def Plan.context (plan : Plan) (options : ApplyOptions) (desired : ClusterConfig) : ApplyContext :=
  ⟨options, desired, plan.cluster⟩

/-- Whether a plan has an action for a step. -/
def Plan.Orders (p : Plan) : ApplyStep → Prop
  | .updateSettings => p.clusterAction.action = .update
  | .deleteBalancer a => a ∈ p.balancerActions ∧ a.action.deletes
  | .deleteGroup a => a ∈ p.groupActions ∧ a.action.deletes
  | .createGroup a => a ∈ p.groupActions ∧ a.action.creates
  | .createBalancer a => a ∈ p.balancerActions ∧ a.action.creates
  | .application a => a ∈ p.applicationActions ∧ a.action.writesVersion

/-- The steps of a script are those that the plan has an action for. -/
theorem Plan.mem_script_iff {p : Plan} {s : ApplyStep} : s ∈ p.script ↔ p.Orders s := by
  have settings : s ∈ (if p.clusterAction.action = .update then [.updateSettings] else []) ↔
      p.clusterAction.action = .update ∧ s = .updateSettings := by
    split <;> simp [*]
  simp only [Plan.script, List.mem_append, settings, List.mem_map, List.mem_filter]
  cases s <;> simp [Plan.Orders]

theorem Plan.hasChanges_iff {p : Plan} : p.hasChanges ↔ p.clusterAction.action.isChange ∨
    (∃ a ∈ p.groupActions, a.action.isChange) ∨ (∃ a ∈ p.balancerActions, a.action.isChange) ∨
    ∃ a ∈ p.applicationActions, a.action.isChange := by
  simp [hasChanges, actions]

theorem ActionType.isChange_of_deletes {t : ActionType} (h : t.deletes) : t.isChange := by
  cases t <;> trivial

theorem ActionType.isChange_of_creates {t : ActionType} (h : t.creates) : t.isChange := by
  cases t <;> trivial

theorem ActionType.isChange_of_writesVersion {t : ActionType} (h : t.writesVersion) :
    t.isChange := by
  cases t <;> trivial

/-- A plan with a step changes something. -/
theorem Plan.hasChanges_of_mem_script {p : Plan} {s : ApplyStep} (h : s ∈ p.script) :
    p.hasChanges := by
  have ordered := mem_script_iff.1 h
  rw [hasChanges_iff]
  cases s with
  | updateSettings => exact .inl (ordered.symm ▸ rfl)
  | deleteBalancer a =>
    exact .inr (.inr (.inl ⟨a, ordered.1, ActionType.isChange_of_deletes ordered.2⟩))
  | deleteGroup a => exact .inr (.inl ⟨a, ordered.1, ActionType.isChange_of_deletes ordered.2⟩)
  | createGroup a => exact .inr (.inl ⟨a, ordered.1, ActionType.isChange_of_creates ordered.2⟩)
  | createBalancer a =>
    exact .inr (.inr (.inl ⟨a, ordered.1, ActionType.isChange_of_creates ordered.2⟩))
  | application a =>
    exact .inr (.inr (.inr ⟨a, ordered.1, ActionType.isChange_of_writesVersion ordered.2⟩))

/-- The progress of an apply that has done nothing yet. -/
def Progress.start (ledger : SecretLedger) : Progress := ⟨.nothing, ledger, []⟩

/-- What an apply does after its steps. -/
def finish (stages : Except Failure Unit × Progress) : Session ExecutionResult := do
  match stages.1 with
  | .ok () =>
    match ← saveChanged stages.2 with
    | .ok () =>
      Session.info "Apply complete"
      pure stages.2.result
    | .error f => throw f
  | .error f =>
    Session.error ("Apply stopped: " ++ f.message)
    match ← saveChanged stages.2 with
    | .ok () => throw f
    | .error saving =>
      Session.error ("Failed to save ledger after apply failure: " ++ saving.message)
      throw f

/-- **After its steps an apply saves**, whatever they have come to. -/
theorem saves_of_finish {r : Except Failure Unit} {p : Progress} {es : List Event}
    {out : Option (Except Failure ExecutionResult)} (h : (finish (r, p)).Course es out) :
    ∃ saved, Saves p es saved ∧ out = some (concluded r saved p) := by
  -- Saving comes to a reply, which decides what is said; nothing else happens.
  have saving : ∀ {f : Except Failure Unit → Session ExecutionResult},
      (saveChanged p >>= f).Course es out →
      ∃ as bs saved, es = as ++ bs ∧ Saves p as saved ∧ (f saved).Course bs out := by
    intro f h
    rcases Session.course_bind.1 h with ⟨as, bs, saved, rfl, hs, h⟩ | ⟨g, hs, -⟩ | ⟨hs, -⟩
    · obtain ⟨reply, hs, hr⟩ := saves_of_course hs
      obtain rfl := Except.ok.inj (Option.some.inj hr)
      exact ⟨as, bs, saved, rfl, hs, h⟩
    · obtain ⟨_, -, hr⟩ := saves_of_course hs
      nomatch hr
    · obtain ⟨_, -, hr⟩ := saves_of_course hs
      nomatch hr
  cases r with
  | ok u =>
    obtain ⟨as, bs, saved, rfl, hs, h⟩ := saving h
    cases saved with
    | ok v =>
      obtain ⟨rfl, rfl⟩ := Session.course_log_pure.1 h
      exact ⟨.ok v, by rwa [List.append_nil], rfl⟩
    | error f =>
      obtain ⟨rfl, rfl⟩ := Session.course_throw.1 h
      exact ⟨.error f, by rwa [List.append_nil], rfl⟩
  | error f =>
    obtain ⟨as, bs, saved, rfl, hs, h⟩ := saving (Session.course_log_bind.1 h)
    cases saved with
    | ok v =>
      obtain ⟨rfl, rfl⟩ := Session.course_throw.1 h
      exact ⟨.ok v, by rwa [List.append_nil], rfl⟩
    | error e =>
      obtain ⟨rfl, rfl⟩ := Session.course_throw.1 (Session.course_log_bind.1 h)
      exact ⟨.error e, by rwa [List.append_nil], rfl⟩

/-- The steps of an apply, with the failure that stops them and the progress up to there. -/
def Plan.steps (plan : Plan) (options : ApplyOptions) (desired : ClusterConfig)
    (ledger : SecretLedger) : Program Session.interface (Except Failure Unit × Progress) :=
  ((plan.context options desired).takeAll plan.script).run.run (.start ledger)

/-- Said before the first step. -/
def Plan.announcement (plan : Plan) : String :=
  "Applying plan for cluster " ++ plan.cluster.name ++ " (" ++ toString plan.changeCount
    ++ " changes)"

/-- An apply says what it is about to do, takes its steps and then saves. -/
theorem execute_eq (options : ApplyOptions) (desired : ClusterConfig) (plan : Plan)
    (ledger : SecretLedger) : execute options desired plan ledger =
      (do
        Session.info plan.announcement
        let stages ← ExceptT.lift (plan.steps options desired ledger)
        finish stages) := by
  unfold execute finish
  rfl

/-- **An apply takes the steps of the script and then saves**, whatever the steps have come to;
only when a step is unfinished it does not get to saving. -/
theorem execute_cases {options : ApplyOptions} {desired : ClusterConfig} {plan : Plan}
    {ledger : SecretLedger} {es : List Event} {out : Option (Except Failure ExecutionResult)}
    (h : (execute options desired plan ledger).Course es out) :
    ((plan.context options desired).ActsAll plan.script (.start ledger) es none ∧ out = none) ∨
    ∃ as bs r p saved, es = as ++ bs ∧
      (plan.context options desired).ActsAll plan.script (.start ledger) as (some (r, p)) ∧
      Saves p bs saved ∧ out = some (concluded r saved p) := by
  rw [execute_eq] at h
  rcases Session.course_bind.1 (Session.course_log_bind.1 h) with
    ⟨as, bs, ⟨r, p⟩, rfl, ht, h⟩ | ⟨g, ht, rfl⟩ | ⟨ht, rfl⟩
  · obtain ⟨_ | o, ht, ho⟩ := Session.course_lift.1 ht <;> cases ho
    obtain ⟨saved, hs, rfl⟩ := saves_of_finish h
    exact .inr ⟨as, bs, r, p, saved, rfl, ApplyContext.actsAll_of_course ht, hs, rfl⟩
  · obtain ⟨_ | o, -, ho⟩ := Session.course_lift.1 ht <;> nomatch ho
  · obtain ⟨_ | o, ht, ho⟩ := Session.course_lift.1 ht <;> cases ho
    exact .inl ⟨ApplyContext.actsAll_of_course ht, rfl⟩

end Converge
