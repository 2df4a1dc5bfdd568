import Converge.Proofs.Alike
import Converge.Proofs.Ledger.Rounds
/-!
# The ledger is saved exactly when it changed

While an apply takes its steps, a mark says whether recording a version has ever changed the
ledger; at the end the ledger is saved if it is marked.  The mark is put together from what each
write of each recording says, and nowhere are two ledgers compared.  That the mark is exact rests
on two facts: a single recording says that it has changed something exactly when it has
(`SecretLedger.record_changed_iff`), and no later recording undoes what one has changed, because
an apply records one spec for each name, however often the plan lists it.

Main statements: `SecretLedger.changedBy_iff` and `ledger_saved_iff_changed`.
-/

namespace Converge

/-! ## 1. Recording several versions -/

namespace SecretLedger

/-- What is recorded of an application stays when the spec is recorded again and when other
applications are recorded. -/
theorem agree_recordAll {app : String} {spec : ApplicationSpec} :
    ∀ {ws : List (String × ApplicationSpec)} {l : SecretLedger},
      (∀ w ∈ ws, w.1 = app → w.2 = spec) → l.record app spec = (l, false) →
      Agree app (l.recordAll ws) l
  | [], _, _, _ => ⟨rfl, fun _ => rfl⟩
  | (name, s) :: ws, l, hws, hl => by
    obtain ⟨hhead, hrest⟩ := List.forall_mem_cons.1 hws
    have step : Agree app (l.record name s).1 l := by
      by_cases hn : name = app
      · obtain rfl := hn
        obtain rfl := hhead rfl
        rw [hl]
        exact ⟨rfl, fun _ => rfl⟩
      · exact l.agree_record_other name s (Ne.symm hn)
    -- The spec is recorded in the next ledger as well, so the induction goes on from there.
    have settled : (l.record name s).1.record app spec = ((l.record name s).1, false) := by
      refine record_of_agree ((agree_record_congr spec step).trans ?_)
      rw [hl]
      exact step.symm
    exact (agree_recordAll hrest settled).trans step

/-- **The mark is exact**: where one spec is recorded for each name, recording says somewhere that
it has changed something exactly when the ledger is another one in the end. -/
theorem changedBy_iff : ∀ {ws : List (String × ApplicationSpec)} {l : SecretLedger},
    (∀ w ∈ ws, ∀ v ∈ ws, v.1 = w.1 → v.2 = w.2) →
    (l.changedBy ws = true ↔ l.recordAll ws ≠ l)
  | [], l, _ => by simp [changedBy, recordAll]
  | w :: ws, l, one => by
    constructor
    · intro changed same
      have rest := changedBy_iff (l := (l.record w.1 w.2).1) fun v hv u hu =>
        one v (List.mem_cons_of_mem _ hv) u (List.mem_cons_of_mem _ hu)
      have later : (l.record w.1 w.2).1.recordAll ws = l := same
      cases hw : (l.record w.1 w.2).2 with
      | true =>
        -- What this recording has changed is still there in the end.
        have kept : Agree w.1 ((l.record w.1 w.2).1.recordAll ws) (l.record w.1 w.2).1 :=
          agree_recordAll (fun v hv => one w List.mem_cons_self v (List.mem_cons_of_mem _ hv))
            (l.record_record w.1 w.2)
        rw [later] at kept
        rw [record_of_agree kept.symm] at hw
        cases hw
      | false =>
        have unchanged := record_unchanged hw
        rw [changedBy, hw, Bool.false_or, unchanged] at changed
        rw [unchanged] at rest later
        exact rest.1 changed later
    · intro different
      cases hc : l.changedBy (w :: ws) with
      | true => rfl
      | false => exact absurd (recordAll_unchanged hc) different

end SecretLedger

/-- The spec that is written for a name is the configured one. -/
theorem spec_of_mem_writings {desired : ClusterConfig} {ms : List Mutation} {es : List Event}
    {w : String × ApplicationSpec} (h : w ∈ writings desired ms es) :
    (desired.application? w.1).map (·.spec) = some w.2 := by
  obtain ⟨⟨m, e⟩, -, hw⟩ := List.mem_filterMap.1 h
  have hw : writing? desired m e = some w := hw
  unfold writing? at hw
  split at hw
  · obtain ⟨a, ha, rfl⟩ := Option.map_eq_some_iff.1 hw
    rw [ha]
    rfl
  · nomatch hw

/-- The ledger is marked as changed after some steps exactly when it has changed. -/
theorem ApplyContext.ActsAll.marked_iff {c : ApplyContext} {steps : List ApplyStep}
    {ledger : SecretLedger} {es : List Event} {r : Except Failure Unit} {p : Progress}
    (h : c.ActsAll steps (.start ledger) es (some (r, p))) :
    p.result.ledgerModified = true ↔ p.ledger ≠ ledger := by
  have records := h.ledger
  rw [records.marked, records.ledger]
  refine (Bool.eq_iff_iff.1 (Bool.false_or _)).trans (SecretLedger.changedBy_iff ?_)
  intro w hw v hv same
  have hw := spec_of_mem_writings hw
  rw [← same, spec_of_mem_writings hv] at hw
  exact Option.some.inj hw

/-! ## 2. What is asked after the steps -/

/-- Whether a question is about the log or about storing the ledger. -/
def Question.concludes : Question → Bool
  | .saveLedger _ | .ledgerLocation | .log _ _ => true
  | _ => false

theorem concludes_saveChanged (p : Progress) : (saveChanged p).Asks fun q => q.concludes := by
  unfold saveChanged
  split
  · refine Session.asks_bind (Session.asks_ask rfl) fun location => ?_
    refine Session.asks_bind (Session.asks_log rfl) fun _ => ?_
    exact Session.asks_outcome ⟨rfl, fun _ => trivial⟩
  · exact Session.asks_pure _

/-- After its steps an apply only stores the ledger and says how it went. -/
theorem concludes_finish (stages : Except Failure Unit × Progress) :
    (finish stages).Asks fun q => q.concludes := by
  obtain ⟨f | u, p⟩ := stages
  · refine Session.asks_bind (Session.asks_log rfl) fun _ => ?_
    refine Session.asks_bind (concludes_saveChanged p) fun saved => ?_
    cases saved with
    | ok _ => exact Session.asks_throw _
    | error _ => exact Session.asks_bind (Session.asks_log rfl) fun _ => Session.asks_throw _
  · refine Session.asks_bind (concludes_saveChanged p) fun saved => ?_
    cases saved with
    | ok _ => exact Session.asks_bind (Session.asks_log rfl) fun _ => Session.asks_pure _
    | error _ => exact Session.asks_throw _

/-! ## 3. What a handler lives through with an apply -/

/-- The events that a handler lives through with a program. -/
def Program.events (answer : (q : Question) → σ → q.Reply × σ) (p : Program Session.interface α)
    (t : σ) : List Event :=
  (p.transcript answer t).filterMap Event.ofExchange

theorem Program.events_bind {answer : (q : Question) → σ → q.Reply × σ} {t : σ}
    (f : α → Program Session.interface β) (p : Program Session.interface α) :
    (p.bind f).events answer t = p.events answer t ++
      match p.run answer t with
      | (some a, t') => (f a).events answer t'
      | (none, _) => [] := by
  unfold Program.events
  rw [Program.transcript_bind, List.filterMap_append]
  generalize p.run answer t = ran
  obtain ⟨_ | a, t'⟩ := ran <;> rfl

section

variable {options : ApplyOptions} {desired : ClusterConfig} {plan : Plan} {ledger : SecretLedger}

/-- An apply as a program: the announcement, the steps, and what comes after them. -/
theorem execute_run : (execute options desired plan ledger).run =
    .ask (.log .info plan.announcement) fun _ =>
      (plan.steps options desired ledger).bind fun stages => (finish stages).run := by
  rw [execute_eq]
  refine congrArg (Program.ask _) (funext fun _ => ?_)
  show ((plan.steps options desired ledger).bind fun stages => .done (.ok stages)).bind
    (ExceptT.bindCont finish) = _
  rw [Program.bind_assoc]
  rfl

/-- The announcement is no request, and the steps come next. -/
theorem execute_events_eq (answer : (q : Question) → σ → q.Reply × σ) (t : σ) :
    (execute options desired plan ledger).events answer t =
      ((plan.steps options desired ledger).bind fun stages => (finish stages).run).events answer
        (answer (.log .info plan.announcement) t).2 := by
  rw [Session.events, execute_run]
  rfl

/-- The requests of the steps, and what they come to, are those of the apply up to there. -/
theorem execute_events (answer : (q : Question) → σ → q.Reply × σ) (t : σ) :
    let begun := (answer (.log .info plan.announcement) t).2
    let steps := plan.steps options desired ledger
    match steps.run answer begun with
    | (none, _) => (execute options desired plan ledger).events answer t =
          steps.events answer begun ∧
        (execute options desired plan ledger).result answer t = none
    | (some stages, ended) => (execute options desired plan ledger).events answer t =
          steps.events answer begun ++ (finish stages).events answer ended ∧
        (execute options desired plan ledger).result answer t = (finish stages).result answer ended
    := by
  intro begun steps
  have result : (execute options desired plan ledger).result answer t =
      ((steps.bind fun stages => (finish stages).run).run answer begun).1 := by
    rw [Session.result, execute_run]
    rfl
  rw [execute_events_eq, result, Program.events_bind, Program.run_bind]
  cases steps.run answer begun with
  | mk o ended =>
    cases o with
    | none => exact ⟨List.append_nil _, rfl⟩
    | some stages => exact ⟨rfl, rfl⟩

/-- **The ledger is saved exactly when it changed, and once.**  Whatever replies an apply gets,
its steps only send requests.  If they end, with a failure or without, with the ledger that was
given, nothing is saved; with any other ledger, this one is saved once and after everything else.
The failure of a step is what the apply comes to in either case; the failure of saving is what it
comes to only when every step has succeeded. -/
theorem ledger_saved_iff_changed (answer : (q : Question) → σ → q.Reply × σ) (t : σ) :
    let begun := (answer (.log .info plan.announcement) t).2
    let steps := plan.steps options desired ledger
    let apply := execute options desired plan ledger
    (∀ e ∈ steps.events answer begun, e.isRequest) ∧
    match (steps.run answer begun).1 with
    | none => apply.events answer t = steps.events answer begun ∧ apply.result answer t = none
    | some (r, p) =>
      if p.ledger = ledger then
        apply.events answer t = steps.events answer begun ∧
          apply.result answer t = some (r.map fun _ => p.result)
      else ∃ reply,
        apply.events answer t = steps.events answer begun ++ [.saved p.ledger reply] ∧
          apply.result answer t = some (concluded r reply p) := by
  intro begun steps apply
  have taken : (plan.context options desired).ActsAll plan.script (.start ledger)
      (steps.events answer begun) (steps.run answer begun).1 := by
    refine ApplyContext.actsAll_of_course ?_
    exact ⟨_, Program.dialogue_transcript (I := Session.interface) answer steps begun, rfl⟩
  refine ⟨taken.requests, ?_⟩
  have parts := @execute_events options desired plan ledger _ answer t
  dsimp only at parts
  generalize hrun : steps.run answer begun = ran at taken parts
  obtain ⟨_ | ⟨r, p⟩, ended⟩ := ran
  · exact parts
  · obtain ⟨hevents, hresult⟩ := parts
    obtain ⟨saved, hsaves, hout⟩ :=
      saves_of_finish (Session.course_of_run answer (finish (r, p)) ended)
    generalize (finish (r, p)).events answer ended = after at hsaves hevents
    have hresult := hresult.trans hout
    dsimp only
    cases hsaves with
    | unchanged hm =>
      have same : p.ledger = ledger := by
        by_contra different
        rw [taken.marked_iff.2 different] at hm
        nomatch hm
      rw [if_pos same]
      refine ⟨hevents.trans (List.append_nil _), hresult.trans ?_⟩
      cases r <;> rfl
    | changed hm =>
      rw [if_neg (taken.marked_iff.1 hm)]
      exact ⟨saved, hevents, hresult⟩

end

end Converge
