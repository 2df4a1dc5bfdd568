import Converge.Proofs.Apply.Script
import Converge.Proofs.Config.Validation
import Converge.Proofs.Ledger.Recording
import Converge.Reconcile
/-!
# The ledger describes the last version that was written

A `Round` is an apply against a stored ledger, however it ends.  `Round.written` lists the
versions that a round has written: the requests for new versions that succeeded, each with the
application that the plan names at that place of its script.  The ledger that is stored after any
number of rounds is the one before them with these versions recorded in their order, so that for
each application only the last one counts.

The invariant that carries the proof through a round is that the ledger in memory is the loaded
one with everything recorded that was written so far, and that it is marked as changed unless it
is still the loaded one (`ActsAll.ledger`).  Whatever fails afterwards, the ledger is saved in that
state.

Main statements: `ledger_after_rounds` and `Round.written_matches`.
-/

namespace Converge

open Execution

/-! ## 1. Versions that were written -/

/-- The version that a request for a change has written: an application and the spec that the
version follows. -/
def writing? (desired : ClusterConfig) : Mutation → Event → Option (String × ApplicationSpec)
  | .createVersion a, .request (.createVersion _ _) (.ok _) =>
    (desired.application? a.name).map fun w => (a.name, w.spec)
  | _, _ => none

/-- The versions that requests for some changes have written. -/
def writings (desired : ClusterConfig) (ms : List Mutation) (es : List Event) :
    List (String × ApplicationSpec) :=
  (ms.zip es).filterMap fun (m, e) => writing? desired m e

/-- The spec of the last version of an application among some. -/
def lastWriting (ws : List (String × ApplicationSpec)) (app : String) : Option ApplicationSpec :=
  (ws.reverse.find? (·.1 = app)).map (·.2)

/-- Records versions one after the other. -/
def SecretLedger.recordAll (l : SecretLedger) (ws : List (String × ApplicationSpec)) :
    SecretLedger :=
  ws.foldl (fun l w => (l.record w.1 w.2).1) l

/-- Whether recording one of several versions, one after the other, says that it has changed
something. -/
def SecretLedger.changedBy (l : SecretLedger) : List (String × ApplicationSpec) → Bool
  | [] => false
  | w :: ws => (l.record w.1 w.2).2 || (l.record w.1 w.2).1.changedBy ws

section

variable {desired : ClusterConfig} {ms ns : List Mutation} {es fs : List Event}

theorem writings_cons (m : Mutation) (e : Event) :
    writings desired (m :: ms) (e :: es) =
      (writing? desired m e).toList ++ writings desired ms es := by
  rw [writings, List.zip_cons_cons, List.filterMap_cons]
  dsimp only
  cases writing? desired m e <;> rfl

theorem writings_append (h : ms.length = es.length) :
    writings desired (ms ++ ns) (es ++ fs) = writings desired ms es ++ writings desired ns fs := by
  rw [writings, List.zip_append h, List.filterMap_append]
  rfl

theorem writings_extend : ∀ {ms : List Mutation} {es : List Event}, es.length ≤ ms.length →
    writings desired (ms ++ ns) es = writings desired ms es
  | ms, [], _ => by simp [writings]
  | m :: ms, e :: es, h => by
    rw [List.cons_append, writings_cons, writings_cons,
      writings_extend (Nat.le_of_succ_le_succ h)]

/-- Changes other than new versions write none. -/
theorem writings_eq_nil (h : ∀ m ∈ ms, ∀ e, writing? desired m e = none) :
    writings desired ms es = [] := by
  refine List.filterMap_eq_nil_iff.2 fun x hx => ?_
  exact h x.1 (List.of_mem_zip hx).1 x.2

theorem lastWriting_cons (w : String × ApplicationSpec) (ws : List (String × ApplicationSpec))
    (app : String) :
    lastWriting (w :: ws) app = (lastWriting ws app).or (if w.1 = app then some w.2 else none) := by
  unfold lastWriting
  rw [List.reverse_cons, List.find?_append]
  cases List.find? (·.1 = app) ws.reverse with
  | some x => simp
  | none => by_cases h : w.1 = app <;> simp [h]

end

namespace SecretLedger

theorem recordAll_append (l : SecretLedger) (ws vs : List (String × ApplicationSpec)) :
    l.recordAll (ws ++ vs) = (l.recordAll ws).recordAll vs := List.foldl_append

theorem changedBy_append (vs : List (String × ApplicationSpec)) :
    ∀ (ws : List (String × ApplicationSpec)) (l : SecretLedger),
      l.changedBy (ws ++ vs) = (l.changedBy ws || (l.recordAll ws).changedBy vs)
  | [], _ => rfl
  | w :: ws, l => by
    rw [List.cons_append, changedBy, changedBy, changedBy_append vs ws, Bool.or_assoc]
    rfl

/-- Versions that change nothing when they are recorded leave the ledger as it is. -/
theorem recordAll_unchanged : ∀ {ws : List (String × ApplicationSpec)} {l : SecretLedger},
    l.changedBy ws = false → l.recordAll ws = l
  | [], _, _ => rfl
  | w :: ws, l, h => by
    obtain ⟨hw, hws⟩ := Bool.or_eq_false_iff.1 h
    have rest := recordAll_unchanged hws
    rw [record_unchanged hw] at rest
    show (l.record w.1 w.2).1.recordAll ws = l
    rw [record_unchanged hw, rest]

/-- Recording leaves an application alone of which nothing is recorded. -/
theorem agree_recordAll_others {n : String} : ∀ {ws : List (String × ApplicationSpec)}
    {l : SecretLedger}, (∀ w ∈ ws, w.1 ≠ n) → Agree n (l.recordAll ws) l
  | [], _, _ => ⟨rfl, fun _ => rfl⟩
  | w :: ws, l, h => by
    obtain ⟨hw, hws⟩ := List.forall_mem_cons.1 h
    exact (agree_recordAll_others hws).trans (l.agree_record_other w.1 w.2 (Ne.symm hw))

/-- The password of an application is that of the last version that was recorded. -/
theorem password?_recordAll (app : String) : ∀ (ws : List (String × ApplicationSpec))
    (l : SecretLedger), (l.recordAll ws).password? app =
      match lastWriting ws app with
      | some spec => spec.registryPasswordVersion
      | none => l.password? app
  | [], _ => rfl
  | w :: ws, l => by
    have ih := password?_recordAll app ws (l.record w.1 w.2).1
    rw [lastWriting_cons]
    refine ih.trans ?_
    cases lastWriting ws app with
    | some spec => rfl
    | none =>
      dsimp only
      rw [password?_record]
      by_cases h : w.1 = app
      · simp [h]
      · simp [h, Ne.symm h]

/-- The secret variables of an application are those of the last version that was recorded, where
every secret has a version. -/
theorem env?_recordAll (app key : String) : ∀ (ws : List (String × ApplicationSpec))
    (l : SecretLedger), (∀ w ∈ ws, w.2.Sound) → (l.recordAll ws).env? app key =
      match lastWriting ws app with
      | some spec => (spec.lastSecret? key).bind (·.secretVersion)
      | none => l.env? app key
  | [], _, _ => rfl
  | w :: ws, l, hs => by
    obtain ⟨hw, hws⟩ := List.forall_mem_cons.1 hs
    have ih := env?_recordAll app key ws (l.record w.1 w.2).1 hws
    rw [lastWriting_cons]
    refine ih.trans ?_
    cases lastWriting ws app with
    | some spec => rfl
    | none =>
      dsimp only
      by_cases h : w.1 = app
      · subst h
        rw [env?_record, if_pos rfl]
        cases hk : w.2.lastSecret? key with
        | none => simp [hk]
        | some e =>
          obtain ⟨he, hsecret, -⟩ := ApplicationSpec.lastSecret?_mem hk
          obtain ⟨v, hv⟩ := Option.isSome_iff_exists.1 (hw.secrets e he hsecret)
          simp [hv, hk]
      · rw [env?_record_other _ _ _ (Ne.symm h), if_neg h]
        rfl

end SecretLedger

/-! ## 2. The ledger while steps are taken -/

/-- The ledger and whether it is marked as changed are the same. -/
def SameLedger (p q : Progress) : Prop :=
  q.ledger = p.ledger ∧ q.result.ledgerModified = p.result.ledgerModified

/-- The ledger of `q` is that of `p` with some versions recorded, and it is marked as changed if it
was before or recording one of them says that it has changed something. -/
structure Records (p q : Progress) (ws : List (String × ApplicationSpec)) : Prop where
  ledger : q.ledger = p.ledger.recordAll ws
  marked : q.result.ledgerModified = (p.result.ledgerModified || p.ledger.changedBy ws)

/-- A ledger that is not marked as changed is the one before. -/
theorem Records.unmarked {p q : Progress} {ws : List (String × ApplicationSpec)}
    (h : Records p q ws) (hq : q.result.ledgerModified = false) :
    p.result.ledgerModified = false ∧ q.ledger = p.ledger := by
  obtain ⟨hp, hc⟩ := Bool.or_eq_false_iff.1 (h.marked ▸ hq)
  exact ⟨hp, h.ledger.trans (SecretLedger.recordAll_unchanged hc)⟩

theorem SameLedger.records {p q : Progress} (h : SameLedger p q) : Records p q [] :=
  ⟨h.1, h.2.trans (Bool.or_false _).symm⟩

theorem Records.trans {p q r : Progress} {ws vs : List (String × ApplicationSpec)}
    (h : Records p q ws) (h' : Records q r vs) : Records p r (ws ++ vs) := by
  constructor
  · rw [SecretLedger.recordAll_append, ← h.ledger, h'.ledger]
  · rw [SecretLedger.changedBy_append, ← h.ledger, h'.marked, h.marked, Bool.or_assoc]

/-- Recording a version marks the ledger if it says that it has changed something. -/
theorem records_recorded (p : Progress) (name : String) (spec : ApplicationSpec) :
    Records p (p.recorded name spec) [(name, spec)] := by
  refine ⟨rfl, ?_⟩
  simp [Progress.recorded, SecretLedger.changedBy]

theorem sameLedger_noted {p q : Progress} {r : Except Failure Unit} {reply : Except Failure α}
    {change : α → Progress → Progress} (h : noted p change reply = (r, q))
    (hc : ∀ a, SameLedger p (change a p)) : SameLedger p q := by
  obtain f | a := reply <;> cases h
  · exact ⟨rfl, rfl⟩
  · exact hc a

namespace ApplyContext

variable {c : ApplyContext} {es : List Event}

theorem Completes.length_eq {ms : List Mutation} (h : c.Completes ms es) :
    ms.length = es.length := by
  induction h with
  | nil => rfl
  | cons _ _ _ ih => simp [ih]

theorem Attempts.length_le {ms : List Mutation} (h : c.Attempts ms es) :
    es.length ≤ ms.length := by
  induction h with
  | none => exact Nat.zero_le _
  | last => exact Nat.succ_le_succ (Nat.zero_le _)
  | next _ _ _ ih => exact Nat.succ_le_succ ih

theorem Targets.sameLedger {a : ApplicationAction} {p q : Progress}
    {r : Except Failure (Uuid × Option ApplicationVersion)}
    (h : c.Targets a p es (some (r, q))) : SameLedger p q := by
  generalize ho : some (r, q) = out at h
  cases h with
  | created ha => cases ho; exact ⟨rfl, rfl⟩
  | refused ha => cases ho; exact ⟨rfl, rfl⟩
  | unidentified ha hi => cases ho; exact ⟨rfl, rfl⟩
  | @based id es o ha hi hb =>
    cases o <;> cases ho
    exact ⟨rfl, rfl⟩

/-- What the requests that find a target write. -/
theorem writings_creations (a : ApplicationAction) (es : List Event) :
    writings c.desired (creations a) es = [] := by
  refine writings_eq_nil fun m hm e => ?_
  unfold creations at hm
  split at hm
  · obtain rfl := List.mem_singleton.1 hm
    rfl
  · nomatch hm

/-- What a step on an application writes, when its requests end with some. -/
theorem writings_application {a : ApplicationAction} {p q : Progress} {fs : List Event}
    {t : Uuid × Option ApplicationVersion} (ht : c.Targets a p es (some (.ok t, q))) :
    writings c.desired (a.mutations c.activate) (mutating (es ++ fs)) =
      writings c.desired ([.createVersion a] ++ if c.activate then [.activateVersion a] else [])
        (mutating fs) := by
  have hc := (ht.attempts.2.1 _ _ rfl).1
  have script : a.mutations c.activate = creations a ++
      ([.createVersion a] ++ if c.activate then [.activateVersion a] else []) :=
    List.append_assoc ..
  rw [script, mutating_append, writings_append hc.length_eq, writings_creations, List.nil_append]

/-- Activating a version writes none. -/
theorem writings_activation (a : ApplicationAction) (activate : Bool) (es : List Event) :
    writings c.desired (if activate then [.activateVersion a] else []) es = [] := by
  refine writings_eq_nil fun m hm e => ?_
  split at hm
  · obtain rfl := List.mem_singleton.1 hm
    rfl
  · nomatch hm

/-- A request for a version that succeeds writes the configured spec. -/
theorem writings_version {a : ApplicationAction} {w : ApplicationConfig} {id : Uuid}
    {request : CreateVersionRequest} {version : Int32} (ms : List Mutation) (es : List Event)
    (h : c.desired.application? a.name = some w) :
    writings c.desired (.createVersion a :: ms)
      (.request (.createVersion id request) (.ok version) :: es) =
      (a.name, w.spec) :: writings c.desired ms es := by
  rw [writings_cons]
  show ((c.desired.application? a.name).map _).toList ++ _ = _
  rw [h]
  rfl

/-- The steps for the settings and the infrastructure write no version. -/
theorem writings_infrastructure {s : ApplyStep} (hs : ∀ a, s ≠ .application a) (es : List Event) :
    writings c.desired (s.mutations c.activate) es = [] := by
  refine writings_eq_nil fun m hm e => ?_
  cases s with
  | application a => exact absurd rfl (hs a)
  | _ => obtain rfl := List.mem_singleton.1 hm; rfl

/-- They leave the ledger alone. -/
theorem Acts.sameLedger {s : ApplyStep} {p q : Progress} {r : Except Failure Unit}
    (h : c.Acts s p es (some (r, q))) (hs : ∀ a, s ≠ .application a) : SameLedger p q := by
  generalize ho : some (r, q) = out at h
  cases h with
  | settingsMissing _ => cases ho; exact ⟨rfl, rfl⟩
  | settings _ reply => exact sameLedger_noted (Option.some.inj ho).symm fun _ => ⟨rfl, rfl⟩
  | balancerUnidentified _ => cases ho; exact ⟨rfl, rfl⟩
  | balancerRefused _ _ => cases ho; exact ⟨rfl, rfl⟩
  | @balancerDeleted a p owner id es o _ _ _ =>
    obtain _ | o := o
    · cases ho
    · exact sameLedger_noted (Option.some.inj ho).symm fun _ => ⟨rfl, rfl⟩
  | groupUnidentified _ => cases ho; exact ⟨rfl, rfl⟩
  | groupRefused _ => cases ho; exact ⟨rfl, rfl⟩
  | @groupDeleted a p id es o _ _ =>
    obtain _ | o := o
    · cases ho
    · exact sameLedger_noted (Option.some.inj ho).symm fun _ => ⟨rfl, rfl⟩
  | groupUnknown _ => cases ho; exact ⟨rfl, rfl⟩
  | groupCreated _ reply => exact sameLedger_noted (Option.some.inj ho).symm fun _ => ⟨rfl, rfl⟩
  | balancerUnknown _ => cases ho; exact ⟨rfl, rfl⟩
  | @balancerOwnerless a p b es o _ _ _ => cases o <;> cases ho; exact ⟨rfl, rfl⟩
  | balancerCreated _ _ reply =>
    exact sameLedger_noted (Option.some.inj ho).symm fun _ => ⟨rfl, rfl⟩
  | applicationUnknown _ => exact absurd rfl (hs _)
  | applicationUntargeted _ _ _ => exact absurd rfl (hs _)
  | versionRefused _ _ => exact absurd rfl (hs _)
  | versionKept _ _ _ => exact absurd rfl (hs _)
  | versionActivated _ _ _ _ => exact absurd rfl (hs _)

/-- A step for an application records the version that it has written, if any. -/
theorem Acts.ledger_application {a : ApplicationAction} {p q : Progress} {r : Except Failure Unit}
    (h : c.Acts (.application a) p es (some (r, q))) :
    Records p q (writings c.desired (a.mutations c.activate) (mutating es)) := by
  generalize ho : some (r, q) = out at h
  cases h with
  | applicationUnknown h =>
    cases ho
    rw [show mutating [] = [] from rfl, writings, List.zip_nil_right]
    exact SameLedger.records ⟨rfl, rfl⟩
  | @applicationUntargeted a p w es out h ht hn =>
    have none : writings c.desired (a.mutations c.activate) (mutating es) = [] := by
      have script : a.mutations c.activate = creations a ++
          ([.createVersion a] ++ if c.activate then [.activateVersion a] else []) :=
        List.append_assoc ..
      rw [script, writings_extend ht.attempts.1.length_le, writings_creations]
    obtain _ | ⟨r', q'⟩ := out <;> cases ho
    rw [none]
    exact ht.sameLedger.records
  | @versionRefused a p w es id base q f h ht =>
    cases ho
    have none : writings c.desired ([.createVersion a] ++ if c.activate then [.activateVersion a]
        else []) [.request (.createVersion id (w.spec.request base)) (.error f)] = [] := by
      rw [writings_extend (Nat.le_refl _)]
      rfl
    rw [writings_application ht, mutating_cons_of_mutates rfl, mutating_nil, none]
    exact ht.sameLedger.records
  | @versionKept a p w es id base q version h ht hn =>
    cases ho
    rw [writings_application ht, mutating_cons_of_mutates rfl, mutating_nil, List.singleton_append,
      writings_version _ _ h, writings_activation]
    refine ht.sameLedger.records.trans ((records_recorded q a.name w.spec).trans ?_)
    exact SameLedger.records ⟨rfl, rfl⟩
  | @versionActivated a p w es id base q version h ht hy reply =>
    rw [writings_application ht, mutating_cons_of_mutates rfl, List.singleton_append,
      writings_version _ _ h, writings_activation]
    refine ht.sameLedger.records.trans ((records_recorded q a.name w.spec).trans ?_)
    exact (sameLedger_noted (Option.some.inj ho).symm fun _ => ⟨rfl, rfl⟩).records

/-- **What a step does to the ledger**: it records the version that it has written, if any, and
does so right after the request, so that a failure afterwards changes nothing about it. -/
theorem Acts.ledger {s : ApplyStep} {p q : Progress} {r : Except Failure Unit}
    (h : c.Acts s p es (some (r, q))) :
    Records p q (writings c.desired (s.mutations c.activate) (mutating es)) := by
  cases s with
  | application a => exact h.ledger_application
  | _ =>
    rw [writings_infrastructure (by simp)]
    exact (h.sameLedger (by simp)).records

/-- **What the steps of a script do to the ledger**, by induction over the steps that are taken. -/
theorem ActsAll.ledger {steps : List ApplyStep} {p q : Progress} {r : Except Failure Unit}
    (h : c.ActsAll steps p es (some (r, q))) :
    Records p q (writings c.desired (steps.flatMap (·.mutations c.activate)) (mutating es)) := by
  generalize ho : some (r, q) = out at h
  induction h with
  | nil => cases ho; exact SameLedger.records ⟨rfl, rfl⟩
  | cons h _ ih =>
    rw [List.flatMap_cons, mutating_append,
      writings_append (h.follows.completes _ rfl).length_eq]
    exact h.ledger.trans (ih ho)
  | stopped h =>
    cases ho
    rw [List.flatMap_cons, writings_extend h.follows.attempts.length_le]
    exact h.ledger
  | unfinished h => nomatch ho

end ApplyContext

/-! ## 3. The stored ledger -/

/-- What an event does to a stored ledger: it is replaced by one that is saved, which succeeds,
and it is what is loaded, unless that fails. -/
def Event.store (stored : SecretLedger) : Event → Option SecretLedger
  | .request _ _ => some stored
  | .loaded (.ok l) => if l = stored then some stored else none
  | .loaded (.error _) => some stored
  | .saved l (.ok _) => some l
  | .saved _ (.error _) => none

/-- The ledger that is stored after some events; none, when they are not those of a store. -/
def storedAfter (stored : SecretLedger) (es : List Event) : Option SecretLedger :=
  es.foldlM Event.store stored

theorem storedAfter_append (l : SecretLedger) (es fs : List Event) :
    storedAfter l (es ++ fs) = (storedAfter l es).bind fun m => storedAfter m fs :=
  List.foldlM_append

theorem storedAfter_requests : ∀ {es : List Event} (l : SecretLedger),
    (∀ e ∈ es, e.isRequest) → storedAfter l es = some l
  | [], _, _ => rfl
  | e :: es, l, h => by
    obtain ⟨he, hes⟩ := List.forall_mem_cons.1 h
    cases e with
    | request call reply =>
      have rest := storedAfter_requests l hes
      exact rest
    | loaded reply => nomatch he
    | saved m reply => nomatch he

/-- After steps and saving, whether or not there was something to save, the ledger is stored that
the steps have come to. -/
theorem stored_of_saves {c : ApplyContext} {steps : List ApplyStep} {ledger stored : SecretLedger}
    {as bs : List Event} {r saved : Except Failure Unit} {p : Progress}
    (h : c.ActsAll steps (.start ledger) as (some (r, p))) (hsaves : Saves p bs saved)
    (hs : storedAfter ledger (as ++ bs) = some stored) : stored = p.ledger := by
  rw [storedAfter_append, storedAfter_requests _ h.requests, Option.bind_some] at hs
  cases hsaves with
  | unchanged hm =>
    obtain rfl := Option.some.inj hs
    exact (h.ledger.unmarked hm).2.symm
  | changed hm reply =>
    obtain f | u := saved
    · nomatch hs
    · exact (Option.some.inj hs).symm

/-- An apply leaves the ledger that it was given with everything recorded that it has written,
whether or not it had to save it. -/
theorem execute_stores {options : ApplyOptions} {desired : ClusterConfig} {plan : Plan}
    {ledger stored : SecretLedger} {es : List Event} {o : Except Failure ExecutionResult}
    (h : (execute options desired plan ledger).Course es (some o))
    (hs : storedAfter ledger es = some stored) :
    stored = ledger.recordAll (writings desired (plan.mutations options.activate)
      (mutating es)) := by
  rcases execute_cases h with ⟨-, ho⟩ | ⟨as, bs, r, p, saved, rfl, hsteps, hsaves, -⟩
  · nomatch ho
  have records := hsteps.ledger
  rw [plan.flatMap_script] at records
  rw [mutating_append, hsaves.mutating_eq_nil, List.append_nil, stored_of_saves hsteps hsaves hs]
  exact records.ledger

/-! ## 4. Rounds -/

/-- An apply of some plan with some configuration, as it happened. -/
structure Round where
  options : ApplyOptions
  desired : ClusterConfig
  plan : Plan
  events : List Event
  outcome : Except Failure ExecutionResult

namespace Round

/-- An apply can happen like this. -/
def Happens (r : Round) : Prop :=
  (Reconcile.apply r.options r.desired r.plan).Course r.events (some r.outcome)

/-- The versions that were written, in their order, each with its application. -/
def written (r : Round) : List (String × ApplicationSpec) :=
  writings r.desired (r.plan.mutations r.options.activate) (mutating r.events)

/-- A round begins by loading the ledger, and nothing follows when that fails. -/
theorem Happens.cases {r : Round} (h : r.Happens) :
    (∃ l es, r.events = .loaded (.ok l) :: es ∧
      (execute r.options r.desired r.plan l).Course es (some r.outcome)) ∨
    (∃ f, r.events = [.loaded (.error f)] ∧ r.outcome = .error f) := by
  rcases Session.course_bind.1 h with ⟨as, bs, l, he, hl, hr⟩ | ⟨f, hl, ho⟩ | ⟨-, ho⟩
  · obtain ⟨reply, rfl, hreply⟩ := Session.course_loadLedger.1 hl
    obtain rfl := Option.some.inj hreply
    exact .inl ⟨l, bs, he, hr⟩
  · obtain ⟨reply, he, hreply⟩ := Session.course_loadLedger.1 hl
    obtain rfl := Option.some.inj hreply
    exact .inr ⟨f, he, Option.some.inj ho⟩
  · nomatch ho

/-- A round leaves the stored ledger with everything recorded that it has written. -/
theorem Happens.stores {r : Round} (h : r.Happens) {stored stored' : SecretLedger}
    (hs : storedAfter stored r.events = some stored') :
    stored' = stored.recordAll r.written := by
  unfold written
  rcases h.cases with ⟨l, es, he, hr⟩ | ⟨f, he, -⟩
  · rw [he, storedAfter, List.foldlM_cons, Event.store] at hs
    split at hs
    next heq =>
      subst heq
      have same : mutating (.loaded (.ok l) :: es) = mutating es := rfl
      rw [he, same]
      exact execute_stores hr hs
    next => nomatch hs
  · rw [he] at hs ⊢
    obtain rfl := Option.some.inj hs
    rw [show mutating [.loaded (.error f)] = [] from rfl, writings, List.zip_nil_right]
    rfl

end Round

/-- Any number of rounds leave the stored ledger with everything recorded that they have
written. -/
theorem stored_rounds : ∀ {rounds : List Round} {stored stored' : SecretLedger},
    (∀ r ∈ rounds, r.Happens) → storedAfter stored (rounds.flatMap (·.events)) = some stored' →
    stored' = stored.recordAll (rounds.flatMap (·.written))
  | [], _, _, _, hs => (Option.some.inj hs).symm
  | r :: rounds, stored, stored', h, hs => by
    obtain ⟨hr, hrounds⟩ := List.forall_mem_cons.1 h
    rw [List.flatMap_cons, storedAfter_append] at hs
    obtain ⟨middle, hm, hs⟩ := Option.bind_eq_some_iff.1 hs
    rw [List.flatMap_cons, SecretLedger.recordAll_append, ← hr.stores hm]
    exact stored_rounds hrounds hs

/-- Whether a version was written. -/
def Event.writesVersion : Event → Bool
  | .request (.createVersion _ _) (.ok _) => true
  | _ => false

/-- The request by which a version of an application was written, with an action of the plan. -/
def WrittenBy (plan : Plan) (w : String × ApplicationSpec) (e : Event) : Prop :=
  (∃ a ∈ plan.applicationActions, a.name = w.1) ∧
  ∃ id base version, e = .request (.createVersion id (w.2.request base)) (.ok version)

theorem Plan.mem_applicationActions {p : Plan} {activate : Bool} {a : ApplicationAction}
    (h : .createVersion a ∈ p.mutations activate) : a ∈ p.applicationActions := by
  simp only [Plan.mutations, ApplicationAction.mutations, List.mem_append, List.mem_map,
    List.mem_flatMap, List.mem_filter] at h
  rcases h with ((((h | h) | h) | h) | h) | ⟨b, ⟨hb, -⟩, h⟩
  · split at h <;> simp at h
  · simp at h
  · simp at h
  · simp at h
  · simp at h
  · have : a = b := by
      rcases h with (h | h) | h
      · split at h <;> simp at h
      · simpa using h
      · split at h <;> simp at h
    exact this ▸ hb

theorem ApplyContext.Asks.written {c : ApplyContext} {plan : Plan} {m : Mutation} {e : Event}
    (h : c.Asks m e) (hm : ∀ a, m = .createVersion a → a ∈ plan.applicationActions) :
    (∃ w, writing? c.desired m e = some w ∧ e.writesVersion = true ∧ WrittenBy plan w e) ∨
    (writing? c.desired m e = none ∧ e.writesVersion = false) := by
  cases h with
  | @createVersion a w id h hi base reply =>
    obtain f | version := reply
    · exact .inr ⟨rfl, rfl⟩
    · refine .inl ⟨(a.name, w.spec), ?_, rfl, ⟨a, hm a rfl, rfl⟩, id, base, version, rfl⟩
      show Option.map _ _ = _
      rw [h]
      rfl
  | updateSettings h reply => exact .inr ⟨rfl, rfl⟩
  | deleteBalancer ho hi reply => exact .inr ⟨rfl, rfl⟩
  | deleteGroup hi reply => exact .inr ⟨rfl, rfl⟩
  | createGroup h reply => exact .inr ⟨rfl, rfl⟩
  | createBalancer h owner reply => exact .inr ⟨rfl, rfl⟩
  | createApplication reply => exact .inr ⟨rfl, rfl⟩
  | activateVersion hi version reply => exact .inr ⟨rfl, rfl⟩

theorem writings_match {c : ApplyContext} {plan : Plan} : ∀ {ms : List Mutation} {es : List Event},
    c.Attempts ms es → (∀ a, .createVersion a ∈ ms → a ∈ plan.applicationActions) →
    List.Forall₂ (WrittenBy plan) (writings c.desired ms es) (es.filter (·.writesVersion))
  | ms, [], _, _ => by
    rw [writings, List.zip_nil_right]
    exact .nil
  | m :: ms, e :: es, h, hm => by
    have asks : c.Asks m e := by
      cases h <;> assumption
    have rest : c.Attempts ms es := by
      cases h with
      | last => exact .none ms
      | next _ _ hr => exact hr
    have ih := writings_match rest fun a ha => hm a (List.mem_cons_of_mem _ ha)
    have listed : ∀ a, m = .createVersion a → a ∈ plan.applicationActions := fun a ha =>
      hm a (ha ▸ List.mem_cons_self ..)
    rcases asks.written listed with ⟨w, hw, he, hby⟩ | ⟨hw, he⟩
    · rw [writings_cons, hw, List.filter_cons_of_pos he]
      exact .cons hby ih
    · rw [writings_cons, hw, List.filter_cons_of_neg (by simp [he])]
      exact ih

/-- **Nothing that was written is left out.**  The versions that a round has written are, one for
one and in their order, the requests for a version that succeeded: the spec is the one that the
request was made from, and the application is one of the plan. -/
theorem Round.written_matches {r : Round} (h : r.Happens) :
    List.Forall₂ (WrittenBy r.plan) r.written (r.events.filter (·.writesVersion)) := by
  have among : ∀ es : List Event, es.filter (·.writesVersion) =
      (mutating es).filter (·.writesVersion) := by
    intro es
    rw [mutating, List.filter_filter]
    congr 1
    funext e
    obtain ⟨call, _ | _⟩ | _ | _ := e <;> try cases call
    all_goals rfl
  rw [among]
  have all : ∀ a, .createVersion a ∈ r.plan.mutations r.options.activate →
      a ∈ r.plan.applicationActions := fun a => Plan.mem_applicationActions
  rcases h.cases with ⟨l, es, he, hr⟩ | ⟨f, he, -⟩
  · have same : mutating r.events = mutating es := he ▸ rfl
    rw [Round.written, same]
    rcases execute_cases hr with ⟨-, ho⟩ | ⟨as, bs, o, p, saved, rfl, hsteps, hsaves, -⟩
    · nomatch ho
    · rw [mutating_append, hsaves.mutating_eq_nil, List.append_nil]
      have attempts := hsteps.follows.1
      rw [r.plan.flatMap_script] at attempts
      exact writings_match attempts all
  · have same : mutating r.events = [] := he ▸ rfl
    rw [Round.written, same, writings, List.zip_nil_right]
    exact .nil

/-- Every spec that was written is one of the configuration. -/
theorem Round.written_sound {r : Round} {latestTag : Bool}
    (valid : (r.desired.check latestTag).isValid) : ∀ w ∈ r.written, w.2.Sound := by
  intro w hw
  obtain ⟨⟨m, e⟩, -, hw⟩ := List.mem_filterMap.1 hw
  have hw : writing? r.desired m e = some w := hw
  unfold writing? at hw
  split at hw
  · obtain ⟨a, ha, rfl⟩ := Option.map_eq_some_iff.1 hw
    exact (ClusterConfig.sound_of_isValid valid).specs a (List.mem_of_find?_eq_some ha)
  · nomatch hw

/-- **The stored ledger describes the last version that was written.**  After any number of rounds
with valid configurations, however each of them ended, what is stored for an application is the
password version and the secret versions of the spec that was written last, and nothing else; an
application of which no version was written has what it had before. -/
theorem ledger_after_rounds {rounds : List Round} {latestTag : Bool}
    {initial final : SecretLedger} (happened : ∀ r ∈ rounds, r.Happens)
    (valid : ∀ r ∈ rounds, (r.desired.check latestTag).isValid)
    (stored : storedAfter initial (rounds.flatMap (·.events)) = some final) (app : String) :
    match lastWriting (rounds.flatMap (·.written)) app with
    | some spec => final.password? app = spec.registryPasswordVersion ∧
        ∀ key, final.env? app key = (spec.lastSecret? key).bind (·.secretVersion)
    | none => final.password? app = initial.password? app ∧
        ∀ key, final.env? app key = initial.env? app key := by
  have sound : ∀ w ∈ rounds.flatMap (·.written), w.2.Sound := by
    intro w hw
    obtain ⟨r, hr, hw⟩ := List.mem_flatMap.1 hw
    exact Round.written_sound (valid r hr) w hw
  obtain rfl := stored_rounds happened stored
  have password := initial.password?_recordAll app (rounds.flatMap (·.written))
  have env := fun key => initial.env?_recordAll app key (rounds.flatMap (·.written)) sound
  cases h : lastWriting (rounds.flatMap (·.written)) app with
  | some spec =>
    simp only [h] at password env
    exact ⟨password, env⟩
  | none =>
    simp only [h] at password env
    exact ⟨password, env⟩

/-! ## 5. A round that is aborted -/

namespace Rounds

/-- A spec with a password and a secret variable. -/
def secretSpec : ApplicationSpec where
  cpu := 500
  memory := 1024
  scalingMode := "manual"
  fixedScale := some 1
  minScale := none
  maxScale := none
  scaleInThreshold := none
  scaleOutThreshold := none
  image := "nginx"
  cmd := []
  registryUsername := some "robot"
  registryPassword := some "hunter2"
  registryPasswordVersion := some 3
  exposedPorts := [⟨80, none, false, [], none⟩]
  env := [⟨"TOKEN", some "t", true, some 7⟩]

/-- A ledger that remembers a variable which is secret no more. -/
def before : SecretLedger := (SecretLedger.empty.setEnv "web" "OLD" (some 1)).1

/-- A control plane that lets no version be activated, with a ledger beside it. -/
def answer : (q : Question) → SecretLedger → q.Reply × SecretLedger
  | .call (.createApplication _), l => (.ok (Uuid.ofNat 2), l)
  | .call (.createVersion _ _), l => (.ok (1 : Int32), l)
  | .call _, l => (.error .cancelled, l)
  | .loadLedger, l => (.ok l, l)
  | .saveLedger l, _ => (.ok (), l)
  | .ledgerLocation, l => ("", l)
  | .clock, l => ((0 : Nat), l)
  | .now, l => (Timestamp.epoch, l)
  | .sleep _, l => ((), l)
  | .log _ _, l => ((), l)

/-- An apply that writes a version and fails to activate it. -/
def aborted : Round where
  options := ⟨⟨0, 0⟩, true, 1⟩
  desired := ⟨"prod", none, [], [], [⟨"web", secretSpec⟩]⟩
  plan := ⟨⟨"prod", Uuid.ofNat 1⟩, .noop, [], [], [⟨"web", .create, none, []⟩], [], .epoch⟩
  events := (Reconcile.apply ⟨⟨0, 0⟩, true, 1⟩ ⟨"prod", none, [], [], [⟨"web", secretSpec⟩]⟩
    ⟨⟨"prod", Uuid.ofNat 1⟩, .noop, [], [], [⟨"web", .create, none, []⟩], [], .epoch⟩).events
      answer before
  outcome := .error (.stage .applications "web" .cancelled)

theorem aborted_happens : aborted.Happens := by
  have h := Session.course_of_run answer
    (Reconcile.apply aborted.options aborted.desired aborted.plan) before
  have outcome : (Reconcile.apply aborted.options aborted.desired aborted.plan).result
      answer before = some aborted.outcome := by decide +kernel
  rwa [outcome] at h

/-- The ledger describes the version although it could not be activated. -/
theorem ledger_after_aborted_round :
    (∀ r ∈ [aborted], r.Happens) ∧ (∀ r ∈ [aborted], (r.desired.check true).isValid) ∧
    ∃ final, storedAfter before ([aborted].flatMap (·.events)) = some final ∧
      final.password? "web" = some 3 ∧ final.env? "web" "TOKEN" = some 7 ∧
      final.env? "web" "OLD" = none := by
  have happened : ∀ r ∈ [aborted], r.Happens := List.forall_mem_singleton.2 aborted_happens
  have valid : ∀ r ∈ [aborted], (r.desired.check true).isValid := by decide +kernel
  refine ⟨happened, valid, ?_⟩
  have written : lastWriting ([aborted].flatMap (·.written)) "web" = some secretSpec := by
    decide +kernel
  cases hs : storedAfter before ([aborted].flatMap (·.events)) with
  | none =>
    have saved : (storedAfter before ([aborted].flatMap (·.events))).isSome := by decide +kernel
    rw [hs] at saved
    nomatch saved
  | some final =>
    have h := ledger_after_rounds happened valid hs "web"
    rw [written] at h
    exact ⟨final, rfl, h.1, h.2 "TOKEN", h.2 "OLD"⟩

end Rounds

end Converge
