import Converge.Proofs.Apply.Limits
import Converge.Proofs.Data.Keyed
/-!
# An apply follows the script of its plan

`Plan.mutations` is the script of a plan, change by change, as it follows from the lists of the
plan alone.  Whatever the control plane replies, the requests of an apply that change something
are the beginning of that script: none is left out, added, repeated or moved, and after the first
that fails there is none.  The plan need not come from the planner: its actions may stand in any
order, repeat each other, or lack identifiers.

`ApplyContext.Asks` says which request makes a change; `Attempts` and `Completes` say that some
requests attempt a list of changes and that they make all of them.  One lemma says what a step
attempts (`Acts.follows`), and by induction over the script it is said of a whole apply.

An apply that does not succeed fails where a step was stopped, with the failure of the change that
was refused if there is one, or it was caught in a loop with a limit (`CaughtAt`).

Main statement: `execute_follows_script`.
-/

namespace Converge

open Execution

/-- A change that the script of a plan asks for. -/
inductive Mutation where
  | updateSettings
  | deleteBalancer (action : BalancerAction)
  | deleteGroup (action : GroupAction)
  | createGroup (action : GroupAction)
  | createBalancer (action : BalancerAction)
  | createApplication (action : ApplicationAction)
  | createVersion (action : ApplicationAction)
  | activateVersion (action : ApplicationAction)
  deriving DecidableEq, Repr

/-- The changes that an action on an application asks for. -/
def ApplicationAction.mutations (a : ApplicationAction) (activate : Bool) : List Mutation :=
  (if a.action = .create then [.createApplication a] else [])
  ++ [.createVersion a]
  ++ (if activate then [.activateVersion a] else [])

/-- The script of a plan, change by change. -/
def Plan.mutations (p : Plan) (activate : Bool) : List Mutation :=
  (if p.clusterAction.action = .update then [.updateSettings] else [])
  ++ (p.balancerActions.filter fun a => a.action ∈ [.delete, .recreate]).map .deleteBalancer
  ++ (p.groupActions.filter fun a => a.action ∈ [.delete, .recreate]).map .deleteGroup
  ++ (p.groupActions.filter fun a => a.action ∈ [.create, .recreate]).map .createGroup
  ++ (p.balancerActions.filter fun a => a.action ∈ [.create, .recreate]).map .createBalancer
  ++ (p.applicationActions.filter fun a => a.action ∈ [.create, .update]).flatMap
    (·.mutations activate)

/-- The changes that a step asks for. -/
def ApplyStep.mutations (activate : Bool) : ApplyStep → List Mutation
  | .updateSettings => [.updateSettings]
  | .deleteBalancer a => [.deleteBalancer a]
  | .deleteGroup a => [.deleteGroup a]
  | .createGroup a => [.createGroup a]
  | .createBalancer a => [.createBalancer a]
  | .application a => a.mutations activate

/-- The step that asks for a change. -/
def Mutation.step : Mutation → ApplyStep
  | .updateSettings => .updateSettings
  | .deleteBalancer a => .deleteBalancer a
  | .deleteGroup a => .deleteGroup a
  | .createGroup a => .createGroup a
  | .createBalancer a => .createBalancer a
  | .createApplication a | .createVersion a | .activateVersion a => .application a

/-- A change is asked for by its own step. -/
theorem ApplyStep.eq_of_mem_mutations {s : ApplyStep} {m : Mutation} {activate : Bool}
    (h : m ∈ s.mutations activate) : s = m.step := by
  cases s with
  | application b =>
    rcases List.mem_append.1 h with h | h
    · rcases List.mem_append.1 h with h | h
      · split at h
        · cases List.mem_singleton.1 h
          rfl
        · cases h
      · cases List.mem_singleton.1 h
        rfl
    · split at h
      · cases List.mem_singleton.1 h
        rfl
      · cases h
  | _ =>
    cases List.mem_singleton.1 h
    rfl

theorem ActionType.decide_deletes (t : ActionType) :
    decide (t ∈ [.delete, .recreate]) = t.deletes := by
  cases t <;> rfl

theorem ActionType.decide_creates (t : ActionType) :
    decide (t ∈ [.create, .recreate]) = t.creates := by
  cases t <;> rfl

theorem ActionType.decide_writesVersion (t : ActionType) :
    decide (t ∈ [.create, .update]) = t.writesVersion := by
  cases t <;> rfl

/-- The steps of a plan ask for the script of the plan. -/
theorem Plan.flatMap_script (p : Plan) (activate : Bool) :
    p.script.flatMap (·.mutations activate) = p.mutations activate := by
  unfold Plan.script Plan.mutations
  simp only [ActionType.decide_deletes, ActionType.decide_creates, ActionType.decide_writesVersion,
    List.flatMap_append, List.flatMap_map]
  congr 1
  simp only [ApplyStep.mutations, ← List.map_eq_flatMap]
  congr 4
  split <;> rfl

namespace ApplyContext

/-- The requests that make a change, whatever the reply.  The identifiers come from the plan where
the plan has them, and everything else from the configuration. -/
inductive Asks (c : ApplyContext) : Mutation → Event → Prop where
  | updateSettings {s} (h : c.desired.cluster = some s) (reply : Except Failure Unit) :
      Asks c .updateSettings (.request (.updateCluster c.cluster.id s.request) reply)
  | deleteBalancer {a : BalancerAction} {owner id} (ho : a.groupId = some owner)
      (hi : a.existingId = some id) (reply : Except Failure Unit) :
      Asks c (.deleteBalancer a) (.request (.deleteBalancer c.cluster.id owner id) reply)
  | deleteGroup {a : GroupAction} {id} (hi : a.existingId = some id)
      (reply : Except Failure Unit) :
      Asks c (.deleteGroup a) (.request (.deleteGroup c.cluster.id id) reply)
  | createGroup {a : GroupAction} {g} (h : c.desired.group? a.name = some g)
      (reply : Except Failure Uuid) :
      Asks c (.createGroup a) (.request (.createGroup c.cluster.id g.request) reply)
  | createBalancer {a : BalancerAction} {b} (h : c.desired.balancer? a.groupName a.name = some b)
      (owner : Uuid) (reply : Except Failure Uuid) :
      Asks c (.createBalancer a) (.request (.createBalancer c.cluster.id owner b.request) reply)
  | createApplication {a : ApplicationAction} (reply : Except Failure Uuid) :
      Asks c (.createApplication a)
        (.request (.createApplication ⟨a.name, c.cluster.id⟩) reply)
  | createVersion {a : ApplicationAction} {w id}
      (h : c.desired.application? a.name = some w)
      (hi : a.action ≠ .create → a.applicationId = some id) (base : Option ApplicationVersion)
      (reply : Except Failure Int32) :
      Asks c (.createVersion a) (.request (.createVersion id (w.spec.request base)) reply)
  | activateVersion {a : ApplicationAction} {id}
      (hi : a.action ≠ .create → a.applicationId = some id) (version : Int32)
      (reply : Except Failure Unit) :
      Asks c (.activateVersion a) (.request (.updateApplication id ⟨some version⟩) reply)

/-- Requests that attempt changes one after the other, and none after the first that fails. -/
inductive Attempts (c : ApplyContext) : List Mutation → List Event → Prop where
  | none (ms) : Attempts c ms []
  | last {m e} (h : c.Asks m e) (ms) : Attempts c (m :: ms) [e]
  | next {m ms e es} (h : c.Asks m e) (hs : e.succeeded) (hr : Attempts c ms es) :
      Attempts c (m :: ms) (e :: es)

/-- Requests that make changes, one after the other and all of them. -/
inductive Completes (c : ApplyContext) : List Mutation → List Event → Prop where
  | nil : Completes c [] []
  | cons {m ms e es} (h : c.Asks m e) (hs : e.succeeded) (hr : Completes c ms es) :
      Completes c (m :: ms) (e :: es)

variable {c : ApplyContext} {ms ns : List Mutation} {es fs : List Event}

/-! ## 1. Attempting and completing -/

theorem Completes.attempts (h : c.Completes ms es) : c.Attempts ms es := by
  induction h with
  | nil => exact .none []
  | cons h hs _ ih => exact .next h hs ih

theorem Completes.then_attempts (h : c.Completes ms es) (h' : c.Attempts ns fs) :
    c.Attempts (ms ++ ns) (es ++ fs) := by
  induction h with
  | nil => exact h'
  | cons h hs _ ih => exact .next h hs ih

theorem Completes.append (h : c.Completes ms es) (h' : c.Completes ns fs) :
    c.Completes (ms ++ ns) (es ++ fs) := by
  induction h with
  | nil => exact h'
  | cons h hs _ ih => exact .cons h hs ih

theorem Attempts.extend (h : c.Attempts ms es) (ns : List Mutation) :
    c.Attempts (ms ++ ns) es := by
  induction h with
  | none ms => exact .none _
  | last h ms => exact .last h _
  | next h hs _ ih => exact .next h hs ih

/-- What is attempted is the beginning of what is asked for. -/
theorem Attempts.isPrefix (h : c.Attempts ms es) :
    ∃ attempted, attempted <+: ms ∧ List.Forall₂ c.Asks attempted es := by
  induction h with
  | none ms => exact ⟨[], List.nil_prefix, .nil⟩
  | last h ms => exact ⟨[_], List.prefix_append [_] ms, .cons h .nil⟩
  | next h _ _ ih =>
    obtain ⟨attempted, hp, hf⟩ := ih
    exact ⟨_ :: attempted, (List.prefix_cons_inj _).2 hp, .cons h hf⟩

/-- A request after which another change is attempted has succeeded. -/
theorem Attempts.succeeded (h : c.Attempts ms es) : ∀ e ∈ es.dropLast, e.succeeded := by
  induction h with
  | none ms => exact fun _ h => nomatch h
  | last h ms => exact fun _ h => nomatch h
  | next h hs hr ih =>
    cases hr with
    | none => exact fun _ h => nomatch h
    | last h' =>
      intro e he
      obtain rfl := List.mem_singleton.1 he
      exact hs
    | next h' hs' hr' =>
      intro e he
      rcases List.mem_cons.1 he with rfl | he
      · exact hs
      · exact ih e he

/-- What is attempted is asked for. -/
theorem Attempts.exists_asks (h : c.Attempts ms es) {e : Event} (he : e ∈ es) :
    ∃ m ∈ ms, c.Asks m e := by
  obtain ⟨attempted, hprefix, asks⟩ := h.isPrefix
  obtain ⟨m, hm, ha⟩ := exists_left_of_forall₂ asks e he
  exact ⟨m, hprefix.subset hm, ha⟩

theorem Completes.forall₂ (h : c.Completes ms es) :
    List.Forall₂ c.Asks ms es ∧ ∀ e ∈ es, e.succeeded := by
  induction h with
  | nil => exact ⟨.nil, fun _ h => nomatch h⟩
  | cons h hs _ ih =>
    refine ⟨.cons h ih.1, fun e he => ?_⟩
    rcases List.mem_cons.1 he with rfl | he
    · exact hs
    · exact ih.2 e he

/-- No request of those that make all changes was refused. -/
theorem Completes.not_refused (h : c.Completes ms es) {e : Event} (he : e ∈ es) {f : Failure} :
    e.failure? ≠ some f := by
  have none := Option.isNone_iff_eq_none.1 (h.forall₂.2 e he)
  rw [none]
  exact nofun

/-! ## 2. What a step attempts -/

@[simp] theorem mutating_nil : mutating [] = [] := rfl

theorem mutating_cons_of_mutates {call : Call} {reply : Except Failure call.Reply}
    (h : call.mutates = true) :
    mutating (.request call reply :: es) = .request call reply :: mutating es :=
  List.filter_cons_of_pos h

theorem mutating_concat_of_mutates {call : Call} {reply : Except Failure call.Reply}
    (h : call.mutates = true) :
    mutating (es ++ [.request call reply]) = mutating es ++ [.request call reply] := by
  rw [mutating_append, mutating_cons_of_mutates h]
  rfl

/-- Looking for an owner only reads. -/
theorem Owns.reads {a : BalancerAction} {p : Progress} {o : Option (Except Failure Uuid)}
    (h : c.Owns a p es o) :
    (∀ e ∈ es, e.reads) ∧ ∀ f, o = some (.error f) → Accounted es f := by
  have listing := Observe.reads_listGroups c.limit c.cluster.id
  cases h with
  | created h => exact ⟨fun _ h => (nomatch h), fun _ h => nomatch h⟩
  | planned hc h => exact ⟨fun _ h => (nomatch h), fun _ h => nomatch h⟩
  | found hc hp h hg => exact ⟨(listing _ _ h).1, fun _ h => nomatch h⟩
  | missing hc hp h hg =>
    refine ⟨(listing _ _ h).1, ?_⟩
    rintro f ⟨⟩
    exact .inr ⟨_, rfl⟩
  | unlisted hc hp h =>
    refine ⟨(listing _ _ h).1, ?_⟩
    rintro f ⟨⟩
    exact (listing _ _ h).2 _ rfl
  | unfinished hc hp h => exact ⟨(listing _ _ h).1, fun _ h => nomatch h⟩

/-- The change that finding the target of an action may need. -/
def creations (a : ApplicationAction) : List Mutation :=
  if a.action = .create then [.createApplication a] else []

/-- Finding the target of an action creates an application where the action says so, and changes
nothing otherwise. -/
theorem Targets.attempts {a : ApplicationAction} {p : Progress}
    {out : Option (Except Failure (Uuid × Option ApplicationVersion) × Progress)}
    (h : c.Targets a p es out) :
    c.Attempts (creations a) (mutating es) ∧
    (∀ t q, out = some (.ok t, q) → c.Completes (creations a) (mutating es) ∧
      (a.action ≠ .create → a.applicationId = some t.1)) ∧
    (∀ f q, out = some (.error f, q) → Accounted es f) := by
  unfold creations
  cases h with
  | @created id ha =>
    rw [if_pos ha]
    have done := Completes.cons (c := c) (.createApplication (a := a) (.ok id)) rfl .nil
    exact ⟨done.attempts, fun _ _ _ => ⟨done, fun h => absurd ha h⟩, fun _ _ h => nomatch h⟩
  | @refused f ha =>
    rw [if_pos ha]
    refine ⟨.last (.createApplication (.error f)) [], fun _ _ h => (nomatch h), ?_⟩
    rintro g q ⟨⟩
    exact .inl ⟨_, List.mem_singleton.2 rfl, rfl⟩
  | unidentified ha hi =>
    refine ⟨.none _, fun _ _ h => (nomatch h), ?_⟩
    rintro g q ⟨⟩
    exact .inr ⟨_, rfl⟩
  | @based id es o ha hi hb =>
    have reads := Observe.reads_latestVersion c.limit id
    rw [if_neg ha, reads.mutating_eq_nil hb]
    refine ⟨.none [], fun t q h => ⟨.nil, fun _ => ?_⟩, fun f q h => ?_⟩
    · obtain _ | _ | base := o <;> cases h
      exact hi
    · obtain _ | f | _ := o <;> cases h
      exact (reads _ _ hb).2 f rfl

/-- An application whose creation is refused is not found. -/
theorem Targets.refuses {a : ApplicationAction} {p : Progress}
    {out : Option (Except Failure (Uuid × Option ApplicationVersion) × Progress)}
    (h : c.Targets a p es out) {e : Event} (he : e ∈ mutating es) {f : Failure}
    (hf : e.failure? = some f) : ∃ q, out = some (.error f, q) := by
  cases h with
  | created =>
    cases List.mem_singleton.1 he
    nomatch hf
  | refused =>
    cases List.mem_singleton.1 he
    cases hf
    exact ⟨p, rfl⟩
  | unidentified => nomatch he
  | based _ _ hb =>
    rw [(Observe.reads_latestVersion _ _).mutating_eq_nil hb] at he
    nomatch he

/-- Once the version is written, the step has asked for all but the activation. -/
theorem Targets.written {a : ApplicationAction} {p q : Progress} {id : Uuid}
    {base : Option ApplicationVersion} {w : ApplicationConfig}
    (ht : c.Targets a p es (some (.ok (id, base), q)))
    (h : c.desired.application? a.name = some w) (version : Int32) :
    c.Completes (creations a ++ [.createVersion a]) (mutating es ++
      [.request (.createVersion id (w.spec.request base)) (.ok version)]) := by
  obtain ⟨hc, hi⟩ := ht.attempts.2.1 _ _ rfl
  exact hc.append (.cons (.createVersion h hi base (.ok version)) rfl .nil)

theorem requests_of_reads (h : ∀ e ∈ es, e.reads) : ∀ e ∈ es, e.isRequest :=
  fun e he => Event.isRequest_of_reads (h e he)

/-- Finding the target of an action only sends requests. -/
theorem Targets.requests {a : ApplicationAction} {p : Progress}
    {out : Option (Except Failure (Uuid × Option ApplicationVersion) × Progress)}
    (h : c.Targets a p es out) : ∀ e ∈ es, e.isRequest := by
  cases h with
  | created ha => exact List.forall_mem_singleton.2 rfl
  | refused ha => exact List.forall_mem_singleton.2 rfl
  | unidentified ha hi => exact fun _ h => nomatch h
  | based ha hi hb =>
    exact requests_of_reads (Observe.reads_latestVersion _ _ _ _ hb).1

/-- How the requests of a step follow the changes that it asks for: they attempt them, they make
all of them when the step succeeds, the step fails with the failure of a change that is refused, and
a failure of the step is one that was replied or that the step raises by itself. -/
structure Follows (c : ApplyContext) (ms : List Mutation) (es : List Event)
    (out : Option (Except Failure Unit × Progress)) : Prop where
  requests : ∀ e ∈ es, e.isRequest
  attempts : c.Attempts ms (mutating es)
  completes : ∀ q, out = some (.ok (), q) → c.Completes ms (mutating es)
  refused : ∀ e ∈ mutating es, ∀ f, e.failure? = some f → ∃ q, out = some (.error f, q)
  accounted : ∀ f q, out = some (.error f, q) → Accounted es f

theorem requests_append (hes : ∀ e ∈ es, e.isRequest) (hfs : ∀ e ∈ fs, e.isRequest) :
    ∀ e ∈ es ++ fs, e.isRequest :=
  fun e he => (List.mem_append.1 he).elim (hes e) (hfs e)

theorem requests_concat {call : Call} {reply : Except Failure call.Reply}
    (hes : ∀ e ∈ es, e.isRequest) : ∀ e ∈ es ++ [.request call reply], e.isRequest :=
  requests_append hes (List.forall_mem_singleton.2 rfl)

theorem Follows.none (ms : List Mutation) {p : Progress} (a : ApplyError) :
    c.Follows ms [] (some (.error (.apply a), p)) := by
  refine ⟨fun _ h => (nomatch h), .none ms, fun _ h => (nomatch h), fun _ h => (nomatch h), ?_⟩
  rintro f q ⟨⟩
  exact .inr ⟨a, rfl⟩

/-- A step that has made all its changes. -/
theorem Follows.complete {out : Option (Except Failure Unit × Progress)}
    (hr : ∀ e ∈ es, e.isRequest) (all : c.Completes ms (mutating es))
    (ha : ∀ f q, out = some (.error f, q) → Accounted es f) : c.Follows ms es out :=
  ⟨hr, all.attempts, fun _ _ => all, fun _ he _ hf => absurd hf (all.not_refused he), ha⟩

/-- A step that stops where a change is refused, after others that it has made. -/
theorem Follows.stopped_after {m : Mutation} {call : Call} {f : Failure} {p : Progress}
    (hr : ∀ e ∈ es, e.isRequest) (done : c.Completes ns (mutating es))
    (h : c.Asks m (.request call (.error f))) (hm : call.mutates = true) (ms : List Mutation) :
    c.Follows (ns ++ m :: ms) (es ++ [.request call (.error f)]) (some (.error f, p)) := by
  refine ⟨requests_concat hr, ?_, fun _ h => (nomatch h), fun e he g hg => ?_, ?_⟩
  · rw [mutating_concat_of_mutates hm]
    exact done.then_attempts (.last h ms)
  · rw [mutating_concat_of_mutates hm] at he
    rcases List.mem_append.1 he with he | he
    · exact absurd hg (done.not_refused he)
    · cases List.mem_singleton.1 he
      cases hg
      exact ⟨p, rfl⟩
  · rintro g q ⟨⟩
    exact .inl ⟨_, List.mem_append_right _ (List.mem_singleton.2 rfl), rfl⟩

/-- A step that stops where its first change is refused. -/
theorem Follows.stopped {m : Mutation} {call : Call} {f : Failure} {p : Progress}
    (h : c.Asks m (.request call (.error f))) (hm : call.mutates = true)
    (hes : ∀ e ∈ es, e.reads) (ms : List Mutation) :
    c.Follows (m :: ms) (es ++ [.request call (.error f)]) (some (.error f, p)) := by
  have done : c.Completes [] (mutating es) := mutating_eq_nil_of_reads hes ▸ .nil
  exact .stopped_after (requests_of_reads hes) done h hm ms

/-- A step that asks for one change and whose outcome hangs on that request alone. -/
theorem Follows.single {m : Mutation} {call : Call} {reply : Except Failure call.Reply}
    {p : Progress} {change : call.Reply → Progress → Progress}
    (h : c.Asks m (.request call reply)) (hm : call.mutates = true)
    (hes : ∀ e ∈ es, e.reads) :
    c.Follows [m] (es ++ [.request call reply]) (some (noted p change reply)) := by
  cases reply with
  | ok a =>
    have all : c.Completes [m] (mutating (es ++ [.request call (.ok a)])) := by
      rw [mutating_concat_of_mutates hm, mutating_eq_nil_of_reads hes]
      exact .cons h rfl .nil
    exact .complete (requests_concat (requests_of_reads hes)) all fun _ _ h => nomatch h
  | error f => exact .stopped h hm hes []

/-- A step that asks for one change and then waits. -/
theorem Follows.waiting {m : Mutation} {call : Call} {reply : call.Reply} {s : Session Unit}
    {o : Option (Except Failure Unit)} {p : Progress} {change : Unit → Progress → Progress}
    (h : c.Asks m (.request call (.ok reply))) (hm : call.mutates = true) (hs : s.Reads)
    (hw : s.Course es o) :
    c.Follows [m] (.request call (.ok reply) :: es) (o.map (noted p change)) := by
  have all : c.Completes [m] (mutating (.request call (.ok reply) :: es)) := by
    rw [mutating_cons_of_mutates hm, hs.mutating_eq_nil hw]
    exact .cons h rfl .nil
  refine .complete ?_ all fun f q hf => ?_
  · exact List.forall_mem_cons.2 ⟨rfl, requests_of_reads (hs _ _ hw).1⟩
  · obtain _ | g | _ := o <;> cases hf
    exact ((hs _ _ hw).2 f rfl).mono fun e he => List.mem_cons_of_mem _ he

/-- No request is one that only reads. -/
theorem reads_nil : ∀ e ∈ ([] : List Event), e.reads := fun _ h => nomatch h

/-- **What a step attempts**, in each of the ways in which it can go. -/
theorem Acts.follows {s : ApplyStep} {p : Progress}
    {out : Option (Except Failure Unit × Progress)} (h : c.Acts s p es out) :
    c.Follows (s.mutations c.activate) es out := by
  cases h with
  | settingsMissing h => exact .none _ _
  | settings h reply => exact .single (.updateSettings h reply) rfl reads_nil
  | balancerUnidentified h => exact .none _ _
  | balancerRefused ho hi => exact .stopped (.deleteBalancer ho hi _) rfl reads_nil []
  | balancerDeleted ho hi hw =>
    exact .waiting (.deleteBalancer ho hi (.ok ())) rfl
      (Deletion.reads_wait _ _ _ _ (Session.reads_call rfl)) hw
  | groupUnidentified h => exact .none _ _
  | groupRefused hi => exact .stopped (.deleteGroup hi _) rfl reads_nil []
  | groupDeleted hi hw =>
    exact .waiting (.deleteGroup hi (.ok ())) rfl
      (Deletion.reads_wait _ _ _ _ (Session.reads_call rfl)) hw
  | groupUnknown h => exact .none _ _
  | groupCreated h reply => exact .single (.createGroup h reply) rfl reads_nil
  | balancerUnknown h => exact .none _ _
  | @balancerOwnerless a p b es o h ho hn =>
    obtain ⟨hr, he⟩ := ho.reads
    have nothing := mutating_eq_nil_of_reads hr
    refine ⟨requests_of_reads hr, nothing ▸ .none _, fun q hq => ?_,
      nothing ▸ fun _ h => (nomatch h), fun f q hf => ?_⟩
    · obtain _ | _ | id := o <;> cases hq
      exact absurd rfl (hn id)
    · obtain _ | g | _ := o <;> cases hf
      exact he _ rfl
  | balancerCreated h ho reply =>
    exact .single (.createBalancer h _ reply) rfl ho.reads.1
  | applicationUnknown h => exact .none _ _
  | @applicationUntargeted a p w es out h ht hn =>
    obtain ⟨ha, -, he⟩ := ht.attempts
    refine ⟨ht.requests, ?_, fun q hq => ?_, fun e hm f hf => ?_, fun f q hf => ?_⟩
    · have := ha.extend ([.createVersion a] ++ if c.activate then [.activateVersion a] else [])
      rwa [← List.append_assoc] at this
    · obtain _ | ⟨_ | t, q'⟩ := out <;> cases hq
      exact absurd rfl (hn t q')
    · obtain ⟨q, rfl⟩ := ht.refuses hm hf
      exact ⟨q, rfl⟩
    · obtain _ | ⟨g | _, q'⟩ := out <;> cases hf
      exact he _ _ rfl
  | @versionRefused a p w es id base q f h ht =>
    obtain ⟨hc, hi⟩ := ht.attempts.2.1 _ _ rfl
    have script : (ApplyStep.application a).mutations c.activate = creations a ++
        .createVersion a :: if c.activate then [.activateVersion a] else [] := by
      rw [ApplyStep.mutations, ApplicationAction.mutations, List.append_assoc]
      rfl
    rw [script]
    exact .stopped_after ht.requests hc (.createVersion h hi base (.error f)) rfl _
  | @versionKept a p w es id base q version h ht hn =>
    have all : c.Completes (a.mutations c.activate)
        (mutating (es ++ [.request (.createVersion id (w.spec.request base)) (.ok version)])) := by
      rw [mutating_concat_of_mutates rfl, ApplicationAction.mutations, hn]
      simpa [creations] using ht.written h version
    exact .complete (requests_concat ht.requests) all fun _ _ h => nomatch h
  | @versionActivated a p w es id base q version h ht hy reply =>
    have asks := Asks.activateVersion (c := c) (ht.attempts.2.1 _ _ rfl).2 version reply
    have script : (ApplyStep.application a).mutations c.activate =
        creations a ++ [.createVersion a] ++ [.activateVersion a] := by
      rw [ApplyStep.mutations, ApplicationAction.mutations, hy]
      rfl
    -- The activation comes after all that the version needs.
    rw [script, List.append_cons es _ [_]]
    have written : c.Completes (creations a ++ [.createVersion a]) (mutating
        (es ++ [.request (.createVersion id (w.spec.request base)) (.ok version)])) := by
      rw [mutating_concat_of_mutates rfl]
      exact ht.written h version
    cases reply with
    | error f => exact .stopped_after (requests_concat ht.requests) written asks rfl []
    | ok u =>
      have all := written.append (.cons asks rfl .nil)
      rw [← mutating_concat_of_mutates rfl] at all
      exact .complete (requests_concat (requests_concat ht.requests)) all fun _ _ h => nomatch h

/-! ## 3. What an apply attempts -/

/-- Where an apply stopped: the steps before have made all their changes, the step that failed has
attempted the beginning of its own, and no other was begun. -/
structure StoppedAt (c : ApplyContext) (steps : List ApplyStep) (es : List Event) (f : Failure)
    (step : ApplyStep) : Prop where
  attempts : ∃ before after as bs, steps = before ++ step :: after ∧ mutating es = as ++ bs ∧
    c.Completes (before.flatMap (·.mutations c.activate)) as ∧
    c.Attempts (step.mutations c.activate) bs
  failure : ∃ source, f = .stage step.stage (step.resource c.cluster.name) source ∧
    Accounted es source

/-- Where an apply was left without a result: the steps before have made all their changes, a loop
of this one has used up its rounds, and no other was begun. -/
def CaughtAt (c : ApplyContext) (steps : List ApplyStep) (es : List Event)
    (step : ApplyStep) : Prop :=
  ∃ before after as bs, steps = before ++ step :: after ∧ es = as ++ bs ∧
    c.Completes (before.flatMap (·.mutations c.activate)) (mutating as) ∧ c.Spent step bs

theorem StoppedAt.after {s step : ApplyStep} {steps : List ApplyStep} {f : Failure}
    (hs : c.Completes (s.mutations c.activate) (mutating es)) (h : c.StoppedAt steps fs f step) :
    c.StoppedAt (s :: steps) (es ++ fs) f step := by
  obtain ⟨⟨before, after, as, bs, rfl, hm, hc, ha⟩, source, hf, hacc⟩ := h
  refine ⟨⟨s :: before, after, mutating es ++ as, bs, rfl, ?_, hs.append hc, ha⟩, source, hf, ?_⟩
  · rw [mutating_append, hm, List.append_assoc]
  · exact hacc.mono fun _ he => List.mem_append_right _ he

theorem CaughtAt.after {s step : ApplyStep} {steps : List ApplyStep}
    (hs : c.Completes (s.mutations c.activate) (mutating es)) (h : c.CaughtAt steps fs step) :
    c.CaughtAt (s :: steps) (es ++ fs) step := by
  obtain ⟨before, after, as, bs, rfl, rfl, hc, spent⟩ := h
  refine ⟨s :: before, after, es ++ as, bs, rfl, (List.append_assoc ..).symm, ?_, spent⟩
  rw [mutating_append]
  exact hs.append hc

/-- **What the steps of a script attempt**, by induction over the steps that are taken. -/
theorem ActsAll.follows {steps : List ApplyStep} {p : Progress}
    {out : Option (Except Failure Unit × Progress)} (h : c.ActsAll steps p es out) :
    c.Attempts (steps.flatMap (·.mutations c.activate)) (mutating es) ∧
    (∀ q, out = some (.ok (), q) →
      c.Completes (steps.flatMap (·.mutations c.activate)) (mutating es)) ∧
    (∀ f q, out = some (.error f, q) → ∃ step, c.StoppedAt steps es f step) := by
  induction h with
  | nil => exact ⟨.none _, fun _ _ => .nil, fun _ _ h => nomatch h⟩
  | cons h _ ih =>
    obtain ⟨ha, hc, he⟩ := ih
    have hs := h.follows.completes _ rfl
    rw [mutating_append, List.flatMap_cons]
    refine ⟨hs.then_attempts ha, fun q hq => hs.append (hc q hq), fun f q hf => ?_⟩
    obtain ⟨step, hstep⟩ := he f q hf
    exact ⟨step, hstep.after hs⟩
  | @stopped s rest p q es f h =>
    have ha := h.follows.attempts
    have he := h.follows.accounted
    refine ⟨ha.extend _, fun _ h => (nomatch h), ?_⟩
    rintro g q ⟨⟩
    exact ⟨s, ⟨[], rest, [], mutating es, rfl, rfl, .nil, ha⟩, f, rfl, he _ _ rfl⟩
  | unfinished h =>
    exact ⟨h.follows.attempts.extend _, fun _ h => (nomatch h), fun _ _ h => nomatch h⟩

/-- The failure of a change that is refused is what the steps come to, said of the step that asked
for the change. -/
theorem ActsAll.refused {steps : List ApplyStep} {p : Progress}
    {out : Option (Except Failure Unit × Progress)} (h : c.ActsAll steps p es out) {e : Event}
    (he : e ∈ mutating es) {f : Failure} (hf : e.failure? = some f) :
    ∃ m ∈ steps.flatMap (·.mutations c.activate), c.Asks m e ∧
      ∃ q, out = some (.error (.stage m.step.stage (m.step.resource c.cluster.name) f), q) := by
  induction h with
  | nil => nomatch he
  | cons h _ ih =>
    rw [mutating_append] at he
    rcases List.mem_append.1 he with he | he
    · exact absurd hf ((h.follows.completes _ rfl).not_refused he)
    · obtain ⟨m, hm, later⟩ := ih he
      exact ⟨m, List.mem_append_right _ hm, later⟩
  | @stopped s _ _ q _ g h =>
    obtain ⟨m, hm, asks⟩ := h.follows.attempts.exists_asks he
    obtain rfl := ApplyStep.eq_of_mem_mutations hm
    obtain ⟨_, same⟩ := h.follows.refused e he f hf
    cases same
    exact ⟨m, List.mem_append_left _ hm, asks, q, rfl⟩
  | unfinished h => nomatch h.follows.refused e he f hf

/-- **Steps that come to nothing are caught in a loop** of the last that is begun. -/
theorem ActsAll.caught {steps : List ApplyStep} {p : Progress} (h : c.ActsAll steps p es none) :
    ∃ step, c.CaughtAt steps es step := by
  generalize hout : (none : Option (Except Failure Unit × Progress)) = out at h
  induction h with
  | nil | stopped _ => nomatch hout
  | cons h _ ih =>
    obtain ⟨step, caught⟩ := ih hout
    exact ⟨step, caught.after (h.follows.completes _ rfl)⟩
  | @unfinished s rest _ es h => exact ⟨s, [], rest, [], es, rfl, rfl, .nil, h.spent⟩

/-- The steps of a script only send requests. -/
theorem ActsAll.requests {steps : List ApplyStep} {p : Progress}
    {out : Option (Except Failure Unit × Progress)} (h : c.ActsAll steps p es out) :
    ∀ e ∈ es, e.isRequest := by
  induction h with
  | nil => exact fun _ h => nomatch h
  | cons h _ ih => exact requests_append h.follows.requests ih
  | stopped h => exact h.follows.requests
  | unfinished h => exact h.follows.requests

theorem Attempts.asked (h : c.Attempts ms (mutating es)) (hr : ∀ e ∈ es, e.isRequest) :
    ∀ e ∈ es, e.reads ∨ ∃ m ∈ ms, c.Asks m e := by
  intro e he
  obtain ⟨call, reply⟩ | _ | _ := e
  · cases hm : call.mutates with
    | false => exact .inl (by rw [Event.reads, hm]; rfl)
    | true =>
      exact .inr (h.exists_asks (List.mem_filter.2 ⟨he, hm⟩))
  · cases hr _ he
  · cases hr _ he

/-- What a step requests only reads, or the step asks for it. -/
theorem Acts.asked {s : ApplyStep} {p : Progress}
    {out : Option (Except Failure Unit × Progress)} (h : c.Acts s p es out) :
    ∀ e ∈ es, e.reads ∨ ∃ m, s = m.step ∧ c.Asks m e := by
  intro e he
  have attempts : c.Attempts (s.mutations c.activate) (mutating es) := h.follows.attempts
  rcases attempts.asked h.follows.requests e he with reads | ⟨m, hm, asks⟩
  · exact .inl reads
  · exact .inr ⟨m, ApplyStep.eq_of_mem_mutations hm, asks⟩

/-- What steps request only reads, or it makes one of their changes. -/
theorem ActsAll.asked {steps : List ApplyStep} {p : Progress}
    {out : Option (Except Failure Unit × Progress)} (h : c.ActsAll steps p es out) :
    ∀ e ∈ es, e.reads ∨ ∃ m ∈ steps.flatMap (·.mutations c.activate), c.Asks m e :=
  h.follows.1.asked h.requests

end ApplyContext

theorem Saves.mutating_eq_nil {p : Progress} {es : List Event} {saved : Except Failure Unit}
    (h : Saves p es saved) : mutating es = [] := by
  cases h <;> rfl

/-- How an apply follows the script of its plan. -/
structure Plan.Followed (plan : Plan) (c : ApplyContext) (es : List Event)
    (out : Option (Except Failure ExecutionResult)) : Prop where
  /-- The changes that are attempted are the beginning of the script. -/
  attempted : ∃ ms, ms <+: plan.mutations c.activate ∧ List.Forall₂ c.Asks ms (mutating es)
  /-- Every attempt that is followed by another has succeeded. -/
  succeeded : ∀ e ∈ (mutating es).dropLast, e.succeeded
  /-- An apply that succeeds has made every change of the script. -/
  finished : ∀ r, out = some (.ok r) →
    List.Forall₂ c.Asks (plan.mutations c.activate) (mutating es) ∧
    ∀ e ∈ mutating es, e.succeeded
  /-- A change that is refused is what an apply fails with: the failure names the stage and the
  resource of the step that asked for the change. -/
  refused : ∀ e ∈ mutating es, ∀ f, e.failure? = some f →
    ∃ m ∈ plan.mutations c.activate, c.Asks m e ∧
      out = some (.error (.stage m.step.stage (m.step.resource c.cluster.name) f))
  /-- An apply that fails was stopped at a step and names its stage and resource, or it has made
  every change and could not save the ledger. -/
  failed : ∀ f, out = some (.error f) →
    (∃ step, c.StoppedAt plan.script es f step) ∨
    (c.Completes (plan.mutations c.activate) (mutating es) ∧ ∃ l, .saved l (.error f) ∈ es)
  /-- An apply that comes to nothing was caught in a loop of a step: a listing that led on for as
  many pages as the limit says, or as many looks at a resource that was still there. -/
  unfinished : out = none → ∃ step, c.CaughtAt plan.script es step

theorem Plan.followed_of_course {options : ApplyOptions} {desired : ClusterConfig} {plan : Plan}
    {ledger : SecretLedger} {es : List Event} {out : Option (Except Failure ExecutionResult)}
    (h : (execute options desired plan ledger).Course es out) :
    plan.Followed (plan.context options desired) es out := by
  rcases execute_cases h with ⟨hsteps, rfl⟩ | ⟨as, bs, r, p, saved, rfl, hsteps, hs, rfl⟩
  · obtain ⟨ha, -, -⟩ := hsteps.follows
    rw [plan.flatMap_script] at ha
    refine ⟨ha.isPrefix, ha.succeeded, fun _ h => (nomatch h), fun e he f hf => ?_,
      fun _ h => (nomatch h), fun _ => hsteps.caught⟩
    obtain ⟨_, _, _, _, hout⟩ := hsteps.refused he hf
    nomatch hout
  · obtain ⟨ha, hc, he⟩ := hsteps.follows
    rw [plan.flatMap_script] at ha hc
    have same : mutating (as ++ bs) = mutating as := by
      rw [mutating_append, hs.mutating_eq_nil, List.append_nil]
    rw [← same] at ha hc
    refine ⟨ha.isPrefix, ha.succeeded, fun res hr => ?_, fun e he f hf => ?_, fun f hf => ?_,
      fun h => nomatch h⟩
    · obtain g | u := r
      · nomatch hr
      · exact (hc p rfl).forall₂
    · obtain ⟨m, hm, asks, _, hout⟩ := hsteps.refused (same ▸ he) hf
      cases hout
      exact ⟨m, plan.flatMap_script _ ▸ hm, asks, rfl⟩
    · obtain g | u := r
      · obtain rfl := Except.error.inj (Option.some.inj hf)
        obtain ⟨step, ⟨before, after, cs, ds, hl, hm, hca, hat⟩, source, hg, hacc⟩ := he g p rfl
        refine .inl ⟨step, ⟨before, after, cs, ds, hl, same ▸ hm, hca, hat⟩, source, hg, ?_⟩
        exact hacc.mono fun _ he => List.mem_append_left _ he
      · refine .inr ⟨hc p rfl, ?_⟩
        cases hs with
        | unchanged hm => nomatch hf
        | changed hm reply =>
          obtain g | v := saved
          · obtain rfl := Except.error.inj (Option.some.inj hf)
            exact ⟨_, List.mem_append_right _ (List.mem_singleton.2 rfl)⟩
          · nomatch hf

/-- **An apply follows the script of its plan**, whatever plan, configuration, options and ledger
it is given and however the control plane, the store and the clock behave.  It comes to a result
where these are orderly and it has enough rounds. -/
theorem execute_follows_script (options : ApplyOptions) (desired : ClusterConfig) (plan : Plan)
    (ledger : SecretLedger) (answer : (q : Question) → σ → q.Reply × σ) (t : σ) :
    plan.Followed (plan.context options desired)
      ((execute options desired plan ledger).events answer t)
      ((execute options desired plan ledger).result answer t) ∧
    ∀ o : Orderly answer, o.Enough options →
      ((execute options desired plan ledger).result answer t).isSome :=
  ⟨Plan.followed_of_course (Session.course_of_run answer _ t),
    fun _ enough => returns_execute enough desired plan ledger t⟩

namespace Clearing

def desired : ClusterConfig :=
  ⟨"prod", none, [], [⟨"front", "web", "cloud/lb", [], []⟩], []⟩

/-- A plan that deletes a group and creates a load balancer whose owner it does not know. -/
def plan : Plan where
  cluster := ⟨"prod", .ofNat 1⟩
  clusterAction := .noop
  groupActions := [⟨"old", .delete, some (.ofNat 2), []⟩]
  balancerActions := [⟨"front", "web", .create, none, none, []⟩]
  applicationActions := []
  warnings := []
  createdAt := .epoch

/-- What is replied at some time: the group is there for four seconds after it was deleted, and
groups are listed on two pages. -/
def reply (now : Nat) : (c : Call) → Except Failure c.Reply
  | .deleteGroup _ _ => .ok ()
  | .getGroup _ id =>
    if now < 4000 then .ok ⟨id, "old", "is1a", "cloud/1core", 1, 1, [], []⟩
    else .error (.notFound "group")
  | .listGroups _ none => .ok ⟨[], some "more"⟩
  | .listGroups _ (some _) => .ok ⟨[⟨.ofNat 3, "web", "is1a", "cloud/1core", 1, 1, [], []⟩], none⟩
  | .createBalancer _ _ _ => .ok (.ofNat 4)
  | _ => .error (.notFound "resource")

/-- A control plane that needs ten milliseconds for each request, and a clock that shows them. -/
def answer : (q : Question) → Nat → q.Reply × Nat
  | .call c, now => (reply now c, now + 10)
  | .loadLedger, now => (.ok .empty, now)
  | .saveLedger _, now => (.ok (), now)
  | .ledgerLocation, now => ("ledger", now)
  | .clock, now => (now, now)
  | .now, now => (.epoch, now)
  | .sleep milliseconds, now => ((), now + milliseconds)
  | .log _ _, now => ((), now)

def orderly : Orderly answer where
  cursors := ["more"]
  named c now page next served named := by
    cases c with
    | listGroups cluster cursor =>
      cases cursor with
      | none =>
        cases served
        cases named
        exact List.mem_singleton.2 rfl
      | some cursor =>
        cases served
        nomatch named
    | listClusters | listBalancers | listApplications | listVersions => nomatch served
    | _ => nomatch named
  time now := now
  shown _ := rfl
  forward q now := by
    cases q with
    | call c => exact Nat.le_add_right now 10
    | sleep milliseconds => exact Nat.le_add_right now milliseconds
    | _ => exact Nat.le_refl now
  pace := 10
  taken _ _ := Nat.le_refl _
  slept _ _ := Nat.le_refl _

/-- Two pauses of three seconds, in three rounds. -/
def options : ApplyOptions := ⟨⟨3000, 6000⟩, false, 3⟩

def applying : Session ExecutionResult := execute options desired plan .empty

/-- The third look finds that the group is gone, and the second page has the owner. -/
theorem returns_in_three_rounds :
    orderly.Enough options ∧ (applying.events answer 0).length = 7 ∧
    plan.Followed (plan.context options desired) (applying.events answer 0)
      (applying.result answer 0) ∧
    (applying.result answer 0).isSome := by
  have enough : orderly.Enough options := ⟨by decide, by decide⟩
  obtain ⟨followed, returns⟩ := execute_follows_script options desired plan .empty answer 0
  exact ⟨enough, by decide +kernel, followed, returns orderly enough⟩

end Clearing

end Converge
