import Converge.Proofs.Apply.Runs
import Mathlib.Data.List.Perm.Subperm
/-!
# The limits of the loops of an apply

Only the surroundings end the loops of an apply: the control plane, which may send a listing from
one page to the next, and the clock, which may stand still while a resource is waited for.  So each
loop has a limit on its rounds, and an apply has no result where one is used up.

`ApplyContext.Spent` says what a step has lived through by then: as many pages as the limit says,
each naming a cursor that was not followed before, or as many looks at a resource, which is there
at each of them.  That needs surroundings that are not `Orderly`, or too few rounds: where there
are only finitely many cursors and the clock goes on, there is a limit that no loop uses up.

Main statements: `ApplyContext.Acts.spent` and `returns_execute`.
-/

namespace Converge

open Execution

/-! ## 1. Loops that use up their rounds -/

/-- The cursor that a reply names, if it is a page. -/
def Call.next? : (c : Call) → c.Reply → Option String
  | .listClusters _, page => page.next
  | .listGroups _ _, page => page.next
  | .listBalancers _ _ _, page => page.next
  | .listApplications _ _, page => page.next
  | .listVersions _ _, page => page.next
  | _, _ => none

/-- A listing that goes on for a number of rounds, where some cursors were followed before: each of
its pages names another one. -/
inductive LeadsOn (list : Option String → Call) :
    Nat → List String → Option String → List Event → Prop where
  | spent {seen cursor} : LeadsOn list 0 seen cursor []
  | page {rounds seen cursor next es} (reply : (list cursor).Reply)
      (hn : (list cursor).next? reply = some next) (fresh : next ∉ seen)
      (rest : LeadsOn list rounds (next :: seen) (some next) es) :
      LeadsOn list (rounds + 1) seen cursor (.request (list cursor) (.ok reply) :: es)

/-- A listing that leads on names as many cursors as it has rounds. -/
theorem LeadsOn.rounds_le {list : Option String → Call} {rounds : Nat} {seen cursors : List String}
    {cursor : Option String} {es : List Event} (h : LeadsOn list rounds seen cursor es)
    (named : ∀ c reply next, .request c (.ok reply) ∈ es → c.next? reply = some next →
      next ∈ cursors) (once : seen.Nodup) (sub : seen ⊆ cursors) :
    rounds + seen.length ≤ cursors.length := by
  induction h with
  | spent =>
    rw [Nat.zero_add]
    exact (once.subperm sub).length_le
  | page reply hn fresh _ ih =>
    have here := named _ reply _ List.mem_cons_self hn
    have later := ih (fun c reply next h => named c reply next (List.mem_cons_of_mem _ h))
      (List.nodup_cons.2 ⟨fresh, once⟩) (List.cons_subset.2 ⟨here, sub⟩)
    rw [List.length_cons] at later
    omega

/-- Whether a page is found by a single request. -/
def Lists (list : Option String → Call) (fetch : Option String → Session (Page α)) : Prop :=
  ∀ cursor es out, (fetch cursor).Course es out → ∃ r, out = some r ∧ ∀ page, r = .ok page →
    ∃ reply, es = [.request (list cursor) (.ok reply)] ∧ (list cursor).next? reply = page.next

theorem lists_groups (cluster : Uuid) :
    Lists (.listGroups cluster) fun cursor => Session.call (.listGroups cluster cursor) := by
  intro cursor es out h
  obtain ⟨reply, rfl, rfl⟩ := Session.course_call.1 h
  refine ⟨reply, rfl, ?_⟩
  rintro page rfl
  exact ⟨page, rfl, rfl⟩

theorem lists_versions (application : Uuid) : Lists (.listVersions application)
    fun cursor => Session.call (.listVersions application cursor) := by
  intro cursor es out h
  obtain ⟨reply, rfl, rfl⟩ := Session.course_call.1 h
  refine ⟨reply, rfl, ?_⟩
  rintro page rfl
  exact ⟨page, rfl, rfl⟩

/-- A listing that does not come to an end leads on in each of its rounds. -/
theorem leadsOn_of_course {list : Option String → Call} {fetch : Option String → Session (Page α)}
    (hf : Lists list fetch) : ∀ {rounds : Nat} {seen : List String} {cursor : Option String}
      {es : List Event}, (collectFrom fetch rounds seen cursor).Course es none →
      LeadsOn list rounds seen cursor es
  | 0, seen, cursor, es, h => by
    obtain ⟨rfl, -⟩ := Session.course_unfinished.1 h
    exact .spent
  | rounds + 1, seen, cursor, es, h => by
    rcases Session.course_bind.1 h with ⟨as, bs, page, rfl, ha, hb⟩ | ⟨f, -, hout⟩ | ⟨ha, -⟩
    · obtain ⟨r, hr, served⟩ := hf _ _ _ ha
      obtain ⟨reply, rfl, named⟩ := served page (Option.some.inj hr).symm
      split at hb
      next => nomatch (Session.course_pure.1 hb).2
      next next hn =>
        split at hb
        next => nomatch (Session.course_log_pure.1 hb).2
        next fresh =>
          rcases Session.course_bind.1 (Session.course_log_bind.1 hb) with
            ⟨cs, ds, rest, rfl, -, hd⟩ | ⟨f, -, hout⟩ | ⟨hrest, -⟩
          · nomatch (Session.course_pure.1 hd).2
          · nomatch hout
          · exact .page reply (named.trans hn) fresh (leadsOn_of_course hf hrest)
    · nomatch hout
    · obtain ⟨r, hr, -⟩ := hf _ _ _ ha
      nomatch hr

theorem Observe.leadsOn_of_latestVersion {limit : Nat} {application : Uuid} {es : List Event}
    (h : (latestVersion limit application).Course es none) :
    LeadsOn (.listVersions application) limit [] none es := by
  rcases Session.course_bind.1 h with ⟨as, bs, summaries, rfl, -, hb⟩ | ⟨f, -, hout⟩ | ⟨h, -⟩
  · split at hb
    next number _ =>
      have reading : (Session.call (.getVersion application number) >>= fun v =>
        pure (some v)).Course bs none := hb
      rcases Session.course_call_bind.1 reading with ⟨v, rest, -, hv⟩ | ⟨f, -, hout⟩
      · nomatch (Session.course_pure.1 hv).2
      · nomatch hout
    next => nomatch (Session.course_pure.1 hb).2
  · nomatch hout
  · exact leadsOn_of_course (lists_versions application) h

namespace Deletion

variable {poll : PollSettings} {kind name : String} {look : Call}

/-- A resource is there at every look of a waiting that does not come to an end. -/
theorem looks_of_course {start : Nat} : ∀ {rounds : Nat} {es : List Event},
    (waitFrom poll kind name start (Session.call look) rounds).Course es none →
    ∃ replies : List look.Reply, replies.length = rounds ∧
      es = replies.map fun reply => .request look (.ok reply)
  | 0, es, h => by
    obtain ⟨rfl, -⟩ := Session.course_unfinished.1 h
    exact ⟨[], rfl, rfl⟩
  | rounds + 1, es, h => by
    obtain ⟨xs, lived, rfl⟩ := h
    obtain ⟨reply, rest, rfl, looked⟩ := Session.dialogue_outcome_call_bind.1 lived
    cases reply with
    | ok reply =>
      obtain ⟨-, rest, rfl, read⟩ := Session.dialogue_ask_bind.1 looked
      obtain ⟨now, rest, rfl, compared⟩ := Session.dialogue_ask_bind.1 read
      dsimp only at compared
      split at compared
      next =>
        obtain ⟨-, rest, -, -, hout⟩ := Session.dialogue_ask_bind.1 compared
        nomatch hout
      next =>
        obtain ⟨-, rest, rfl, again⟩ := Session.dialogue_ask_bind.1 compared
        obtain ⟨replies, rfl, hr⟩ := looks_of_course ⟨rest, again, rfl⟩
        exact ⟨reply :: replies, rfl, congrArg (_ :: ·) hr⟩
    | error f =>
      dsimp only at looked
      split at looked
      next => nomatch looked.2
      next =>
        obtain ⟨-, rest, rfl, said⟩ := Session.dialogue_ask_bind.1 looked
        obtain ⟨-, hout⟩ := Session.course_log.1 ⟨rest, said, rfl⟩
        nomatch hout

theorem looks_of_wait {limit : Nat} {es : List Event}
    (h : (wait limit poll kind name (Session.call look)).Course es none) :
    ∃ replies : List look.Reply, replies.length = limit ∧
      es = replies.map fun reply => .request look (.ok reply) := by
  obtain ⟨start, h⟩ := (Session.course_ask_bind fun _ => rfl).1 h
  exact looks_of_course h

end Deletion

namespace ApplyContext

/-- The requests of a step in which a loop uses up its rounds. -/
inductive Spent (c : ApplyContext) : ApplyStep → List Event → Prop where
  /-- The load balancer was deleted and is there at every look. -/
  | balancer {a : BalancerAction} {owner id} (ho : a.groupId = some owner)
      (hi : a.existingId = some id) (looks : List Balancer) (all : looks.length = c.limit) :
      Spent c (.deleteBalancer a) (.request (.deleteBalancer c.cluster.id owner id) (.ok ()) ::
        looks.map fun b => .request (.getBalancer c.cluster.id owner id) (.ok b))
  /-- The group was deleted and is there at every look. -/
  | group {a : GroupAction} {id} (hi : a.existingId = some id) (looks : List Group)
      (all : looks.length = c.limit) :
      Spent c (.deleteGroup a) (.request (.deleteGroup c.cluster.id id) (.ok ()) ::
        looks.map fun g => .request (.getGroup c.cluster.id id) (.ok g))
  /-- The listing of groups in which an owner is looked up leads on. -/
  | owner {a : BalancerAction} {es} (hp : a.groupId = none)
      (pages : LeadsOn (.listGroups c.cluster.id) c.limit [] none es) :
      Spent c (.createBalancer a) es
  /-- The listing of versions in which the latest is looked up leads on. -/
  | versions {a : ApplicationAction} {id es} (h : a.action ≠ .create)
      (hi : a.applicationId = some id)
      (pages : LeadsOn (.listVersions id) c.limit [] none es) : Spent c (.application a) es

variable {c : ApplyContext} {p : Progress} {es : List Event}

/-- **A step that is unfinished has used up the rounds of a loop.** -/
theorem Acts.spent {s : ApplyStep} (h : c.Acts s p es none) : c.Spent s es := by
  generalize hout : (none : Option (Except Failure Unit × Progress)) = out at h
  cases h with
  | balancerDeleted ho hi hw =>
    obtain rfl := Option.map_eq_none_iff.1 hout.symm
    obtain ⟨looks, all, rfl⟩ := Deletion.looks_of_wait hw
    exact .balancer ho hi looks all
  | groupDeleted hi hw =>
    obtain rfl := Option.map_eq_none_iff.1 hout.symm
    obtain ⟨looks, all, rfl⟩ := Deletion.looks_of_wait hw
    exact .group hi looks all
  | balancerOwnerless h ho hn =>
    obtain rfl := Option.map_eq_none_iff.1 hout.symm
    cases ho with
    | unfinished hc hp h => exact .owner hp (leadsOn_of_course (lists_groups c.cluster.id) h)
  | applicationUntargeted h ht hn =>
    obtain rfl := Option.map_eq_none_iff.1 hout.symm
    generalize hnone : (none : Option (Except Failure _ × Progress)) = o at ht
    cases ht with
    | based ha hi hb =>
      obtain rfl := Option.map_eq_none_iff.1 hnone.symm
      exact .versions ha hi (Observe.leadsOn_of_latestVersion hb)
    | created | refused | unidentified => nomatch hnone
  | _ => nomatch hout

end ApplyContext

/-! ## 2. Programs that come to a result -/

section

variable {I : Interface} {α β σ : Type} {answer : (op : I.Op) → σ → I.Reply op × σ}

/-- Whether a program comes to a result, whatever state its handler is in. -/
def Program.Returns (answer : (op : I.Op) → σ → I.Reply op × σ) (p : Program I α) : Prop :=
  ∀ t, (p.run answer t).1.isSome

theorem Program.returns_bind {p : Program I α} {f : α → Program I β} (hp : p.Returns answer)
    (hf : ∀ a, (f a).Returns answer) : (p.bind f).Returns answer := by
  intro t
  have first := hp t
  rw [run_bind]
  split
  next a t' _ => exact hf a t'
  next t' none =>
    rw [none] at first
    nomatch first

end

variable {σ α β : Type} {answer : (q : Question) → σ → q.Reply × σ}

namespace Session

/-- Whether a session comes to an outcome with a handler that is in some state. -/
def ReturnsFrom (answer : (q : Question) → σ → q.Reply × σ) (s : Session α) (t : σ) : Prop :=
  (s.result answer t).isSome

/-- Whether a session comes to an outcome, whatever state its handler is in. -/
def Returns (answer : (q : Question) → σ → q.Reply × σ) (s : Session α) : Prop :=
  ∀ t, s.ReturnsFrom answer t

theorem returns_pure (a : α) : Returns answer (pure a) := fun _ => rfl

theorem returns_throw (f : Failure) : Returns answer (throw f : Session α) := fun _ => rfl

theorem returns_call (c : Call) : Returns answer (call c) := fun _ => rfl

theorem returns_log (level : Level) (text : String) : Returns answer (log level text) :=
  fun _ => rfl

theorem returns_bind {s : Session α} {f : α → Session β} (hs : s.Returns answer)
    (hf : ∀ a, (f a).Returns answer) : (s >>= f).Returns answer := by
  refine Program.returns_bind hs fun r => ?_
  cases r with
  | ok a => exact hf a
  | error _ => exact fun _ => rfl

end Session

namespace Execution

/-- Whether a part of an apply comes to an outcome, whatever state its handler is in and whatever
progress it is begun with. -/
def Returns (answer : (q : Question) → σ → q.Reply × σ) (e : Execution α) : Prop :=
  ∀ p, Program.Returns (I := Session.interface) answer (e.run.run p)

variable {e : Execution α}

theorem returns_pure (a : α) : Returns answer (pure a) := fun _ _ => rfl

theorem returns_get : Returns answer (get : Execution Progress) := fun _ _ => rfl

theorem returns_note (change : Progress → Progress) : Returns answer (note change) :=
  fun _ _ => rfl

theorem returns_need (a : Option α) (missing : ApplyError) : Returns answer (need a missing) := by
  cases a <;> exact fun _ _ => rfl

theorem returns_bind {f : α → Execution β} (he : e.Returns answer)
    (hf : ∀ a, (f a).Returns answer) : (e >>= f).Returns answer := by
  refine fun p => Program.returns_bind (he p) ?_
  rintro ⟨_ | a, q⟩
  · exact fun _ => rfl
  · exact hf a q

theorem returns_session {s : Session α} (hs : s.Returns answer) : (session s).Returns answer :=
  fun _ => Program.returns_bind hs fun _ _ => rfl

theorem returns_inStage (stage : Stage) (resource : String) (he : e.Returns answer) :
    (inStage stage resource e).Returns answer := by
  refine fun p => Program.returns_bind (he p) ?_
  rintro ⟨_ | _, _⟩ <;> exact fun _ => rfl

end Execution

/-! ## 3. Surroundings in which every loop ends -/

/-- What makes surroundings end the loops of an apply: there are finitely many cursors, and the
clock never goes back, shows how long each pause was, and goes on while requests are answered. -/
structure Orderly (answer : (q : Question) → σ → q.Reply × σ) where
  /-- The cursors that pages name. -/
  cursors : List String
  named : ∀ c t reply next, (answer (.call c) t).1 = .ok reply → c.next? reply = some next →
    next ∈ cursors
  /-- What the clock shows. -/
  time : σ → Nat
  shown : ∀ t, (answer .clock t).1 = time t
  forward : ∀ q t, time t ≤ time (answer q t).2
  /-- How many milliseconds a request takes at least; it may take none. -/
  pace : Nat
  taken : ∀ c t, time t + pace ≤ time (answer (.call c) t).2
  slept : ∀ milliseconds t, time t + milliseconds ≤ time (answer (.sleep milliseconds) t).2

namespace Orderly

/-- Whether there are enough rounds: one more than there are cursors, and so many that the time for
a deletion is up before they are. -/
structure Enough (o : Orderly answer) (options : ApplyOptions) : Prop where
  pages : o.cursors.length < options.limit
  looks : options.poll.timeout ≤ (options.limit - 1) * (o.pace + options.poll.interval)

variable (o : Orderly answer)

theorem named_of_mem_events {s : Session α} {t : σ} {c : Call} {reply : c.Reply} {next : String}
    (h : .request c (.ok reply) ∈ s.events answer t) (hn : c.next? reply = some next) :
    next ∈ o.cursors := by
  obtain ⟨⟨q, given⟩, hx, he⟩ := List.mem_filterMap.1 h
  obtain ⟨t', ht⟩ := Program.exists_answer_of_mem_transcript hx
  cases q with
  | call c' =>
    cases he
    exact o.named c t' reply next ht.symm hn
  | loadLedger | saveLedger _ => nomatch he
  | _ => nomatch he

/-- A session that only a listing can leave without an outcome has one. -/
theorem returns_of_leadsOn {list : Option String → Call} {limit : Nat} {s : Session α}
    (hs : ∀ es, s.Course es none → LeadsOn list limit [] none es)
    (enough : o.cursors.length < limit) : s.Returns answer := by
  intro t
  rw [Session.ReturnsFrom, Option.isSome_iff_ne_none]
  intro hnone
  have pages := hs _ (Session.course_of_result hnone)
  have bound := pages.rounds_le (fun _ _ _ => o.named_of_mem_events) .nil (List.nil_subset _)
  rw [List.length_nil] at bound
  omega

section

variable {t : σ}

theorem returnsFrom_log_bind {level : Level} {text : String} {f : Unit → Session β}
    (h : ∀ t', o.time t ≤ o.time t' → (f ()).ReturnsFrom answer t') :
    (Session.log level text >>= f).ReturnsFrom answer t := h _ (o.forward (.log level text) t)

theorem returnsFrom_clock_bind {f : Nat → Session β}
    (h : ∀ t', o.time t ≤ o.time t' → (f (o.time t)).ReturnsFrom answer t') :
    (Session.ask .clock >>= f).ReturnsFrom answer t := by
  have shown := h _ (o.forward .clock t)
  rw [← o.shown t] at shown
  exact shown

theorem returnsFrom_sleep_bind {milliseconds : Nat} {f : Unit → Session β}
    (h : ∀ t', o.time t + milliseconds ≤ o.time t' → (f ()).ReturnsFrom answer t') :
    (Session.ask (.sleep milliseconds) >>= f).ReturnsFrom answer t := h _ (o.slept milliseconds t)

theorem returnsFrom_look_bind {look : Call} {f : Except Failure look.Reply → Session β}
    (h : ∀ reply t', o.time t + o.pace ≤ o.time t' → (f reply).ReturnsFrom answer t') :
    (Session.outcome (Session.call look) >>= f).ReturnsFrom answer t := h _ _ (o.taken look t)

variable {poll : PollSettings} {kind name : String} {look : Call} {start : Nat}

/-- A round of waiting comes to an outcome if the next one does, where there is one. -/
theorem returnsFrom_round {rounds : Nat}
    (rest : ∀ t', o.time t < start + poll.timeout →
      o.time t + (o.pace + poll.interval) ≤ o.time t' →
      (Deletion.waitFrom poll kind name start (Session.call look) rounds).ReturnsFrom answer t') :
    (Deletion.waitFrom poll kind name start (Session.call look) (rounds + 1)).ReturnsFrom
      answer t := by
  refine o.returnsFrom_look_bind fun reply t₁ looked => ?_
  cases reply with
  | ok _ =>
    refine o.returnsFrom_log_bind fun t₂ logged => o.returnsFrom_clock_bind fun t₃ read => ?_
    dsimp only
    split
    next => exact o.returnsFrom_log_bind fun t₄ _ => Session.returns_throw _ t₄
    next early => exact o.returnsFrom_sleep_bind fun t₄ slept => rest t₄ (by omega) (by omega)
  | error f =>
    dsimp only
    split
    next => exact Session.returns_throw f t₁
    next => exact o.returnsFrom_log_bind fun t₂ _ => Session.returns_log _ _ t₂

/-- **Waiting comes to an end** when the time is up before the rounds are. -/
theorem returnsFrom_waitFrom {rounds : Nat}
    (enough : start + poll.timeout ≤ o.time t + rounds * (o.pace + poll.interval)) :
    (Deletion.waitFrom poll kind name start (Session.call look) (rounds + 1)).ReturnsFrom
      answer t := by
  induction rounds generalizing t with
  | zero =>
    refine o.returnsFrom_round fun t' early _ => ?_
    omega
  | succ rounds ih =>
    refine o.returnsFrom_round fun t' _ later => ih ?_
    rw [Nat.succ_mul] at enough
    omega

end

variable {o}

theorem Enough.returns_wait {options : ApplyOptions} (h : o.Enough options) (kind name : String)
    (look : Call) :
    (Deletion.wait options.limit options.poll kind name (Session.call look)).Returns answer := by
  intro t
  have some_rounds : options.limit = options.limit - 1 + 1 := by
    have := h.pages
    omega
  refine o.returnsFrom_clock_bind fun t' begun => ?_
  rw [some_rounds]
  have looks := h.looks
  exact o.returnsFrom_waitFrom (by omega)

end Orderly

/-! ## 4. An apply in orderly surroundings -/

namespace ApplyContext

variable {c : ApplyContext} {o : Orderly answer} (enough : o.Enough c.toApplyOptions)

theorem returns_updateSettings : c.updateSettings.Returns answer := by
  refine returns_bind (returns_need _ _) fun settings => ?_
  refine returns_bind (returns_session ?_) fun _ => returns_note _
  exact Session.returns_bind (Session.returns_log _ _) fun _ => Session.returns_call _

theorem returns_createGroup (a : GroupAction) : (c.createGroup a).Returns answer := by
  refine returns_bind (returns_need _ _) fun config => ?_
  refine returns_bind (returns_session ?_) fun _ => returns_note _
  refine Session.returns_bind (Session.returns_log _ _) fun _ => ?_
  refine Session.returns_bind (Session.returns_call _) fun _ => ?_
  exact Session.returns_bind (Session.returns_log _ _) fun _ => Session.returns_pure _

include enough

theorem returns_deleteBalancer (a : BalancerAction) : (c.deleteBalancer a).Returns answer := by
  refine returns_bind (returns_need _ _) fun owner => ?_
  refine returns_bind (returns_need _ _) fun existing => ?_
  refine returns_bind (returns_session ?_) fun _ => returns_note _
  refine Session.returns_bind (Session.returns_log _ _) fun _ => ?_
  exact Session.returns_bind (Session.returns_call _) fun _ => enough.returns_wait _ _ _

theorem returns_deleteGroup (a : GroupAction) : (c.deleteGroup a).Returns answer := by
  refine returns_bind (returns_need _ _) fun existing => ?_
  refine returns_bind (returns_session ?_) fun _ => returns_note _
  refine Session.returns_bind (Session.returns_log _ _) fun _ => ?_
  exact Session.returns_bind (Session.returns_call _) fun _ => enough.returns_wait _ _ _

theorem returns_owner (a : BalancerAction) : (c.owner a).Returns answer := by
  refine returns_bind returns_get fun p => ?_
  split
  · exact returns_pure _
  · split
    · exact returns_pure _
    · refine returns_bind (returns_session ?_) fun groups => returns_need _ _
      refine Session.returns_bind (Session.returns_log _ _) fun _ => ?_
      exact o.returns_of_leadsOn (fun _ => leadsOn_of_course (lists_groups _)) enough.pages

theorem returns_createBalancer (a : BalancerAction) : (c.createBalancer a).Returns answer := by
  refine returns_bind (returns_need _ _) fun config => ?_
  refine returns_bind (returns_owner enough a) fun owner => ?_
  refine returns_bind (returns_session ?_) fun _ => returns_note _
  refine Session.returns_bind (Session.returns_log _ _) fun _ => ?_
  exact Session.returns_bind (Session.returns_call _) fun _ => Session.returns_log _ _

theorem returns_target (a : ApplicationAction) : (c.target a).Returns answer := by
  unfold target
  split
  · refine returns_bind (returns_session ?_) fun id => ?_
    · exact Session.returns_bind (Session.returns_log _ _) fun _ => Session.returns_call _
    · exact returns_bind (returns_note _) fun _ => returns_pure _
  · refine returns_bind (returns_need _ _) fun id => ?_
    refine returns_bind (returns_session ?_) fun base => returns_pure _
    exact o.returns_of_leadsOn (fun _ => Observe.leadsOn_of_latestVersion) enough.pages

theorem returns_application (a : ApplicationAction) : (c.application a).Returns answer := by
  refine returns_bind (returns_need _ _) fun config => ?_
  refine returns_bind (returns_target enough a) fun (id, base) => ?_
  refine returns_bind (returns_session ?_) fun version => returns_bind (returns_note _) fun _ => ?_
  · refine Session.returns_bind (Session.returns_call _) fun _ => ?_
    exact Session.returns_bind (Session.returns_log _ _) fun _ => Session.returns_pure _
  · split
    · refine returns_bind (returns_session ?_) fun _ => returns_note _
      exact Session.returns_bind (Session.returns_log _ _) fun _ => Session.returns_call _
    · exact returns_note _

/-- **A step comes to an outcome.** -/
theorem returns_act (s : ApplyStep) : (c.act s).Returns answer := by
  cases s with
  | updateSettings => exact returns_updateSettings
  | deleteBalancer a => exact returns_deleteBalancer enough a
  | deleteGroup a => exact returns_deleteGroup enough a
  | createGroup a => exact returns_createGroup a
  | createBalancer a => exact returns_createBalancer enough a
  | application a => exact returns_application enough a

theorem returns_takeAll : ∀ steps : List ApplyStep, (c.takeAll steps).Returns answer
  | [] => returns_pure ()
  | s :: rest => returns_bind (returns_inStage _ _ (returns_act enough s)) fun _ =>
      returns_takeAll rest

end ApplyContext

/-- Saving the ledger comes to an outcome. -/
theorem returns_finish (stages : Except Failure Unit × Progress) :
    (finish stages).Returns answer := by
  intro t
  obtain ⟨saved, -, hout⟩ := saves_of_finish (Session.course_of_run answer (finish stages) t)
  rw [Session.ReturnsFrom, hout]
  rfl

/-- **In orderly surroundings an apply comes to an outcome**, if it has enough rounds. -/
theorem returns_execute {o : Orderly answer} {options : ApplyOptions} (enough : o.Enough options)
    (desired : ClusterConfig) (plan : Plan) (ledger : SecretLedger) :
    (execute options desired plan ledger).Returns answer := by
  rw [execute_eq]
  refine Session.returns_bind (Session.returns_log _ _) fun _ => ?_
  refine Session.returns_bind ?_ fun stages => returns_finish stages
  have steps : (plan.context options desired).toApplyOptions = options := rfl
  exact Program.returns_bind (ApplyContext.returns_takeAll (steps ▸ enough) plan.script _)
    fun _ _ => rfl

end Converge
