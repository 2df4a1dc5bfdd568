import Converge.Proofs.Apply.SameRun
import Converge.Simulation.Stub
/-!
# Nothing is done before a deletion is over

A deletion that was accepted is only begun.  Until the resource is gone an apply does nothing but
look at it: any other request would meet a resource that still holds its name.  What this says is
about the order of requests and readings of the clock, so it is stated with `Mark`s, which are
those two and nothing else.

`Deletion.Waits` is everything that waiting can live through, with what it comes to.  The waiting is
found in an apply by going through the steps of its script (`ApplyContext.marks_resume`): a delete
request that succeeded stands in a step that deletes, and what stands after it is the waiting of
this step and then what the steps after it do.

Main statement: `execute_waits_for_deletions`.
-/

namespace Converge

open Execution

/-! ## 1. Requests and readings of the clock -/

/-- A request with the failure that was replied, if any, or a reading of the clock. -/
inductive Mark where
  | request (call : Call) (failure : Option Failure)
  | clock (reading : Nat)
  deriving DecidableEq, Repr

namespace Mark

/-- The mark that an exchange leaves, if it is a request or a reading of the clock. -/
def ofExchange : Exchange Session.interface → Option Mark
  | ⟨.call c, .ok _⟩ => some (.request c none)
  | ⟨.call c, .error f⟩ => some (.request c (some f))
  | ⟨.clock, reading⟩ => some (.clock reading)
  | _ => none

/-- Whether a request was sent. -/
def isRequest : Mark → Bool
  | .request _ _ => true
  | .clock _ => false

end Mark

/-- The marks that some exchanges leave. -/
def marks (xs : List (Exchange Session.interface)) : List Mark := xs.filterMap Mark.ofExchange

theorem marks_append (xs ys : List (Exchange Session.interface)) :
    marks (xs ++ ys) = marks xs ++ marks ys := List.filterMap_append

/-- The marks that a handler leaves with a session. -/
def Session.marks (answer : (q : Question) → σ → q.Reply × σ) (s : Session α) (t : σ) :
    List Mark :=
  Converge.marks (Program.transcript (I := Session.interface) answer s.run t)

/-- What is said and stored after the steps leaves no mark. -/
theorem marks_finish {stages : Except Failure Unit × Progress}
    {xs : List (Exchange Session.interface)} {out : Option (Except Failure ExecutionResult)}
    (h : Program.Dialogue (finish stages).run xs out) : marks xs = [] := by
  refine List.filterMap_eq_nil_iff.2 fun x hx => ?_
  have concludes := Program.Asks.of_mem_dialogue (concludes_finish stages) h hx
  obtain ⟨q, reply⟩ := x
  cases q with
  | call c => nomatch concludes
  | clock => nomatch concludes
  | _ => rfl

/-- The failure of a step is what the apply comes to. -/
theorem finish_error {f : Failure} {p : Progress} {xs : List (Exchange Session.interface)}
    {out : Option (Except Failure ExecutionResult)}
    (h : Program.Dialogue (finish (.error f, p)).run xs out) : out = some (.error f) := by
  obtain ⟨_, -, hout⟩ := saves_of_finish ⟨xs, h, rfl⟩
  exact hout

/-- A request that succeeded is an event. -/
theorem exists_event_of_mem_marks {call : Call} {xs : List (Exchange Session.interface)}
    (h : .request call none ∈ marks xs) :
    ∃ reply, .request call reply ∈ xs.filterMap Event.ofExchange := by
  obtain ⟨⟨q, reply⟩, hx, hm⟩ := List.mem_filterMap.1 h
  cases q with
  | call c =>
    obtain f | a := reply <;> cases hm
    exact ⟨.ok a, List.mem_filterMap.2 ⟨_, hx, rfl⟩⟩
  | _ => nomatch hm

/-! ## 2. Waiting -/

namespace Deletion

/-- A resource that can be deleted. -/
inductive Target where
  | group (cluster id : Uuid)
  | balancer (cluster owner id : Uuid)
  deriving DecidableEq, Repr

namespace Target

/-- The request that deletes it. -/
def delete : Target → Call
  | group cluster id => .deleteGroup cluster id
  | balancer cluster owner id => .deleteBalancer cluster owner id

/-- The request that reads it. -/
def look : Target → Call
  | group cluster id => .getGroup cluster id
  | balancer cluster owner id => .getBalancer cluster owner id

/-- What kind of resource it is, in words. -/
def kind : Target → String
  | group _ _ => "auto-scaling group"
  | balancer _ _ _ => "load balancer"

/-- Deletes it and waits until it is gone. -/
def remove (limit : Nat) (poll : PollSettings) (name : String) : Target → Session Unit
  | group cluster id => Deletion.group limit poll cluster name id
  | balancer cluster owner id => Deletion.balancer limit poll cluster owner name id

end Target

section

variable (poll : PollSettings) (look : Call) (kind name : String) (start : Nat)

/-- Everything that waiting can live through from the reading `start` of the clock on, with at most
`limit` looks, and what it comes to. -/
inductive Waits : Nat → List Mark → Option (Except Failure Unit) → Prop where
  /-- The first look that fails ends the waiting: the resource is gone. -/
  | gone {limit f} (h : f.isAuthFailure = false) :
      Waits (limit + 1) [.request look (some f)] (some (.ok ()))
  /-- A refused credential says nothing about the resource. -/
  | refused {limit f} (h : f.isAuthFailure = true) :
      Waits (limit + 1) [.request look (some f)] (some (.error f))
  /-- The time is up after a look that succeeds. -/
  | late {limit now} (h : poll.timeout ≤ now - start) :
      Waits (limit + 1) [.request look none, .clock now] (some (.error (.apply
        (.deletionTimeout kind name (UInt64.ofNat ((now - start) / 1000))))))
  /-- There is time for another look. -/
  | present {limit now ms out} (h : now - start < poll.timeout) (rest : Waits limit ms out) :
      Waits (limit + 1) (.request look none :: .clock now :: ms) out
  | unfinished : Waits 0 [] none

end

variable {poll : PollSettings} {look : Call} {kind name : String} {start limit : Nat}
  {ms : List Mark} {xs : List (Exchange Session.interface)} {out : Option (Except Failure Unit)}

/-- The only requests of the waiting are looks at the resource. -/
theorem Waits.looks (h : Waits poll look kind name start limit ms out) :
    ∀ call failure, .request call failure ∈ ms → call = look := by
  intro call failure hm
  induction h with
  | gone | refused =>
    cases List.mem_singleton.1 hm
    rfl
  | late =>
    cases (List.mem_cons.1 hm).resolve_right (by simp)
    rfl
  | present _ _ ih =>
    rcases List.mem_cons.1 hm with hm | hm
    · cases hm
      rfl
    · exact ih ((List.mem_cons.1 hm).resolve_left nofun)
  | unfinished => nomatch hm

/-- When no time is given there is one look. -/
theorem Waits.one_look (h : Waits poll look kind name start limit ms out)
    (none_given : poll.timeout = 0) (rounds : 0 < limit) : ms.countP (·.isRequest) = 1 := by
  cases h with
  | gone => rfl
  | refused => rfl
  | late => rfl
  | present h => omega
  | unfinished => omega

/-- **What waiting lives through**, by induction on the looks that are left. -/
theorem waits_of_dialogue : ∀ {limit : Nat} {xs : List (Exchange Session.interface)},
    Program.Dialogue (waitFrom poll kind name start (Session.call look) limit).run xs out →
    Waits poll look kind name start limit (marks xs) out
  | 0, xs, h => by
    obtain ⟨rfl, rfl⟩ := h
    exact .unfinished
  | limit + 1, xs, h => by
    obtain ⟨reply, rest, rfl, looked⟩ := Session.dialogue_outcome_call_bind.1 h
    cases reply with
    | ok a =>
      obtain ⟨-, rest, rfl, read⟩ := Session.dialogue_ask_bind.1 looked
      obtain ⟨now, rest, rfl, compared⟩ := Session.dialogue_ask_bind.1 read
      dsimp only at compared
      split at compared
      next up =>
        obtain ⟨-, rest, rfl, rfl, rfl⟩ := Session.dialogue_ask_bind.1 compared
        exact .late up
      next time =>
        obtain ⟨-, rest, rfl, again⟩ := Session.dialogue_ask_bind.1 compared
        have waits := waits_of_dialogue again
        exact .present (Nat.lt_of_not_le time) waits
    | error f =>
      dsimp only at looked
      split at looked
      next auth =>
        obtain ⟨rfl, rfl⟩ := looked
        exact .refused auth
      next other =>
        obtain ⟨-, rest, rfl, -, rest, rfl, rfl, rfl⟩ := Session.dialogue_ask_bind.1 looked
        exact .gone (Bool.eq_false_iff.2 other)

/-- A request that deletes is refused, or the clock is read and the waiting begins. -/
theorem marks_deleting {text : String} {delete : Call}
    (h : Program.Dialogue (do
      Session.info text
      let _ ← Session.call delete
      wait limit poll kind name (Session.call look) : Session Unit).run xs out) :
    (∃ f, marks xs = [.request delete (some f)]) ∨
    ∃ start waiting, marks xs = .request delete none :: .clock start :: waiting ∧
      Waits poll look kind name start limit waiting out := by
  obtain ⟨_, rest, rfl, requesting⟩ := Session.dialogue_ask_bind.1 h
  rcases Session.dialogue_call_bind.1 requesting with ⟨_, rest, rfl, begun⟩ | ⟨f, rfl, rfl⟩
  · obtain ⟨start, rest, rfl, waiting⟩ := Session.dialogue_ask_bind.1 begun
    exact .inr ⟨start, _, rfl, waits_of_dialogue waiting⟩
  · exact .inl ⟨f, rfl⟩

/-- **Deleting a resource**, whatever it is. -/
theorem marks_remove {target : Target}
    (h : Program.Dialogue (target.remove limit poll name).run xs out) :
    (∃ f, marks xs = [.request target.delete (some f)]) ∨
    ∃ start waiting, marks xs = .request target.delete none :: .clock start :: waiting ∧
      Waits poll target.look target.kind name start limit waiting out := by
  cases target <;> exact marks_deleting h

end Deletion

/-! ## 3. Steps that delete -/

namespace ApplyContext

/-- Which resource a step deletes, under which name, and what is reported of it. -/
inductive Deletes (c : ApplyContext) : ApplyStep → Deletion.Target → String →
    (ExecutionResult → ExecutionResult) → Prop where
  | balancer {a : BalancerAction} {owner id} (ho : a.groupId = some owner)
      (hi : a.existingId = some id) :
      Deletes c (.deleteBalancer a) (.balancer c.cluster.id owner id) a.name
        fun r => { r with deletedBalancers := r.deletedBalancers ++ [a.label] }
  | group {a : GroupAction} {id} (hi : a.existingId = some id) :
      Deletes c (.deleteGroup a) (.group c.cluster.id id) a.name
        fun r => { r with deletedGroups := r.deletedGroups ++ [a.name] }

variable {c : ApplyContext} {s : ApplyStep} {target : Deletion.Target} {name : String}
  {change : ExecutionResult → ExecutionResult}

theorem Deletes.act_eq (h : c.Deletes s target name change) :
    c.act s = (session (target.remove c.limit c.poll name) >>= fun _ => report change) := by
  cases h with
  | balancer ho hi =>
    rw [act, deleteBalancer, ho, hi]
    rfl
  | group hi =>
    rw [act, deleteGroup, hi]
    rfl

/-- A delete request is one of a step that deletes. -/
theorem Asks.deletes {m : Mutation} {reply : Except Failure target.delete.Reply}
    (h : c.Asks m (.request target.delete reply)) :
    ∃ name change, c.Deletes m.step target name change := by
  generalize he : Event.request target.delete reply = e at h
  cases h with
  | deleteBalancer ho hi =>
    obtain ⟨_, _⟩ | ⟨_, _, _⟩ := target <;> cases he
    exact ⟨_, _, .balancer ho hi⟩
  | deleteGroup hi =>
    obtain ⟨_, _⟩ | ⟨_, _, _⟩ := target <;> cases he
    exact ⟨_, _, .group hi⟩
  | _ => obtain ⟨_, _⟩ | ⟨_, _, _⟩ := target <;> cases he

/-- What a step that deletes a resource comes to is what the deletion comes to. -/
theorem Deletes.run_act (h : c.Deletes s target name change) (p : Progress) :
    (c.act s).run.run p = Program.bind (target.remove c.limit c.poll name).run fun r =>
      .done (noted p (fun _ p => p.reported change) r) := by
  rw [h.act_eq, Execution.run_bind]
  refine (Program.bind_assoc ..).trans (congrArg (Program.bind _) (funext fun r => ?_))
  cases r <;> rfl

/-- **A delete that succeeded stands in a step that deletes**, after it stands the waiting of this
step, and the step comes to what the waiting comes to. -/
theorem marks_act {p : Progress} {xs : List (Exchange Session.interface)} {before after : List Mark}
    {out : Option (Except Failure Unit × Progress)}
    (h : Program.Dialogue ((c.act s).run.run p) xs out)
    (hm : marks xs = before ++ .request target.delete none :: after) :
    ∃ name change start waiting waited, c.Deletes s target name change ∧
      after = .clock start :: waiting ∧
      Deletion.Waits c.poll target.look target.kind name start c.limit waiting waited ∧
      out = waited.map (noted p fun _ p => p.reported change) := by
  have deleted : .request target.delete none ∈ marks xs := hm ▸ List.mem_append_right _ (.head _)
  obtain ⟨reply, event⟩ := exists_event_of_mem_marks deleted
  obtain ⟨m, rfl, asks⟩ : ∃ m, s = m.step ∧ c.Asks m (.request target.delete reply) := by
    rcases (acts_of_course ⟨xs, h, rfl⟩).asked _ event with reads | asked
    · cases target <;> nomatch reads
    · exact asked
  obtain ⟨name, change, deletes⟩ := asks.deletes
  rw [deletes.run_act] at h
  -- The deletion is all that the step asks for.
  obtain ⟨waited, removing, rfl⟩ : ∃ waited,
      Program.Dialogue (target.remove c.limit c.poll name).run xs waited ∧
      out = waited.map (noted p fun _ p => p.reported change) := by
    rcases Program.dialogue_bind.1 h with ⟨ys, zs, r, rfl, removing, rfl, rfl⟩ | ⟨removing, rfl⟩
    · exact ⟨some r, (List.append_nil ys).symm ▸ removing, rfl⟩
    · exact ⟨none, removing, rfl⟩
  rcases Deletion.marks_remove removing with ⟨f, refused⟩ | ⟨start, waiting, begun, waits⟩
  · rw [refused] at deleted
    nomatch List.mem_singleton.1 deleted
  · rw [begun] at hm
    cases before with
    | nil =>
      have follows := (List.cons.inj hm).2.symm
      exact ⟨name, change, start, waiting, waited, deletes, follows, waits, rfl⟩
    | cons b before =>
      -- A second delete would have to stand among the looks.
      have second : .request target.delete none ∈ (.clock start :: waiting : List Mark) :=
        (List.cons.inj hm).2 ▸ List.mem_append_right _ (.head _)
      have look := waits.looks _ _ ((List.mem_cons.1 second).resolve_left nofun)
      cases target <;> nomatch look

/-! ## 4. A whole apply -/

/-- What is left of an apply that has made some progress: the steps that remain are taken, and
then it saves. -/
def resume (c : ApplyContext) (steps : List ApplyStep) (p : Progress) : Session ExecutionResult :=
  ExceptT.lift ((c.takeAll steps).run.run p) >>= finish

theorem run_resume (steps : List ApplyStep) (p : Progress) : (c.resume steps p).run =
    Program.bind ((c.takeAll steps).run.run p) fun stages => (finish stages).run :=
  Program.bind_assoc ..

/-- After a step that succeeds come the others, and after one that fails it only remains to
save. -/
theorem run_resume_cons (rest : List ApplyStep) (p : Progress) :
    (c.resume (s :: rest) p).run = Program.bind ((c.act s).run.run p) fun
      | (.ok _, q) => (c.resume rest q).run
      | (.error f, q) =>
        (finish (.error (.stage s.stage (s.resource c.cluster.name) f), q)).run := by
  have steps : c.takeAll (s :: rest) = c.take s >>= fun _ => c.takeAll rest := rfl
  rw [run_resume, steps, Execution.run_bind, take, run_inStage, Program.bind_assoc,
    Program.bind_assoc]
  refine congrArg (Program.bind _) (funext ?_)
  rintro ⟨f | u, q⟩
  · rfl
  · exact (run_resume rest q).symm

/-- How an apply goes on from the progress `p` after the waiting for a deletion in the step `s` has
come to an outcome: the marks that follow, and what the apply comes to. -/
inductive GoesOn (c : ApplyContext) (s : ApplyStep) (p : Progress)
    (change : ExecutionResult → ExecutionResult) (remaining : List ApplyStep) :
    Option (Except Failure Unit) → List Mark → Option (Except Failure ExecutionResult) → Prop where
  /-- The deletion is complete: it is reported, and the steps that remain are taken. -/
  | complete {xs out}
      (h : Program.Dialogue (c.resume remaining (p.reported change)).run xs out) :
      GoesOn c s p change remaining (some (.ok ())) (marks xs) out
  /-- Nothing more is requested, and the failure is that of the stage. -/
  | stopped {f} : GoesOn c s p change remaining (some (.error f)) []
      (some (.error (.stage s.stage (s.resource c.cluster.name) f)))
  | unfinished : GoesOn c s p change remaining none [] none

/-- What stands after a delete that succeeded, by induction over the steps. -/
theorem marks_resume {target : Deletion.Target} :
    ∀ {steps : List ApplyStep} {p : Progress} {xs : List (Exchange Session.interface)}
      {before after : List Mark} {out : Option (Except Failure ExecutionResult)},
      Program.Dialogue (c.resume steps p).run xs out →
      marks xs = before ++ .request target.delete none :: after →
      ∃ taken s remaining es q name change start waiting waited rest,
        steps = taken ++ s :: remaining ∧ c.ActsAll taken p es (some (.ok (), q)) ∧
        c.Deletes s target name change ∧ after = .clock start :: (waiting ++ rest) ∧
        Deletion.Waits c.poll target.look target.kind name start c.limit waiting waited ∧
        c.GoesOn s q change remaining waited rest out
  | [], p, xs, before, after, out, h, hm => by
    have finishing : Program.Dialogue (finish (.ok (), p)).run xs out := h
    rw [marks_finish finishing] at hm
    nomatch (List.append_eq_nil_iff.1 hm.symm).2
  | s :: steps, p, xs, before, after, out, h, hm => by
    rw [run_resume_cons] at h
    rcases Program.dialogue_bind.1 h with ⟨ys, zs, ⟨r, q⟩, rfl, acted, resumed⟩ | ⟨acted, rfl⟩
    · rw [marks_append] at hm
      rcases located_of_append_eq hm with ⟨tail, here, rfl⟩ | ⟨front, rfl, later⟩
      · obtain ⟨name, change, start, waiting, waited, deletes, rfl, waits, ho⟩ :=
          marks_act acted here
        refine ⟨[], s, steps, [], p, name, change, start, waiting, waited, marks zs, rfl, .nil,
          deletes, rfl, waits, ?_⟩
        obtain _ | f | u := waited <;> cases ho
        · rw [marks_finish resumed, finish_error resumed]
          exact .stopped
        · exact .complete resumed
      · cases r with
        | error f =>
          rw [marks_finish resumed] at later
          nomatch (List.append_eq_nil_iff.1 later.symm).2
        | ok u =>
          have succeeded := acts_of_course ⟨ys, acted, rfl⟩
          obtain ⟨taken, s', remaining, es, q', name, change, start, waiting, waited, rest, rfl,
            others, follows⟩ := marks_resume resumed later
          exact ⟨s :: taken, s', remaining, _, q', name, change, start, waiting, waited, rest, rfl,
            .cons succeeded others, follows⟩
    · obtain ⟨name, change, start, waiting, waited, deletes, follows, waits, ho⟩ :=
        marks_act acted hm
      obtain rfl : waited = none := Option.map_eq_none_iff.1 ho.symm
      exact ⟨[], s, steps, [], p, name, change, start, waiting, none, [], rfl, .nil, deletes,
        by rw [List.append_nil, follows], waits, .unfinished⟩

end ApplyContext

/-- **Nothing is done before a deletion is over.**  Whatever the control plane, the store and the
clock reply, after a delete request that succeeded an apply reads the clock and waits: it only sends
requests that look at the resource that was deleted, and reads the clock after each that succeeds.
The first look that fails decides what the waiting comes to, or the clock where the time is up; and
that decides how the apply goes on. -/
theorem execute_waits_for_deletions (options : ApplyOptions) (desired : ClusterConfig) (plan : Plan)
    (ledger : SecretLedger) (answer : (q : Question) → σ → q.Reply × σ) (t : σ)
    {target : Deletion.Target} {before after : List Mark}
    (deleted : (execute options desired plan ledger).marks answer t =
      before ++ .request target.delete none :: after) :
    ∃ taken s remaining es p name change start waiting waited rest,
      plan.script = taken ++ s :: remaining ∧
      (plan.context options desired).ActsAll taken (.start ledger) es (some (.ok (), p)) ∧
      (plan.context options desired).Deletes s target name change ∧
      after = .clock start :: (waiting ++ rest) ∧
      (∀ call failure, .request call failure ∈ waiting → call = target.look) ∧
      Deletion.Waits options.poll target.look target.kind name start options.limit waiting waited ∧
      (options.poll.timeout = 0 → 0 < options.limit → waiting.countP (·.isRequest) = 1) ∧
      (plan.context options desired).GoesOn s p change remaining waited rest
        ((execute options desired plan ledger).result answer t) := by
  have lived : Program.Dialogue (execute options desired plan ledger).run
      (Program.transcript (I := Session.interface) answer _ t)
      ((execute options desired plan ledger).result answer t) :=
    Program.dialogue_transcript (I := Session.interface) answer _ t
  unfold Session.marks at deleted
  generalize Program.transcript (I := Session.interface) answer _ t = xs at lived deleted
  generalize (execute options desired plan ledger).result answer t = out at lived ⊢
  rw [execute_eq] at lived
  obtain ⟨_, resumed, rfl, taking⟩ := Session.dialogue_ask_bind.1 lived
  obtain ⟨taken, s, remaining, es, p, name, change, start, waiting, waited, rest, script, done,
    deletes, follows, waits, goesOn⟩ := ApplyContext.marks_resume taking deleted
  exact ⟨taken, s, remaining, es, p, name, change, start, waiting, waited, rest, script, done,
    deletes, follows, waits.looks, waits, waits.one_look, goesOn⟩

namespace Recreating

def group : GroupConfig := ⟨"web", "is1a", "/plan/1", 1, 1, [], []⟩

def desired : ClusterConfig := ⟨"prod", none, [group], [], []⟩

/-- A plan that recreates a group. -/
def plan : Plan where
  cluster := ⟨"prod", .ofNat 1⟩
  clusterAction := .noop
  groupActions := [⟨"web", .recreate, some (.ofNat 2), []⟩]
  balancerActions := []
  applicationActions := []
  warnings := []
  createdAt := .epoch

def target : Deletion.Target := .group (.ofNat 1) (.ofNat 2)

/-- A control plane where the group is seen for as many looks as the state says. -/
def answer : (q : Question) → Stub Nat → q.Reply × Stub Nat :=
  Stub.answer fun c looks =>
    match c, looks with
    | .getGroup _ id, looks + 1 => (.ok ⟨id, "web", "is1a", "/plan/1", 1, 1, [], []⟩, looks)
    | .deleteGroup _ _, looks => (.ok (), looks)
    | .createGroup _ _, looks => (.ok (.ofNat 3), looks)
    | _, looks => (.error (.notFound "resource"), looks)

def applying : Session ExecutionResult := execute ⟨.standard, false, 5⟩ desired plan .empty

/-- What stands after the delete: the group is still there at the first look and gone at the
second, and only then it is created again. -/
def after : List Mark :=
  [.clock 0, .request target.look none, .clock 0,
    .request target.look (some (.notFound "resource")),
    .request (.createGroup (.ofNat 1) group.request) none]

theorem waits_for_web :
    applying.marks answer ⟨1, []⟩ = [] ++ .request target.delete none :: after ∧
    ∃ taken s remaining es p name change start waiting waited rest,
      plan.script = taken ++ s :: remaining ∧
      (plan.context ⟨.standard, false, 5⟩ desired).ActsAll taken (.start .empty) es
        (some (.ok (), p)) ∧
      (plan.context ⟨.standard, false, 5⟩ desired).Deletes s target name change ∧
      after = .clock start :: (waiting ++ rest) ∧
      (∀ call failure, .request call failure ∈ waiting → call = target.look) ∧
      Deletion.Waits .standard target.look target.kind name start 5 waiting waited ∧
      (PollSettings.standard.timeout = 0 → 0 < 5 → waiting.countP (·.isRequest) = 1) ∧
      (plan.context ⟨.standard, false, 5⟩ desired).GoesOn s p change remaining waited rest
        (applying.result answer ⟨1, []⟩) := by
  have deleted : applying.marks answer ⟨1, []⟩ = [] ++ .request target.delete none :: after := by
    decide +kernel
  exact ⟨deleted, execute_waits_for_deletions ⟨.standard, false, 5⟩ desired plan .empty answer
    ⟨1, []⟩ deleted⟩

end Recreating

end Converge
