import Converge.Apply.Execute
import Converge.Proofs.Dialogue
/-!
# The course of an operation

Of all that a session asks, only its requests and what it does with the stored ledger leave
traces: the log, the clock and the pauses between two looks do not.  `Session.Course s es out`
says that `s` can live through the events `es` and come to `out`, whatever was logged and whatever
the clock showed.  `Execution.Course` says the same of a part of an apply that is begun with some
progress.

Each way of putting operations together gets one lemma (`course_bind` and the like), so that the
course of an operation is found by going through its text.  `Session.Reads` singles out the
sessions that change nothing.

Main statements: `Session.course_of_run` (what a handler lives through with a session is one of
its courses), `Execution.course_bind` and `Execution.course_inStage`.
-/

namespace Converge

/-- A request or a use of the stored ledger, with the reply. -/
inductive Event where
  | request (call : Call) (reply : Except Failure call.Reply)
  | loaded (reply : Except Failure SecretLedger)
  | saved (ledger : SecretLedger) (reply : Except Failure Unit)

namespace Event

/-- The event that an exchange is, unless it leaves no trace. -/
def ofExchange : Exchange Session.interface → Option Event
  | ⟨.call c, reply⟩ => some (.request c reply)
  | ⟨.loadLedger, reply⟩ => some (.loaded reply)
  | ⟨.saveLedger l, reply⟩ => some (.saved l reply)
  | _ => none

/-- Whether a request that changes something was sent. -/
def mutates : Event → Bool
  | .request c _ => c.mutates
  | _ => false

/-- Whether a request was sent that only reads. -/
def reads : Event → Bool
  | .request c _ => !c.mutates
  | _ => false

/-- Whether a request was sent. -/
def isRequest : Event → Bool
  | .request _ _ => true
  | _ => false

theorem isRequest_of_reads {e : Event} (h : e.reads) : e.isRequest := by
  cases e <;> first | rfl | nomatch h

/-- The failure that was replied. -/
def failure? : Event → Option Failure
  | .request _ (.error f) => some f
  | .loaded (.error f) => some f
  | .saved _ (.error f) => some f
  | _ => none

/-- Whether anything but a failure was replied. -/
def succeeded (e : Event) : Bool := e.failure?.isNone

end Event

/-- The requests among some events that change something. -/
def mutating (es : List Event) : List Event := es.filter (·.mutates)

@[simp] theorem mutating_append (es fs : List Event) :
    mutating (es ++ fs) = mutating es ++ mutating fs := List.filter_append ..

theorem mutating_eq_nil_of_reads {es : List Event} (h : ∀ e ∈ es, e.reads) :
    mutating es = [] := by
  refine List.filter_eq_nil_iff.2 fun e he => ?_
  have := h e he
  cases e <;> simp_all [Event.reads, Event.mutates]

/-- A failure that stands among the replies, or one that an apply raises by itself. -/
def Accounted (es : List Event) (f : Failure) : Prop :=
  (∃ e ∈ es, e.failure? = some f) ∨ ∃ a, f = .apply a

theorem Accounted.mono {es fs : List Event} {f : Failure} (h : Accounted es f)
    (sub : ∀ e ∈ es, e ∈ fs) : Accounted fs f := by
  rcases h with ⟨e, he, hf⟩ | h
  · exact .inl ⟨e, sub e he, hf⟩
  · exact .inr h

/-! ## 1. Programs -/

/-- The events that a program can live through, and what it comes to. -/
def Program.Course (p : Program Session.interface α) (es : List Event) (out : Option α) : Prop :=
  ∃ xs, p.Dialogue xs out ∧ xs.filterMap Event.ofExchange = es

namespace Program

variable {es : List Event}

theorem course_done {a : α} {out : Option α} :
    Course (.done a) es out ↔ es = [] ∧ out = some a := by
  constructor
  · rintro ⟨_, ⟨rfl, rfl⟩, rfl⟩
    exact ⟨rfl, rfl⟩
  · rintro ⟨rfl, rfl⟩
    exact ⟨[], ⟨rfl, rfl⟩, rfl⟩

theorem course_unfinished {out : Option α} :
    Course .unfinished es out ↔ es = [] ∧ out = none := by
  constructor
  · rintro ⟨_, ⟨rfl, rfl⟩, rfl⟩
    exact ⟨rfl, rfl⟩
  · rintro ⟨rfl, rfl⟩
    exact ⟨[], ⟨rfl, rfl⟩, rfl⟩

theorem course_bind {p : Program Session.interface α} {f : α → Program Session.interface β}
    {out : Option β} : Course (p.bind f) es out ↔
      (∃ as bs a, es = as ++ bs ∧ p.Course as (some a) ∧ (f a).Course bs out) ∨
      (p.Course es none ∧ out = none) := by
  constructor
  · rintro ⟨xs, hx, rfl⟩
    rcases dialogue_bind.1 hx with ⟨ys, zs, a, rfl, hp, hf⟩ | ⟨hp, hout⟩
    · exact .inl ⟨_, _, a, List.filterMap_append, ⟨ys, hp, rfl⟩, ⟨zs, hf, rfl⟩⟩
    · exact .inr ⟨⟨xs, hp, rfl⟩, hout⟩
  · rintro (⟨_, _, a, rfl, ⟨ys, hp, rfl⟩, ⟨zs, hf, rfl⟩⟩ | ⟨⟨xs, hp, rfl⟩, hout⟩)
    · exact ⟨ys ++ zs, dialogue_bind.2 (.inl ⟨ys, zs, a, rfl, hp, hf⟩), List.filterMap_append⟩
    · exact ⟨xs, dialogue_bind.2 (.inr ⟨hp, hout⟩), rfl⟩

theorem course_question {q : Question} {out : Option q.Reply} :
    Course (question (I := Session.interface) q) es out ↔
      ∃ reply, es = (Event.ofExchange ⟨q, reply⟩).toList ∧ out = some reply := by
  have one : ∀ x, [x].filterMap Event.ofExchange = (Event.ofExchange x).toList := by
    intro x
    cases hx : Event.ofExchange x <;> simp [hx]
  constructor
  · rintro ⟨xs, hx, rfl⟩
    obtain ⟨reply, rfl, rfl⟩ := dialogue_question.1 hx
    exact ⟨reply, one _, rfl⟩
  · rintro ⟨reply, rfl, rfl⟩
    exact ⟨_, dialogue_question.2 ⟨reply, rfl, rfl⟩, one _⟩

end Program

/-! ## 2. Sessions -/

namespace Session

variable {s : Session α} {es : List Event}

/-- The events that a session can live through, and its outcome: none, when the limit on the
rounds of a loop is used up. -/
def Course (s : Session α) (es : List Event) (out : Option (Except Failure α)) : Prop :=
  Program.Course s.run es out

/-- The events that a handler lives through with a session. -/
def events (answer : (q : Question) → σ → q.Reply × σ) (s : Session α) (t : σ) : List Event :=
  (Program.transcript (I := Session.interface) answer s.run t).filterMap Event.ofExchange

/-- What a session comes to with a handler. -/
def result (answer : (q : Question) → σ → q.Reply × σ) (s : Session α) (t : σ) :
    Option (Except Failure α) :=
  (Program.run (I := Session.interface) answer s.run t).1

/-- **Every run is a course.** -/
theorem course_of_run (answer : (q : Question) → σ → q.Reply × σ) (s : Session α) (t : σ) :
    s.Course (s.events answer t) (s.result answer t) :=
  ⟨_, Program.dialogue_transcript answer s.run t, rfl⟩

theorem course_of_result {answer : (q : Question) → σ → q.Reply × σ} {s : Session α} {t : σ}
    {out : Option (Except Failure α)} (h : s.result answer t = out) :
    s.Course (s.events answer t) out :=
  h ▸ course_of_run answer s t

/-- What is asked first comes first, whether it leaves a trace or not. -/
theorem dialogue_ask_bind {q : Question} {f : q.Reply → Session β}
    {xs : List (Exchange Session.interface)} {out : Option (Except Failure β)} :
    Program.Dialogue (ask q >>= f).run xs out ↔
      ∃ reply rest, xs = ⟨q, reply⟩ :: rest ∧ Program.Dialogue (f reply).run rest out := Iff.rfl

theorem dialogue_outcome_call_bind {c : Call} {f : Except Failure c.Reply → Session β}
    {xs : List (Exchange Session.interface)} {out : Option (Except Failure β)} :
    Program.Dialogue (outcome (call c) >>= f).run xs out ↔
      ∃ reply rest, xs = ⟨.call c, reply⟩ :: rest ∧ Program.Dialogue (f reply).run rest out :=
  Iff.rfl

theorem dialogue_call_bind {c : Call} {f : c.Reply → Session β}
    {xs : List (Exchange Session.interface)} {out : Option (Except Failure β)} :
    Program.Dialogue (call c >>= f).run xs out ↔
      (∃ a rest, xs = ⟨.call c, .ok a⟩ :: rest ∧ Program.Dialogue (f a).run rest out) ∨
      (∃ g, xs = [⟨.call c, .error g⟩] ∧ out = some (.error g)) := by
  constructor
  · rintro ⟨g | a, rest, rfl, h⟩
    · obtain ⟨rfl, rfl⟩ := h
      exact .inr ⟨g, rfl, rfl⟩
    · exact .inl ⟨a, rest, rfl, h⟩
  · rintro (⟨a, rest, rfl, h⟩ | ⟨g, rfl, rfl⟩)
    · exact ⟨.ok a, rest, rfl, h⟩
    · exact ⟨.error g, [], rfl, rfl, rfl⟩

theorem course_pure {a : α} {out : Option (Except Failure α)} :
    Course (pure a) es out ↔ es = [] ∧ out = some (.ok a) := Program.course_done

theorem course_throw {f : Failure} {out : Option (Except Failure α)} :
    Course (throw f) es out ↔ es = [] ∧ out = some (.error f) := Program.course_done

theorem course_unfinished {out : Option (Except Failure α)} :
    Course unfinished es out ↔ es = [] ∧ out = none := Program.course_unfinished

/-- **Courses of sessions compose**: the first succeeds and the second goes on, or the first fails
or is unfinished and the second is not begun. -/
theorem course_bind {f : α → Session β} {out : Option (Except Failure β)} :
    Course (s >>= f) es out ↔
      (∃ as bs a, es = as ++ bs ∧ s.Course as (some (.ok a)) ∧ (f a).Course bs out) ∨
      (∃ e, s.Course es (some (.error e)) ∧ out = some (.error e)) ∨
      (s.Course es none ∧ out = none) := by
  unfold Course
  refine Program.course_bind.trans ?_
  constructor
  · rintro (⟨as, bs, a | a, rfl, hs, hf⟩ | h)
    · obtain ⟨rfl, rfl⟩ := Program.course_done.1 hf
      rw [List.append_nil]
      exact .inr (.inl ⟨a, hs, rfl⟩)
    · exact .inl ⟨as, bs, a, rfl, hs, hf⟩
    · exact .inr (.inr h)
  · rintro (⟨as, bs, a, rfl, hs, hf⟩ | ⟨e, hs, rfl⟩ | h)
    · exact .inl ⟨as, bs, .ok a, rfl, hs, hf⟩
    · exact .inl ⟨es, [], .error e, (List.append_nil es).symm, hs,
        Program.course_done.2 ⟨rfl, rfl⟩⟩
    · exact .inr h

/-- What a session went through that succeeded in two parts. -/
theorem course_bind_ok {f : α → Session β} {b : β} :
    Course (s >>= f) es (some (.ok b)) ↔
      ∃ as bs a, es = as ++ bs ∧ s.Course as (some (.ok a)) ∧ (f a).Course bs (some (.ok b)) := by
  rw [course_bind]
  constructor
  · rintro (h | ⟨_, -, h⟩ | ⟨-, h⟩)
    · exact h
    · nomatch h
    · nomatch h
  · exact .inl

theorem course_call {c : Call} {out : Option (Except Failure c.Reply)} :
    Course (call c) es out ↔ ∃ reply, es = [.request c reply] ∧ out = some reply :=
  Program.course_question

/-- What follows a request: nothing, when it fails. -/
theorem course_call_bind {c : Call} {f : c.Reply → Session β}
    {out : Option (Except Failure β)} : Course (call c >>= f) es out ↔
      (∃ a rest, es = .request c (.ok a) :: rest ∧ (f a).Course rest out) ∨
      (∃ g, es = [.request c (.error g)] ∧ out = some (.error g)) := by
  rw [course_bind]
  simp only [course_call]
  constructor
  · rintro (⟨as, bs, a, rfl, ⟨reply, rfl, ho⟩, hf⟩ | ⟨g, ⟨reply, rfl, ho⟩, rfl⟩ |
      ⟨⟨reply, rfl, ho⟩, rfl⟩) <;> cases ho
    · exact .inl ⟨a, bs, rfl, hf⟩
    · exact .inr ⟨g, rfl, rfl⟩
  · rintro (⟨a, rest, rfl, hf⟩ | ⟨g, rfl, rfl⟩)
    · exact .inl ⟨[_], rest, a, rfl, ⟨_, rfl, rfl⟩, hf⟩
    · exact .inr (.inl ⟨g, ⟨_, rfl, rfl⟩, rfl⟩)

theorem course_loadLedger {out : Option (Except Failure SecretLedger)} :
    Course loadLedger es out ↔ ∃ reply, es = [.loaded reply] ∧ out = some reply :=
  Program.course_question

theorem course_saveLedger {l : SecretLedger} {out : Option (Except Failure Unit)} :
    Course (saveLedger l) es out ↔ ∃ reply, es = [.saved l reply] ∧ out = some reply :=
  Program.course_question

theorem course_lift {p : Program Session.interface α} {out : Option (Except Failure α)} :
    Course (ExceptT.lift p) es out ↔ ∃ o, p.Course es o ∧ out = o.map .ok := by
  have h : (ExceptT.lift p : Session α).run = p.bind fun a => .done (.ok a) := rfl
  unfold Course
  rw [h, Program.course_bind]
  constructor
  · rintro (⟨as, bs, a, rfl, hp, hf⟩ | ⟨hp, rfl⟩)
    · obtain ⟨rfl, rfl⟩ := Program.course_done.1 hf
      rw [List.append_nil]
      exact ⟨some a, hp, rfl⟩
    · exact ⟨none, hp, rfl⟩
  · rintro ⟨_ | a, hp, rfl⟩
    · exact .inr ⟨hp, rfl⟩
    · exact .inl ⟨es, [], a, (List.append_nil es).symm, hp, Program.course_done.2 ⟨rfl, rfl⟩⟩

/-- The failure of a session that is only looked at does not end what comes after it. -/
theorem course_outcome {out : Option (Except Failure (Except Failure α))} :
    Course (outcome s) es out ↔ ∃ o, s.Course es o ∧ out = o.map .ok := course_lift

/-- A question that leaves no trace. -/
theorem course_ask {q : Question} (silent : ∀ reply, Event.ofExchange ⟨q, reply⟩ = none)
    {out : Option (Except Failure q.Reply)} :
    Course (ask q) es out ↔ es = [] ∧ ∃ reply, out = some (.ok reply) := by
  refine course_lift.trans ?_
  constructor
  · rintro ⟨o, ho, rfl⟩
    obtain ⟨reply, rfl, rfl⟩ := Program.course_question.1 ho
    rw [silent]
    exact ⟨rfl, reply, rfl⟩
  · rintro ⟨rfl, reply, rfl⟩
    exact ⟨some reply, Program.course_question.2 ⟨reply, by rw [silent]; rfl, rfl⟩, rfl⟩

/-- What follows a question that leaves no trace. -/
theorem course_ask_bind {q : Question} (silent : ∀ reply, Event.ofExchange ⟨q, reply⟩ = none)
    {f : q.Reply → Session β} {out : Option (Except Failure β)} :
    Course (ask q >>= f) es out ↔ ∃ reply, (f reply).Course es out := by
  rw [course_bind]
  constructor
  · rintro (⟨as, bs, a, rfl, ha, hf⟩ | ⟨e, he, -⟩ | ⟨hn, -⟩)
    · obtain ⟨rfl, -⟩ := (course_ask silent).1 ha
      exact ⟨a, hf⟩
    · obtain ⟨-, _, h⟩ := (course_ask silent).1 he
      nomatch h
    · obtain ⟨-, _, h⟩ := (course_ask silent).1 hn
      nomatch h
  · rintro ⟨reply, hf⟩
    exact .inl ⟨[], es, reply, rfl, (course_ask silent).2 ⟨rfl, reply, rfl⟩, hf⟩

theorem course_log_bind {level : Level} {text : String} {f : Unit → Session β}
    {out : Option (Except Failure β)} :
    Course (log level text >>= f) es out ↔ (f ()).Course es out := by
  refine (course_ask_bind fun _ => rfl).trans ⟨?_, fun h => ⟨(), h⟩⟩
  rintro ⟨_, h⟩
  exact h

theorem course_log {level : Level} {text : String} {out : Option (Except Failure Unit)} :
    Course (log level text) es out ↔ es = [] ∧ out = some (.ok ()) := by
  refine (course_ask fun _ => rfl).trans ⟨?_, ?_⟩
  · rintro ⟨rfl, _, rfl⟩
    exact ⟨rfl, rfl⟩
  · rintro ⟨rfl, rfl⟩
    exact ⟨rfl, (), rfl⟩

theorem course_log_pure {level : Level} {text : String} {a : α}
    {out : Option (Except Failure α)} :
    Course (log level text >>= fun _ => pure a) es out ↔ es = [] ∧ out = some (.ok a) :=
  course_log_bind.trans course_pure

end Session

/-! ## 3. Parts of an apply -/

namespace Execution

variable {e : Execution α} {p : Progress} {es : List Event}

/-- The events that a part of an apply can live through when it is begun with some progress, its
outcome and the progress after it. -/
def Course (e : Execution α) (p : Progress) (es : List Event)
    (out : Option (Except Failure α × Progress)) : Prop :=
  Program.Course (e.run.run p) es out

theorem course_pure {a : α} {out : Option (Except Failure α × Progress)} :
    Course (pure a) p es out ↔ es = [] ∧ out = some (.ok a, p) := Program.course_done

theorem course_throw {f : Failure} {out : Option (Except Failure α × Progress)} :
    Course (throw f) p es out ↔ es = [] ∧ out = some (.error f, p) := Program.course_done

/-- **Courses of the parts of an apply compose**: what the first has done when it fails is
kept. -/
theorem course_bind {f : α → Execution β} {out : Option (Except Failure β × Progress)} :
    Course (e >>= f) p es out ↔
      (∃ as bs a q, es = as ++ bs ∧ e.Course p as (some (.ok a, q)) ∧ (f a).Course q bs out) ∨
      (∃ g q, e.Course p es (some (.error g, q)) ∧ out = some (.error g, q)) ∨
      (e.Course p es none ∧ out = none) := by
  unfold Course
  refine Program.course_bind.trans ?_
  constructor
  · rintro (⟨as, bs, ⟨g | a, q⟩, rfl, he, hf⟩ | h)
    · obtain ⟨rfl, rfl⟩ := Program.course_done.1 hf
      rw [List.append_nil]
      exact .inr (.inl ⟨g, q, he, rfl⟩)
    · exact .inl ⟨as, bs, a, q, rfl, he, hf⟩
    · exact .inr (.inr h)
  · rintro (⟨as, bs, a, q, rfl, he, hf⟩ | ⟨g, q, he, rfl⟩ | h)
    · exact .inl ⟨as, bs, (.ok a, q), rfl, he, hf⟩
    · exact .inl ⟨es, [], (.error g, q), (List.append_nil es).symm, he,
        Program.course_done.2 ⟨rfl, rfl⟩⟩
    · exact .inr h

theorem course_session {s : Session α} {out : Option (Except Failure α × Progress)} :
    Course (session s) p es out ↔ ∃ o, s.Course es o ∧ out = o.map (·, p) := by
  have h : (session s).run.run p = s.run.bind fun r => .done (r, p) := rfl
  unfold Course
  rw [h, Program.course_bind]
  constructor
  · rintro (⟨as, bs, r, rfl, hs, hf⟩ | ⟨hs, rfl⟩)
    · obtain ⟨rfl, rfl⟩ := Program.course_done.1 hf
      rw [List.append_nil]
      exact ⟨some r, hs, rfl⟩
    · exact ⟨none, hs, rfl⟩
  · rintro ⟨_ | r, hs, rfl⟩
    · exact .inr ⟨hs, rfl⟩
    · exact .inl ⟨es, [], r, (List.append_nil es).symm, hs, Program.course_done.2 ⟨rfl, rfl⟩⟩

/-- What follows an operation on the cluster. -/
theorem course_session_bind {s : Session α} {f : α → Execution β}
    {out : Option (Except Failure β × Progress)} :
    Course (session s >>= f) p es out ↔
      (∃ as bs a, es = as ++ bs ∧ s.Course as (some (.ok a)) ∧ (f a).Course p bs out) ∨
      (∃ g, s.Course es (some (.error g)) ∧ out = some (.error g, p)) ∨
      (s.Course es none ∧ out = none) := by
  rw [course_bind]
  simp only [course_session]
  constructor
  · rintro (⟨as, bs, a, q, rfl, ⟨_ | r, hs, ho⟩, hf⟩ | ⟨g, q, ⟨_ | r, hs, ho⟩, rfl⟩ |
      ⟨⟨_ | r, hs, ho⟩, rfl⟩) <;> cases ho
    · exact .inl ⟨as, bs, a, rfl, hs, hf⟩
    · exact .inr (.inl ⟨g, hs, rfl⟩)
    · exact .inr (.inr ⟨hs, rfl⟩)
  · rintro (⟨as, bs, a, rfl, hs, hf⟩ | ⟨g, hs, rfl⟩ | ⟨hs, rfl⟩)
    · exact .inl ⟨as, bs, a, p, rfl, ⟨_, hs, rfl⟩, hf⟩
    · exact .inr (.inl ⟨g, p, ⟨_, hs, rfl⟩, rfl⟩)
    · exact .inr (.inr ⟨⟨_, hs, rfl⟩, rfl⟩)

/-- What an operation comes to when its success is noted: its failure and the progress before it,
or the progress that the note makes of that. -/
def noted (p : Progress) (change : α → Progress → Progress) (r : Except Failure α) :
    Except Failure Unit × Progress :=
  match r with
  | .ok a => (.ok (), change a p)
  | .error f => (.error f, p)

/-- An operation on the cluster whose success is noted. -/
theorem course_session_note {s : Session α} {change : α → Progress → Progress}
    {out : Option (Except Failure Unit × Progress)} :
    Course (session s >>= fun a => note (change a)) p es out ↔
      ∃ o, s.Course es o ∧ out = o.map (noted p change) := by
  rw [course_session_bind]
  constructor
  · rintro (⟨as, bs, a, rfl, hs, hf⟩ | ⟨g, hs, rfl⟩ | ⟨hs, rfl⟩)
    · obtain ⟨rfl, rfl⟩ := Program.course_done.1 hf
      rw [List.append_nil]
      exact ⟨_, hs, rfl⟩
    · exact ⟨_, hs, rfl⟩
    · exact ⟨_, hs, rfl⟩
  · rintro ⟨_ | g | a, hs, rfl⟩
    · exact .inr (.inr ⟨hs, rfl⟩)
    · exact .inr (.inl ⟨g, hs, rfl⟩)
    · exact .inl ⟨es, [], a, (List.append_nil es).symm, hs, Program.course_done.2 ⟨rfl, rfl⟩⟩

theorem course_note {change : Progress → Progress}
    {out : Option (Except Failure Unit × Progress)} :
    Course (note change) p es out ↔ es = [] ∧ out = some (.ok (), change p) :=
  Program.course_done

theorem course_note_bind {change : Progress → Progress} {f : Unit → Execution β}
    {out : Option (Except Failure β × Progress)} :
    Course (note change >>= f) p es out ↔ (f ()).Course (change p) es out := Iff.rfl

theorem course_get_bind {f : Progress → Execution β}
    {out : Option (Except Failure β × Progress)} :
    Course (get >>= f) p es out ↔ (f p).Course p es out := Iff.rfl

theorem course_need {a : Option α} {missing : ApplyError}
    {out : Option (Except Failure α × Progress)} : Course (need a missing) p es out ↔
      es = [] ∧ out = some (a.elim (.error (.apply missing)) .ok, p) := by
  cases a with
  | none => exact course_throw
  | some a => exact course_pure

/-- What follows something that has to be there. -/
theorem course_need_bind {a : Option α} {missing : ApplyError} {f : α → Execution β}
    {out : Option (Except Failure β × Progress)} : Course (need a missing >>= f) p es out ↔
      (∃ x, a = some x ∧ (f x).Course p es out) ∨
      (a = none ∧ es = [] ∧ out = some (.error (.apply missing), p)) := by
  cases a with
  | none =>
    constructor
    · intro h
      exact .inr ⟨rfl, Program.course_done.1 h⟩
    · rintro (⟨x, hx, -⟩ | ⟨-, h⟩)
      · nomatch hx
      · exact Program.course_done.2 h
  | some a =>
    constructor
    · intro h
      exact .inl ⟨a, rfl, h⟩
    · rintro (⟨x, hx, h⟩ | ⟨hx, -⟩)
      · obtain rfl := Option.some.inj hx
        exact h
      · nomatch hx

/-- A failure with the stage and the resource that it stopped. -/
def staged (stage : Stage) (resource : String) : Except Failure α × Progress →
    Except Failure α × Progress
  | (.ok a, p) => (.ok a, p)
  | (.error f, p) => (.error (.stage stage resource f), p)

theorem run_inStage (stage : Stage) (resource : String) (e : Execution α) (p : Progress) :
    (inStage stage resource e).run.run p =
      (e.run.run p).bind fun r => .done (staged stage resource r) := by
  refine congrArg (Program.bind (e.run.run p)) (funext ?_)
  rintro ⟨_ | _, _⟩ <;> rfl

/-- Only the failure is said differently in a stage. -/
theorem course_inStage {stage : Stage} {resource : String}
    {out : Option (Except Failure α × Progress)} : Course (inStage stage resource e) p es out ↔
      ∃ o, e.Course p es o ∧ out = o.map (staged stage resource) := by
  unfold Course
  rw [run_inStage, Program.course_bind]
  constructor
  · rintro (⟨as, bs, r, rfl, he, hf⟩ | ⟨he, rfl⟩)
    · obtain ⟨rfl, rfl⟩ := Program.course_done.1 hf
      rw [List.append_nil]
      exact ⟨some r, he, rfl⟩
    · exact ⟨none, he, rfl⟩
  · rintro ⟨_ | r, he, rfl⟩
    · exact .inr ⟨he, rfl⟩
    · exact .inl ⟨es, [], r, (List.append_nil es).symm, he, Program.course_done.2 ⟨rfl, rfl⟩⟩

end Execution

/-! ## 4. Sessions that only read -/

/-- Whatever a session lives through, it sends requests that only read, and a failure of it is
one that was replied or that it raises itself. -/
def Session.Reads (s : Session α) : Prop :=
  ∀ es out, s.Course es out → (∀ e ∈ es, e.reads) ∧ ∀ f, out = some (.error f) → Accounted es f

namespace Session

variable {s : Session α}

theorem reads_pure (a : α) : Reads (pure a) := by
  intro es out h
  obtain ⟨rfl, rfl⟩ := course_pure.1 h
  exact ⟨fun _ h => (nomatch h), fun _ h => nomatch h⟩

theorem reads_throw (a : ApplyError) : Reads (throw (.apply a) : Session α) := by
  intro es out h
  obtain ⟨rfl, rfl⟩ := course_throw.1 h
  refine ⟨fun _ h => (nomatch h), fun f hf => .inr ⟨a, ?_⟩⟩
  exact (Except.error.inj (Option.some.inj hf)).symm

theorem reads_unfinished : Reads (unfinished : Session α) := by
  intro es out h
  obtain ⟨rfl, rfl⟩ := course_unfinished.1 h
  exact ⟨fun _ h => (nomatch h), fun _ h => nomatch h⟩

theorem reads_call {c : Call} (hc : c.mutates = false) : Reads (call c) := by
  intro es out h
  obtain ⟨reply, rfl, rfl⟩ := course_call.1 h
  constructor
  · intro e he
    obtain rfl := List.mem_singleton.1 he
    simp [Event.reads, hc]
  · intro f hf
    obtain rfl := Option.some.inj hf
    exact .inl ⟨_, List.mem_singleton.2 rfl, rfl⟩

theorem reads_bind {f : α → Session β} (hs : s.Reads) (hf : ∀ a, (f a).Reads) :
    (s >>= f).Reads := by
  intro es out h
  rcases course_bind.1 h with ⟨as, bs, a, rfl, h1, h2⟩ | ⟨e, h1, rfl⟩ | ⟨h1, rfl⟩
  · obtain ⟨r1, -⟩ := hs _ _ h1
    obtain ⟨r2, e2⟩ := hf a _ _ h2
    constructor
    · intro e he
      rcases List.mem_append.1 he with he | he
      · exact r1 e he
      · exact r2 e he
    · intro g hg
      exact (e2 g hg).mono fun e he => List.mem_append_right _ he
  · obtain ⟨r1, e1⟩ := hs _ _ h1
    refine ⟨r1, fun g hg => e1 g ?_⟩
    obtain rfl := Except.error.inj (Option.some.inj hg)
    rfl
  · exact ⟨(hs _ _ h1).1, fun _ h => nomatch h⟩

theorem reads_ask_bind {q : Question} (silent : ∀ reply, Event.ofExchange ⟨q, reply⟩ = none)
    {f : q.Reply → Session β} (hf : ∀ a, (f a).Reads) : (ask q >>= f).Reads := by
  intro es out h
  obtain ⟨reply, h⟩ := (course_ask_bind silent).1 h
  exact hf reply es out h

theorem reads_log (level : Level) (text : String) : (log level text).Reads := by
  intro es out h
  obtain ⟨rfl, rfl⟩ := course_log.1 h
  exact ⟨fun _ h => (nomatch h), fun _ h => nomatch h⟩

theorem reads_log_bind {level : Level} {text : String} {f : Unit → Session β}
    (hf : (f ()).Reads) : (log level text >>= f).Reads :=
  reads_ask_bind (fun _ => rfl) fun _ => hf

/-- The outcome of a session that only reads may be looked at, and its failure thrown again. -/
theorem reads_outcome_bind {f : Except Failure α → Session β} (hs : s.Reads)
    (hok : ∀ a, (f (.ok a)).Reads) (herr : ∀ g, (f (.error g)).Reads ∨ f (.error g) = throw g) :
    (outcome s >>= f).Reads := by
  intro es out h
  rcases course_bind.1 h with ⟨as, bs, r, rfl, h1, h2⟩ | ⟨e, h1, rfl⟩ | ⟨h1, rfl⟩
  · obtain ⟨_ | o, hs', ho⟩ := course_outcome.1 h1
    · nomatch ho
    obtain rfl := Except.ok.inj (Option.some.inj ho)
    obtain ⟨r1, e1⟩ := hs _ _ hs'
    have later : (∀ e ∈ bs, e.reads) →
        (∀ g, out = some (.error g) → Accounted (as ++ bs) g) →
        (∀ e ∈ as ++ bs, e.reads) ∧ ∀ g, out = some (.error g) → Accounted (as ++ bs) g :=
      fun r2 e2 => ⟨fun e he => (List.mem_append.1 he).elim (r1 e) (r2 e), e2⟩
    have through : (f r).Reads →
        (∀ e ∈ as ++ bs, e.reads) ∧ ∀ g, out = some (.error g) → Accounted (as ++ bs) g :=
      fun hr => later (hr _ _ h2).1 fun g hg =>
        ((hr _ _ h2).2 g hg).mono fun e he => List.mem_append_right _ he
    cases r with
    | ok a => exact through (hok a)
    | error g =>
      rcases herr g with hr | hr
      · exact through hr
      · obtain ⟨rfl, rfl⟩ := course_throw.1 (hr ▸ h2)
        refine later (fun _ h => (nomatch h)) fun k hk => ?_
        obtain rfl := Except.error.inj (Option.some.inj hk)
        exact (e1 g rfl).mono fun e he => List.mem_append_left _ he
  · obtain ⟨_ | o, -, ho⟩ := course_outcome.1 h1 <;> nomatch ho
  · obtain ⟨o, hs', ho⟩ := course_outcome.1 h1
    exact ⟨(hs _ _ hs').1, fun _ h => nomatch h⟩

/-- The requests of a session that only reads change nothing. -/
theorem Reads.mutating_eq_nil {es : List Event} {out : Option (Except Failure α)}
    (hs : s.Reads) (h : s.Course es out) : mutating es = [] :=
  mutating_eq_nil_of_reads (hs _ _ h).1

/-! ## 5. Sessions with events of one kind -/

/-- Whatever a session lives through, its events have a property. -/
def Only (P : Event → Prop) (s : Session α) : Prop := ∀ es out, s.Course es out → ∀ e ∈ es, P e

variable {P : Event → Prop}

theorem only_pure (a : α) : Only P (pure a : Session α) := by
  intro es out h
  obtain ⟨rfl, rfl⟩ := course_pure.1 h
  exact fun _ h => nomatch h

theorem only_throw (f : Failure) : Only P (throw f : Session α) := by
  intro es out h
  obtain ⟨rfl, rfl⟩ := course_throw.1 h
  exact fun _ h => nomatch h

theorem only_call {c : Call} (h : ∀ reply, P (.request c reply)) : Only P (call c) := by
  intro es out hc
  obtain ⟨reply, rfl, rfl⟩ := course_call.1 hc
  exact List.forall_mem_singleton.2 (h reply)

theorem only_log (level : Level) (text : String) : Only P (log level text) := by
  intro es out h
  obtain ⟨rfl, rfl⟩ := course_log.1 h
  exact fun _ h => nomatch h

theorem only_bind {f : α → Session β} (hs : s.Only P) (hf : ∀ a, (f a).Only P) :
    (s >>= f).Only P := by
  intro es out h
  rcases course_bind.1 h with ⟨as, bs, a, rfl, h1, h2⟩ | ⟨e, h1, rfl⟩ | ⟨h1, rfl⟩
  · exact fun e he => (List.mem_append.1 he).elim (hs _ _ h1 e) (hf a _ _ h2 e)
  · exact hs _ _ h1
  · exact hs _ _ h1

theorem only_mapM {f : α → Session β} (hf : ∀ a, (f a).Only P) :
    ∀ l : List α, (l.mapM f).Only P
  | [] => by
    rw [List.mapM_nil]
    exact only_pure _
  | a :: rest => by
    rw [List.mapM_cons]
    exact only_bind (hf a) fun _ => only_bind (only_mapM hf rest) fun _ => only_pure _

theorem only_foldlM {f : β → α → Session β} (hf : ∀ b a, (f b a).Only P) :
    ∀ (l : List α) (b : β), (l.foldlM f b).Only P
  | [], b => only_pure b
  | a :: rest, b => only_bind (hf b a) fun b' => only_foldlM hf rest b'

/-- The events of a session that only reads are requests that only read. -/
theorem Reads.only (h : s.Reads) : s.Only fun e => e.reads := fun es out hc => (h es out hc).1

end Session

end Converge
