import Mathlib.Data.List.Forall2
import Mathlib.Data.Option.Defs
import Converge.Proofs.Course
/-!
# Two runs of a program

What a program does not make use of is seen when it is run twice, with replies that differ in
just that.  `Program.Alike same R p q` says that `p` and `q` ask the same questions for as long as
they get replies that are the `same` to them, and that what they come to is then related by `R`; a
program for which two such replies make no difference is alike to itself.  Nothing is said about
who replies: any two handlers will do whose replies stay the same (`Program.AnswersAlike`).

As with courses, each way of putting operations together has one lemma, for sessions and for the
parts of an apply.  Where a program asks nothing to which the same replies can be different ones,
there is nothing to show (`Program.alike_self`); `Program.Asks` is about what it asks.

Main statements: `Program.Alike.run` (what two handlers live through with two programs that are
alike) and `Session.alike_bind`.
-/

namespace Converge

namespace Program

variable {I : Interface} {α β γ δ σ τ : Type}

/-! ## 1. What is asked -/

/-- Whether a program asks only questions with a property. -/
def Asks (P : I.Op → Prop) : Program I α → Prop
  | .done _ => True
  | .ask op next => P op ∧ ∀ reply, (next reply).Asks P
  | .unfinished => True

variable {P Q : I.Op → Prop}

theorem Asks.mono (h : ∀ op, P op → Q op) : ∀ {p : Program I α}, p.Asks P → p.Asks Q
  | .done _, _ => trivial
  | .ask _ _, ⟨hop, hnext⟩ => ⟨h _ hop, fun reply => (hnext reply).mono h⟩
  | .unfinished, _ => trivial

theorem asks_bind {f : α → Program I β} (hf : ∀ a, (f a).Asks P) :
    ∀ {p : Program I α}, p.Asks P → (p.bind f).Asks P
  | .done a, _ => hf a
  | .ask _ _, ⟨hop, hnext⟩ => ⟨hop, fun reply => asks_bind hf (hnext reply)⟩
  | .unfinished, _ => trivial

theorem asks_question {op : I.Op} (h : P op) : (question op).Asks P := ⟨h, fun _ => trivial⟩

/-- A program that may fail asks nothing after its failure. -/
theorem asks_run_bind {ε : Type} {m : ExceptT ε (Program I) α} {f : α → ExceptT ε (Program I) β}
    (hm : Asks P m.run) (hf : ∀ a, Asks P (f a).run) : Asks P (m >>= f).run := by
  refine asks_bind (fun r => ?_) hm
  cases r with
  | ok a => exact hf a
  | error e => trivial

/-- A program whose questions are replaced asks what the programs ask that take their place. -/
theorem asks_translate {J : Interface} {R : J.Op → Prop}
    {find : (op : I.Op) → Program J (I.Reply op)} (h : ∀ op, P op → (find op).Asks R) :
    ∀ {p : Program I α}, p.Asks P → (p.translate find).Asks R
  | .done _, _ => trivial
  | .ask op _, ⟨hop, hnext⟩ => asks_bind (fun reply => asks_translate h (hnext reply)) (h op hop)
  | .unfinished, _ => trivial

theorem asks_true : ∀ p : Program I α, p.Asks fun _ => True
  | .done _ => trivial
  | .ask _ next => ⟨trivial, fun reply => asks_true (next reply)⟩
  | .unfinished => trivial

/-- Every exchange of a dialogue has such a question. -/
theorem Asks.of_mem_dialogue {x : Exchange I} {out : Option α} :
    ∀ {p : Program I α} {xs : List (Exchange I)}, p.Asks P → p.Dialogue xs out → x ∈ xs → P x.op
  | .done _, _, _, ⟨rfl, _⟩, hx => nomatch hx
  | .ask _ _, _, ⟨hop, hnext⟩, ⟨reply, rest, rfl, h⟩, hx => by
    rcases List.mem_cons.1 hx with rfl | hx
    · exact hop
    · exact (hnext reply).of_mem_dialogue h hx
  | .unfinished, _, _, ⟨rfl, _⟩, hx => nomatch hx

/-! ## 2. Programs that are alike -/

variable {same : (op : I.Op) → I.Reply op → I.Reply op → Prop}

/-- Whether two programs ask the same questions and come to related results, for as long as their
replies are the same. -/
inductive Alike (same : (op : I.Op) → I.Reply op → I.Reply op → Prop) (R : α → β → Prop) :
    Program I α → Program I β → Prop where
  | done {a b} (h : R a b) : Alike same R (.done a) (.done b)
  | ask {op next next'}
      (h : ∀ reply reply', same op reply reply' → Alike same R (next reply) (next' reply')) :
      Alike same R (.ask op next) (.ask op next')
  | unfinished : Alike same R .unfinished .unfinished

/-- Programs that are alike go on alike when what follows their results does. -/
theorem Alike.bind {R : α → β → Prop} {S : γ → δ → Prop} {p : Program I α} {q : Program I β}
    {f : α → Program I γ} {g : β → Program I δ} (h : Alike same R p q)
    (hfg : ∀ a b, R a b → Alike same S (f a) (g b)) : Alike same S (p.bind f) (q.bind g) := by
  induction h with
  | done hab => exact hfg _ _ hab
  | ask _ ih => exact .ask ih
  | unfinished => exact .unfinished

theorem Alike.mono {R R' : α → β → Prop} {p : Program I α} {q : Program I β}
    (h : Alike same R p q) (hr : ∀ a b, R a b → R' a b) : Alike same R' p q := by
  induction h with
  | done hab => exact .done (hr _ _ hab)
  | ask _ ih => exact .ask ih
  | unfinished => exact .unfinished

/-- A program is alike to itself when it asks nothing to which different replies are the same. -/
theorem alike_self (sharp : ∀ op, P op → ∀ reply reply', same op reply reply' → reply = reply') :
    ∀ {p : Program I α}, p.Asks P → Alike same Eq p p
  | .done _, _ => .done rfl
  | .ask op next, ⟨hop, hnext⟩ => .ask fun reply reply' h => by
    obtain rfl := sharp op hop reply reply' h
    exact alike_self sharp (hnext reply)
  | .unfinished, _ => .unfinished

/-! ## 3. Two handlers -/

/-- The state of a handler after it was asked some questions. -/
def after (answer : (op : I.Op) → σ → I.Reply op × σ) (ops : List I.Op) (s : σ) : σ :=
  ops.foldl (fun s op => (answer op s).2) s

/-- Whether two handlers give replies that are the same, whatever they were both asked before. -/
def AnswersAlike (same : (op : I.Op) → I.Reply op → I.Reply op → Prop)
    (answer : (op : I.Op) → σ → I.Reply op × σ) (answer' : (op : I.Op) → τ → I.Reply op × τ)
    (s : σ) (t : τ) : Prop :=
  ∀ ops op, same op (answer op (after answer ops s)).1 (answer' op (after answer' ops t)).1

variable {answer : (op : I.Op) → σ → I.Reply op × σ}
  {answer' : (op : I.Op) → τ → I.Reply op × τ} {s : σ} {t : τ}

theorem AnswersAlike.next (h : AnswersAlike same answer answer' s t) (op : I.Op) :
    AnswersAlike same answer answer' (answer op s).2 (answer' op t).2 :=
  fun ops q => h (op :: ops) q

/-- The questions that a program asks a handler. -/
def questions (answer : (op : I.Op) → σ → I.Reply op × σ) (p : Program I α) (s : σ) :
    List I.Op :=
  (p.transcript answer s).map (·.op)

/-- **Handlers that answer alike** are asked the same questions by programs that are alike, and get
them to related results. -/
theorem Alike.run {R : α → β → Prop} {p : Program I α} {q : Program I β}
    (h : Alike same R p q) (answers : AnswersAlike same answer answer' s t) :
    Option.Rel R (p.run answer s).1 (q.run answer' t).1 ∧
      p.questions answer s = q.questions answer' t := by
  induction h generalizing s t with
  | done hab => exact ⟨.some hab, rfl⟩
  | @ask op next next' _ ih =>
    obtain ⟨results, asked⟩ := ih _ _ (answers [] op) (answers.next op)
    exact ⟨results, congrArg (op :: ·) asked⟩
  | unfinished => exact ⟨.none, rfl⟩

end Program

/-! ## 4. Sessions -/

/-- Whether two outcomes are the same failure or related results. -/
inductive Outcomes (R : α → β → Prop) : Except Failure α → Except Failure β → Prop where
  | ok {a b} (h : R a b) : Outcomes R (.ok a) (.ok b)
  | error (f : Failure) : Outcomes R (.error f) (.error f)

theorem outcomes_of_eq {r r' : Except Failure α} (h : r = r') : Outcomes Eq r r' := by
  subst h
  cases r with
  | ok a => exact .ok rfl
  | error f => exact .error f

theorem eq_of_outcomes {r r' : Except Failure α} (h : Outcomes Eq r r') : r = r' := by
  cases h with
  | ok h => rw [h]
  | error f => rfl

namespace Session

/-- Whether a session asks only questions with a property. -/
def Asks (P : Question → Prop) (s : Session α) : Prop :=
  Program.Asks (I := Session.interface) P s.run

section

variable {P Q : Question → Prop} {s : Session α}

theorem Asks.mono (hs : s.Asks P) (h : ∀ q, P q → Q q) : s.Asks Q :=
  Program.Asks.mono (I := Session.interface) h hs

theorem asks_pure (a : α) : Asks P (pure a : Session α) := trivial

theorem asks_throw (f : Failure) : Asks P (throw f : Session α) := trivial

theorem asks_unfinished : Asks P (unfinished : Session α) := trivial

theorem asks_bind {f : α → Session β} (hs : s.Asks P) (hf : ∀ a, (f a).Asks P) :
    (s >>= f).Asks P :=
  Program.asks_run_bind hs hf

theorem asks_call {c : Call} (h : P (.call c)) : (call c).Asks P := ⟨h, fun _ => trivial⟩

theorem asks_ask {q : Question} (h : P q) : (ask q).Asks P := ⟨h, fun _ => trivial⟩

theorem asks_log {level : Level} {text : String} (h : P (.log level text)) :
    (log level text).Asks P := asks_ask h

theorem asks_outcome (hs : s.Asks P) : (outcome s).Asks P := by
  refine Program.asks_bind (fun r => ?_) hs
  trivial

theorem asks_mapM {f : α → Session β} (hf : ∀ a, (f a).Asks P) :
    ∀ l : List α, (l.mapM f).Asks P
  | [] => by
    rw [List.mapM_nil]
    exact asks_pure _
  | a :: rest => by
    rw [List.mapM_cons]
    exact asks_bind (hf a) fun _ => asks_bind (asks_mapM hf rest) fun _ => asks_pure _

theorem asks_foldlM {f : β → α → Session β} (hf : ∀ b a, (f b a).Asks P) :
    ∀ (l : List α) (b : β), (l.foldlM f b).Asks P
  | [], b => asks_pure b
  | a :: rest, b => asks_bind (hf b a) fun b' => asks_foldlM hf rest b'

theorem asks_forM {f : α → Session PUnit} (hf : ∀ a, (f a).Asks P) :
    ∀ l : List α, (l.forM f).Asks P
  | [] => asks_pure _
  | a :: rest => asks_bind (hf a) fun _ => asks_forM hf rest

end

variable {same : (q : Question) → q.Reply → q.Reply → Prop} {α β γ δ : Type}

/-- Whether two sessions ask the same questions and have related outcomes, for as long as their
replies are the same. -/
def Alike (same : (q : Question) → q.Reply → q.Reply → Prop) (R : α → β → Prop) (s : Session α)
    (t : Session β) : Prop :=
  Program.Alike (I := Session.interface) same (Outcomes R) s.run t.run

variable {R : α → β → Prop} {S : γ → δ → Prop} {s : Session α} {t : Session β}

theorem alike_pure {a : α} {b : β} (h : R a b) : Alike same R (pure a) (pure b) := .done (.ok h)

theorem alike_throw (f : Failure) : Alike same R (throw f) (throw f) := .done (.error f)

/-- **Sessions that are alike go on alike.** -/
theorem alike_bind {f : α → Session γ} {g : β → Session δ} (h : Alike same R s t)
    (hfg : ∀ a b, R a b → Alike same S (f a) (g b)) : Alike same S (s >>= f) (t >>= g) := by
  refine Program.Alike.bind h fun r r' hr => ?_
  cases hr with
  | ok hab => exact hfg _ _ hab
  | error f => exact alike_throw f

/-- What comes to the same is followed by the same. -/
theorem alike_bind_eq {s t : Session α} {f : α → Session γ} {g : α → Session δ}
    (h : Alike same Eq s t) (hfg : ∀ a, Alike same S (f a) (g a)) :
    Alike same S (s >>= f) (t >>= g) :=
  alike_bind h fun a _ hab => hab ▸ hfg a

theorem alike_call {c : Call} {R : c.Reply → c.Reply → Prop}
    (h : ∀ reply reply', same (.call c) reply reply' → Outcomes R reply reply') :
    Alike same R (call c) (call c) :=
  .ask fun reply reply' hr => .done (h reply reply' hr)

/-- A session is alike to itself when it asks nothing to which different replies are the same. -/
theorem alike_self {P : Question → Prop} {s : Session α}
    (sharp : ∀ q, P q → ∀ reply reply', same q reply reply' → reply = reply') (h : s.Asks P) :
    Alike same Eq s s :=
  (Program.alike_self (I := Session.interface) sharp h).mono fun _ _ => outcomes_of_eq

/-- Outcomes that are looked at are alike. -/
theorem alike_outcome (h : Alike same R s t) :
    Alike same (Outcomes R) (outcome s) (outcome t) :=
  Program.Alike.bind h fun _ _ hr => .done (.ok hr)

theorem alike_mapM {f : α → Session γ} {g : β → Session δ}
    (hfg : ∀ a b, R a b → Alike same S (f a) (g b)) {l : List α} {m : List β}
    (h : List.Forall₂ R l m) : Alike same (List.Forall₂ S) (l.mapM f) (m.mapM g) := by
  induction h with
  | nil =>
    rw [List.mapM_nil, List.mapM_nil]
    exact alike_pure .nil
  | cons hab _ ih =>
    rw [List.mapM_cons, List.mapM_cons]
    refine alike_bind (hfg _ _ hab) fun c d hcd => ?_
    exact alike_bind ih fun cs ds hcds => alike_pure (.cons hcd hcds)

theorem Alike.mono {R' : α → β → Prop} (h : Alike same R s t) (hr : ∀ a b, R a b → R' a b) :
    Alike same R' s t :=
  Program.Alike.mono h fun _ _ ho => by
    cases ho with
    | ok hab => exact .ok (hr _ _ hab)
    | error f => exact .error f

end Session

/-! ## 5. Parts of an apply -/

namespace Execution

variable {same : (q : Question) → q.Reply → q.Reply → Prop} {α β γ δ : Type}

/-- Whether a part of an apply asks only questions with a property. -/
def Asks (P : Question → Prop) (e : Execution α) : Prop :=
  ∀ p, Program.Asks (I := Session.interface) P (e.run.run p)

section

variable {P Q : Question → Prop} {e : Execution α}

theorem Asks.mono (he : e.Asks P) (h : ∀ q, P q → Q q) : e.Asks Q :=
  fun p => Program.Asks.mono (I := Session.interface) h (he p)

theorem asks_pure (a : α) : Asks P (pure a : Execution α) := fun _ => trivial

theorem asks_bind {f : α → Execution β} (he : e.Asks P) (hf : ∀ a, (f a).Asks P) :
    (e >>= f).Asks P := by
  refine fun p => Program.asks_bind ?_ (he p)
  rintro ⟨_ | a, q⟩
  · trivial
  · exact hf a q

theorem asks_session {s : Session α} (hs : s.Asks P) : (session s).Asks P := by
  refine fun _ => Program.asks_bind (fun r => ?_) hs
  trivial

theorem asks_note (change : Progress → Progress) : (note change).Asks P := fun _ => trivial

theorem asks_get : Asks P (get : Execution Progress) := fun _ => trivial

theorem asks_need (a : Option α) (missing : ApplyError) : (need a missing).Asks P := by
  cases a <;> exact fun _ => trivial

end

/-- Whether two parts of an apply ask the same questions, have related outcomes and have done the
same, for as long as their replies are the same and they are begun with the same progress. -/
def Alike (same : (q : Question) → q.Reply → q.Reply → Prop) (R : α → β → Prop)
    (e : Execution α) (f : Execution β) : Prop :=
  ∀ p, Program.Alike (I := Session.interface) same
    (fun x y => Outcomes R x.1 y.1 ∧ x.2 = y.2) (e.run.run p) (f.run.run p)

variable {R : α → β → Prop} {S : γ → δ → Prop} {e : Execution α} {e' : Execution β}

theorem alike_pure {a : α} {b : β} (h : R a b) : Alike same R (pure a) (pure b) :=
  fun _ => .done ⟨.ok h, rfl⟩

theorem alike_throw (f : Failure) : Alike same R (throw f) (throw f) :=
  fun _ => .done ⟨.error f, rfl⟩

theorem alike_bind {f : α → Execution γ} {g : β → Execution δ} (h : Alike same R e e')
    (hfg : ∀ a b, R a b → Alike same S (f a) (g b)) : Alike same S (e >>= f) (e' >>= g) := by
  refine fun p => Program.Alike.bind (h p) ?_
  rintro ⟨r, q⟩ ⟨r', q'⟩ ⟨hr, rfl⟩
  cases hr with
  | ok hab => exact hfg _ _ hab q
  | error f => exact .done ⟨.error f, rfl⟩

/-- What comes to the same is followed by the same. -/
theorem alike_bind_eq {e e' : Execution α} {f : α → Execution γ} {g : α → Execution δ}
    (h : Alike same Eq e e') (hfg : ∀ a, Alike same S (f a) (g a)) :
    Alike same S (e >>= f) (e' >>= g) :=
  alike_bind h fun a _ hab => hab ▸ hfg a

theorem alike_session {s : Session α} {t : Session β} (h : Session.Alike same R s t) :
    Alike same R (session s) (session t) :=
  fun _ => Program.Alike.bind h fun _ _ hr => .done ⟨hr, rfl⟩

theorem Alike.mono {R' : α → β → Prop} (h : Alike same R e e') (hr : ∀ a b, R a b → R' a b) :
    Alike same R' e e' := by
  refine fun p => Program.Alike.mono (h p) ?_
  rintro ⟨r, q⟩ ⟨r', q'⟩ ⟨ho, rfl⟩
  cases ho with
  | ok hab => exact ⟨.ok (hr _ _ hab), rfl⟩
  | error f => exact ⟨.error f, rfl⟩

/-- A part of an apply is alike to itself when it asks nothing to which different replies are the
same. -/
theorem alike_self {P : Question → Prop} {e : Execution α}
    (sharp : ∀ q, P q → ∀ reply reply', same q reply reply' → reply = reply') (h : e.Asks P) :
    Alike same Eq e e := by
  refine fun p => (Program.alike_self (I := Session.interface) sharp (h p)).mono ?_
  rintro x _ rfl
  exact ⟨outcomes_of_eq rfl, rfl⟩

theorem alike_need (a : Option α) (missing : ApplyError) :
    Alike same Eq (need a missing) (need a missing) := by
  cases a with
  | none => exact alike_throw _
  | some a => exact alike_pure rfl

theorem alike_inStage (stage : Stage) (resource : String) (h : Alike same R e e') :
    Alike same R (inStage stage resource e) (inStage stage resource e') := by
  refine fun p => Program.Alike.bind (h p) ?_
  rintro ⟨r, q⟩ ⟨r', q'⟩ ⟨hr, rfl⟩
  cases hr with
  | ok hab => exact .done ⟨.ok hab, rfl⟩
  | error f => exact .done ⟨.error _, rfl⟩

end Execution

end Converge
