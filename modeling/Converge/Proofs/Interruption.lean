import Converge.Proofs.Dialogue
/-!
# Programs that are cut off

A program can be cut off between any two of its questions, and the surroundings may answer a
question in more than one way.  `Program.Reaches Step p s xs rest u` says that from the state `s`
the program `p` can have the exchanges `xs` and leave the state `u`, with `rest` still to be done;
`Step` says which reply and which state can follow a question.

What holds at every cut is proved along the text of a program: `Program.Keeps` says of a program
that a property holds before each of its questions and after the last one, and what is known of its
result.  Each way of putting programs together gets one lemma.

Main statements: `Reaches.keeps` (what a program keeps holds wherever it is cut off) and
`reaches_run` (a run is one way to get to the end).
-/

namespace Converge

namespace Program

variable {I : Interface} {σ α β ε : Type} {Step : σ → (op : I.Op) → I.Reply op → σ → Prop}

/-! ## 1. Cuts -/

/-- Whether a program can get from one state to another with some exchanges, before it is cut off
and something of it is left. -/
inductive Reaches (Step : σ → (op : I.Op) → I.Reply op → σ → Prop) :
    Program I α → σ → List (Exchange I) → Program I α → σ → Prop where
  | cut {p s} : Reaches Step p s [] p s
  | step {op next s reply s' xs rest u} (first : Step s op reply s')
      (later : Reaches Step (next reply) s' xs rest u) :
      Reaches Step (.ask op next) s (⟨op, reply⟩ :: xs) rest u

/-- A run of a handler gets to the end. -/
theorem reaches_run {answer : (op : I.Op) → σ → I.Reply op × σ} {a : α} {u : σ}
    (h : ∀ op s, Step s op (answer op s).1 (answer op s).2) : ∀ {p : Program I α} {s : σ},
    p.run answer s = (some a, u) → p.Reaches Step s (p.transcript answer s) (.done a) u
  | .done _, _, hr => by
    cases hr
    exact .cut
  | .ask op _, s, hr => .step (h op s) (reaches_run h hr)
  | .unfinished, _, hr => nomatch hr

/-! ## 2. What holds at every cut -/

/-- Whether a property of the exchanges so far and of the state holds wherever a program is cut off,
and another one, which knows its result, where it comes to its end. -/
def Keeps (Step : σ → (op : I.Op) → I.Reply op → σ → Prop) (inv : List (Exchange I) → σ → Prop)
    (post : α → List (Exchange I) → σ → Prop) : Program I α → List (Exchange I) → σ → Prop
  | .done a, past, s => inv past s ∧ post a past s
  | .ask op next, past, s => inv past s ∧ ∀ reply s', Step s op reply s' →
      (next reply).Keeps Step inv post (past ++ [⟨op, reply⟩]) s'
  | .unfinished, past, s => inv past s

variable {inv inv' : List (Exchange I) → σ → Prop} {past : List (Exchange I)} {s : σ}

theorem Keeps.now {post : α → List (Exchange I) → σ → Prop} :
    ∀ {p : Program I α}, p.Keeps Step inv post past s → inv past s
  | .done _, h => h.1
  | .ask _ _, h => h.1
  | .unfinished, h => h

theorem Keeps.mono {post post' : α → List (Exchange I) → σ → Prop}
    (hi : ∀ xs u, inv xs u → inv' xs u) (hp : ∀ a xs u, inv xs u → post a xs u → post' a xs u) :
    ∀ {p : Program I α} {past : List (Exchange I)} {s : σ},
      p.Keeps Step inv post past s → p.Keeps Step inv' post' past s
  | .done a, past, s, h => ⟨hi past s h.1, hp a past s h.1 h.2⟩
  | .ask _ _, past, s, h =>
    ⟨hi past s h.1, fun reply s' first => (h.2 reply s' first).mono hi hp⟩
  | .unfinished, past, s, h => hi past s h

theorem keeps_question {op : I.Op} {post : I.Reply op → List (Exchange I) → σ → Prop}
    (now : inv past s) (next : ∀ reply s', Step s op reply s' →
      inv (past ++ [⟨op, reply⟩]) s' ∧ post reply (past ++ [⟨op, reply⟩]) s') :
    (question op).Keeps Step inv post past s := ⟨now, next⟩

/-- One program after another keeps what both keep. -/
theorem keeps_bind {f : α → Program I β} {post : β → List (Exchange I) → σ → Prop} :
    ∀ {p : Program I α} {past : List (Exchange I)} {s : σ},
      p.Keeps Step inv (fun a xs u => (f a).Keeps Step inv post xs u) past s →
      (p.bind f).Keeps Step inv post past s
  | .done _, _, _, h => h.2
  | .ask _ _, _, _, h => ⟨h.1, fun reply s' first => keeps_bind (h.2 reply s' first)⟩
  | .unfinished, _, _, h => h

/-- After a failure nothing more is asked. -/
theorem keeps_run_bind {m : ExceptT ε (Program I) α} {f : α → ExceptT ε (Program I) β}
    {post : Except ε β → List (Exchange I) → σ → Prop}
    (h : Keeps Step inv (fun r xs u => match r with
      | .ok a => Keeps Step inv post (f a).run xs u
      | .error e => post (.error e) xs u) m.run past s) :
    Keeps Step inv post (m >>= f).run past s := by
  refine keeps_bind (h.mono (fun _ _ => id) fun r xs u now after => ?_)
  cases r with
  | ok a => exact after
  | error e => exact ⟨now, after⟩

/-- A program whose result is only looked at does not fail. -/
theorem keeps_lift_bind {p : Program I α} {f : α → ExceptT ε (Program I) β}
    {post : Except ε β → List (Exchange I) → σ → Prop}
    (h : p.Keeps Step inv (fun a xs u => Keeps Step inv post (f a).run xs u) past s) :
    Keeps Step inv post (ExceptT.lift p >>= f).run past s := by
  refine keeps_run_bind (keeps_bind ?_)
  exact h.mono (fun _ _ => id) fun _ _ _ now after => ⟨now, after⟩

/-- **What a program keeps holds wherever it is cut off**, and what is left keeps it. -/
theorem Reaches.keeps {post : α → List (Exchange I) → σ → Prop} {p rest : Program I α}
    {xs : List (Exchange I)} {u : σ} (h : p.Reaches Step s xs rest u) :
    ∀ {past : List (Exchange I)}, p.Keeps Step inv post past s →
      rest.Keeps Step inv post (past ++ xs) u := by
  induction h with
  | cut =>
    intro past hk
    rwa [List.append_nil]
  | step first _ ih =>
    intro past hk
    have later := ih (hk.2 _ _ first)
    rwa [List.append_assoc] at later

end Program

end Converge
