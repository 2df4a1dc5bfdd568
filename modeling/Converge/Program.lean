/-!
# Programs that ask

A program comes to its result by asking its surroundings, one question after the other.  An
`Interface` says what can be asked and what kind of reply each question gets; a `Program` is a
tree with a question at each inner node.  Programs are plain data: a handler with a state answers
them (`Program.run`), an interpreter for another interface replaces each question by a program
that finds its reply (`Program.translate`), and the outer layer of an executable asks the real
world (`Program.perform`).

Loops that only the surroundings can end are written with a limit on their rounds.  When it is
used up the program is `unfinished`, which no handler of failures can mistake for a result.
-/

namespace Converge

/-- What can be asked, and what kind of reply each question gets. -/
structure Interface where
  Op : Type
  Reply : Op → Type

/-- A program that comes to a result of type `α` by asking questions. -/
inductive Program (I : Interface) (α : Type) where
  | done (a : α)
  | ask (op : I.Op) (next : I.Reply op → Program I α)
  /-- The limit on the rounds of a loop was used up. -/
  | unfinished

namespace Program

variable {I J : Interface} {α β σ : Type}

/-- Continues with what a program comes to. -/
def bind : Program I α → (α → Program I β) → Program I β
  | .done a, f => f a
  | .ask op next, f => .ask op fun reply => (next reply).bind f
  | .unfinished, _ => .unfinished

instance : Monad (Program I) where
  pure := .done
  bind := bind

/-- A single question. -/
def question (op : I.Op) : Program I (I.Reply op) := .ask op .done

/-- Answers every question from a state; there is no result when the program is unfinished. -/
def run (answer : (op : I.Op) → σ → I.Reply op × σ) : Program I α → σ → Option α × σ
  | .done a, s => (some a, s)
  | .ask op next, s =>
    let (reply, s) := answer op s
    (next reply).run answer s
  | .unfinished, s => (none, s)

/-- Replaces every question by a program that finds its reply. -/
def translate (find : (op : I.Op) → Program J (I.Reply op)) : Program I α → Program J α
  | .done a => .done a
  | .ask op next => (find op).bind fun reply => (next reply).translate find
  | .unfinished => .unfinished

/-- Lets a monad answer every question. -/
def perform [Monad m] (answer : (op : I.Op) → m (I.Reply op)) : Program I α → m (Option α)
  | .done a => pure (some a)
  | .ask op next => do
    let reply ← answer op
    (next reply).perform answer
  | .unfinished => pure none

/-! ## 1. Laws -/

@[simp] theorem pure_eq (a : α) : (pure a : Program I α) = .done a := rfl

@[simp] theorem bind_eq (p : Program I α) (f : α → Program I β) : (p >>= f) = p.bind f := rfl

@[simp] theorem bind_done (p : Program I α) : p.bind .done = p := by
  induction p with
  | done a => rfl
  | ask op next ih => simp [bind, ih]
  | unfinished => rfl

theorem bind_assoc (p : Program I α) (f : α → Program I β) (g : β → Program I γ) :
    (p.bind f).bind g = p.bind fun a => (f a).bind g := by
  induction p with
  | done a => rfl
  | ask op next ih => simp [bind, ih]
  | unfinished => rfl

instance : LawfulMonad (Program I) :=
  .mk' (Program I) (fun p => bind_done p) (fun _ _ => rfl) bind_assoc

/-- Running one program and then another is running them as one. -/
theorem run_bind (answer : (op : I.Op) → σ → I.Reply op × σ) (p : Program I α)
    (f : α → Program I β) (s : σ) :
    (p.bind f).run answer s =
      match p.run answer s with
      | (some a, s') => (f a).run answer s'
      | (none, s') => (none, s') := by
  induction p generalizing s with
  | done a => rfl
  | ask op next ih => simp [bind, run, ih]
  | unfinished => rfl

end Program

end Converge
