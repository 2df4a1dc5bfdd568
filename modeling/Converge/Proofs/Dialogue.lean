import Converge.Program
/-!
# What a program can live through

A program meets whatever its surroundings reply, and a statement about every behaviour of the
surroundings is one about every sequence of replies.  `Program.Dialogue p xs out` says that `p`
can have the exchanges `xs`, in this order and no others, and come to `out` after them.  No
handler is mentioned: the replies are any replies at all.

Main statements: `dialogue_bind` (a dialogue of two programs one after the other is a dialogue of
the first followed by one of the second) and `dialogue_transcript` (what a handler lives through
with a program is one of its dialogues, so what holds of all dialogues holds of every run).
-/

namespace Converge

/-- A question and the reply that it got. -/
structure Exchange (I : Interface) where
  op : I.Op
  reply : I.Reply op

namespace Program

variable {I : Interface} {α β σ : Type}

/-- The exchanges that a program can have and what it comes to after them: nothing, when the
limit on the rounds of a loop is used up. -/
def Dialogue : Program I α → List (Exchange I) → Option α → Prop
  | .done a, xs, out => xs = [] ∧ out = some a
  | .ask op next, xs, out =>
    ∃ reply rest, xs = ⟨op, reply⟩ :: rest ∧ (next reply).Dialogue rest out
  | .unfinished, xs, out => xs = [] ∧ out = none

/-! ## 1. One program after the other -/

theorem dialogue_question {op : I.Op} {xs : List (Exchange I)} {out : Option (I.Reply op)} :
    (question op).Dialogue xs out ↔ ∃ reply, xs = [⟨op, reply⟩] ∧ out = some reply := by
  constructor
  · rintro ⟨reply, rest, rfl, rfl, rfl⟩
    exact ⟨reply, rfl, rfl⟩
  · rintro ⟨reply, rfl, rfl⟩
    exact ⟨reply, [], rfl, rfl, rfl⟩

/-- **Dialogues compose**: the first program comes to a result from which the second goes on, or
it is unfinished and so is the whole. -/
theorem dialogue_bind {f : α → Program I β} {out : Option β} :
    ∀ {p : Program I α} {xs : List (Exchange I)}, (p.bind f).Dialogue xs out ↔
      (∃ ys zs a, xs = ys ++ zs ∧ p.Dialogue ys (some a) ∧ (f a).Dialogue zs out) ∨
      (p.Dialogue xs none ∧ out = none)
  | .done a, xs => by
    constructor
    · intro h
      exact .inl ⟨[], xs, a, rfl, ⟨rfl, rfl⟩, h⟩
    · rintro (⟨ys, zs, a', rfl, ⟨rfl, ha⟩, h⟩ | ⟨⟨-, h⟩, -⟩)
      · obtain rfl := Option.some.inj ha
        exact h
      · nomatch h
  | .ask op next, xs => by
    constructor
    · rintro ⟨reply, rest, rfl, h⟩
      rcases dialogue_bind.1 h with ⟨ys, zs, a, rfl, hp, hf⟩ | ⟨hp, hout⟩
      · exact .inl ⟨⟨op, reply⟩ :: ys, zs, a, rfl, ⟨reply, ys, rfl, hp⟩, hf⟩
      · exact .inr ⟨⟨reply, rest, rfl, hp⟩, hout⟩
    · rintro (⟨ys, zs, a, rfl, ⟨reply, rest, rfl, hp⟩, hf⟩ | ⟨⟨reply, rest, rfl, hp⟩, hout⟩)
      · exact ⟨reply, rest ++ zs, rfl, dialogue_bind.2 (.inl ⟨rest, zs, a, rfl, hp, hf⟩)⟩
      · exact ⟨reply, rest, rfl, dialogue_bind.2 (.inr ⟨hp, hout⟩)⟩
  | .unfinished, xs => by
    constructor
    · intro h
      exact .inr ⟨⟨h.1, rfl⟩, h.2⟩
    · rintro (⟨ys, zs, a, rfl, ⟨-, h⟩, -⟩ | ⟨⟨hxs, -⟩, hout⟩)
      · nomatch h
      · exact ⟨hxs, hout⟩

/-- Dialogues of programs that may fail compose: the first succeeds and the second goes on, or the
first fails or is unfinished and the second is not begun. -/
theorem dialogue_run_bind {ε : Type} {m : ExceptT ε (Program I) α}
    {f : α → ExceptT ε (Program I) β} {xs : List (Exchange I)} {out : Option (Except ε β)} :
    Dialogue (m >>= f).run xs out ↔
      (∃ ys zs a, xs = ys ++ zs ∧ Dialogue m.run ys (some (.ok a)) ∧
        Dialogue (f a).run zs out) ∨
      (∃ e, Dialogue m.run xs (some (.error e)) ∧ out = some (.error e)) ∨
      (Dialogue m.run xs none ∧ out = none) := by
  refine dialogue_bind.trans ?_
  constructor
  · rintro (⟨ys, zs, e | a, rfl, hm, hf⟩ | h)
    · obtain ⟨rfl, rfl⟩ := hf
      rw [List.append_nil]
      exact .inr (.inl ⟨e, hm, rfl⟩)
    · exact .inl ⟨ys, zs, a, rfl, hm, hf⟩
    · exact .inr (.inr h)
  · rintro (⟨ys, zs, a, rfl, hm, hf⟩ | ⟨e, hm, rfl⟩ | h)
    · exact .inl ⟨ys, zs, .ok a, rfl, hm, hf⟩
    · exact .inl ⟨xs, [], .error e, (List.append_nil xs).symm, hm, rfl, rfl⟩
    · exact .inr h

/-! ## 2. Runs are dialogues -/

/-- The exchanges that a handler has with a program. -/
def transcript (answer : (op : I.Op) → σ → I.Reply op × σ) :
    Program I α → σ → List (Exchange I)
  | .done _, _ => []
  | .ask op next, s =>
    ⟨op, (answer op s).1⟩ :: (next (answer op s).1).transcript answer (answer op s).2
  | .unfinished, _ => []

/-- What a handler has with two programs one after the other is what it has with the first and
then, from the state after that, with the second. -/
theorem transcript_bind (answer : (op : I.Op) → σ → I.Reply op × σ) (f : α → Program I β) :
    ∀ (p : Program I α) (s : σ), (p.bind f).transcript answer s = p.transcript answer s ++
      match p.run answer s with
      | (some a, s') => (f a).transcript answer s'
      | (none, _) => []
  | .done _, _ => rfl
  | .ask op next, s => by
    have rest := transcript_bind answer f (next (answer op s).1) (answer op s).2
    exact congrArg (_ :: ·) rest
  | .unfinished, _ => rfl

/-- **Every run is a dialogue.** -/
theorem dialogue_transcript (answer : (op : I.Op) → σ → I.Reply op × σ) :
    ∀ (p : Program I α) (s : σ), p.Dialogue (p.transcript answer s) (p.run answer s).1
  | .done _, _ => ⟨rfl, rfl⟩
  | .ask op next, s =>
    ⟨(answer op s).1, _, rfl, dialogue_transcript answer (next (answer op s).1) (answer op s).2⟩
  | .unfinished, _ => ⟨rfl, rfl⟩

/-- Each reply of a run is one that the handler gave. -/
theorem exists_answer_of_mem_transcript {answer : (op : I.Op) → σ → I.Reply op × σ}
    {x : Exchange I} : ∀ {p : Program I α} {s : σ}, x ∈ p.transcript answer s →
      ∃ t, x.reply = (answer x.op t).1
  | .done _, _, h => nomatch h
  | .ask op next, s, h => by
    rcases List.mem_cons.1 h with rfl | h
    · exact ⟨s, rfl⟩
    · exact exists_answer_of_mem_transcript h
  | .unfinished, _, h => nomatch h

end Program

end Converge
