import Converge.Proofs.Apply.Saving
/-!
# Two runs with one handler

Two programs that are not the same may still be so for one handler: where they part, it never leads
them.  `Program.SameRun answer t p q` says that a handler in the state `t` lives through the same
with `p` and with `q`.  After a result that both come to, what follows has to be looked at only for
this result and the state that the handler is in by then, so that all that is known of the run up to
there can be made use of.

Main statement: `Program.SameRun.bind`.
-/

namespace Converge

/-! ## 1. Programs -/

section

variable {I : Interface} {α β σ : Type} {answer : (op : I.Op) → σ → I.Reply op × σ} {t : σ}

/-- Whether a handler lives through the same with two programs: it is asked the same, and gives the
same replies and comes to the same result and state. -/
structure Program.SameRun (answer : (op : I.Op) → σ → I.Reply op × σ) (t : σ)
    (p q : Program I α) : Prop where
  run : p.run answer t = q.run answer t
  transcript : p.transcript answer t = q.transcript answer t

namespace Program.SameRun

variable {p q : Program I α}

theorem refl (answer : (op : I.Op) → σ → I.Reply op × σ) (t : σ) (p : Program I α) :
    SameRun answer t p p := ⟨rfl, rfl⟩

/-- **What follows has to be the same only for the result that the handler leads to.** -/
theorem bind {f g : α → Program I β} (h : SameRun answer t p q)
    (hfg : ∀ a t', p.run answer t = (some a, t') → SameRun answer t' (f a) (g a)) :
    SameRun answer t (p.bind f) (q.bind g) := by
  obtain ⟨run, transcript⟩ := h
  constructor
  · rw [run_bind, run_bind, ← run]
    split
    next a t' ha => exact (hfg a t' ha).run
    next => rfl
  · rw [transcript_bind, transcript_bind, ← run, ← transcript]
    split
    next a t' ha => rw [(hfg a t' ha).transcript]
    next => rfl

/-- After a question that both ask. -/
theorem ask {op : I.Op} {next next' : I.Reply op → Program I α}
    (h : SameRun answer (answer op t).2 (next (answer op t).1) (next' (answer op t).1)) :
    SameRun answer t (.ask op next) (.ask op next') :=
  ⟨h.run, congrArg (_ :: ·) h.transcript⟩

end Program.SameRun

end

/-! ## 2. Parts of an apply -/

namespace Execution

variable {σ α β : Type} {answer : (q : Question) → σ → q.Reply × σ} {t : σ}

/-- Whether a handler lives through the same with two parts of an apply that are begun with the same
progress. -/
def SameRun (answer : (q : Question) → σ → q.Reply × σ) (t : σ) (p : Progress)
    (e f : Execution α) : Prop :=
  Program.SameRun (I := Session.interface) answer t (e.run.run p) (f.run.run p)

/-- The events that a handler lives through with a part of an apply. -/
def events (answer : (q : Question) → σ → q.Reply × σ) (t : σ) (p : Progress)
    (e : Execution α) : List Event :=
  Program.events answer (e.run.run p) t

/-- What a part of an apply comes to with a handler, and the progress after it. -/
def outcome (answer : (q : Question) → σ → q.Reply × σ) (t : σ) (p : Progress)
    (e : Execution α) : Option (Except Failure α × Progress) × σ :=
  Program.run (I := Session.interface) answer (e.run.run p) t

variable {p : Progress} {e e' : Execution α}

/-- Every run is a course. -/
theorem course_of_run (answer : (q : Question) → σ → q.Reply × σ) (t : σ) (p : Progress)
    (e : Execution α) : e.Course p (events answer t p e) (outcome answer t p e).1 :=
  ⟨_, Program.dialogue_transcript (I := Session.interface) answer (e.run.run p) t, rfl⟩

/-- What follows the first part of an apply, unless it failed. -/
theorem run_bind (f : α → Execution β) (p : Progress) : (e >>= f).run.run p =
    (e.run.run p).bind fun
      | (.ok a, q) => (f a).run.run q
      | (.error g, q) => .done (.error g, q) := by
  refine congrArg (Program.bind (e.run.run p)) (funext ?_)
  rintro ⟨_ | _, _⟩ <;> rfl

theorem events_bind (f : α → Execution β) :
    events answer t p (e >>= f) = events answer t p e ++
      match outcome answer t p e with
      | (some (.ok a, q), t') => events answer t' q (f a)
      | _ => [] := by
  unfold events outcome
  rw [run_bind, Program.events_bind]
  generalize Program.run answer (e.run.run p) t = ran
  obtain ⟨_ | ⟨_ | a, q⟩, t'⟩ := ran <;> rfl

/-- The stage is said without a further request. -/
theorem events_inStage (stage : Stage) (resource : String) :
    events answer t p (inStage stage resource e) = events answer t p e := by
  unfold events
  rw [run_inStage, Program.events_bind]
  generalize Program.run answer (e.run.run p) t = ran
  obtain ⟨_ | r, t'⟩ := ran <;> exact List.append_nil _

theorem sameRun_bind {f g : α → Execution β} (h : SameRun answer t p e e')
    (hfg : ∀ a q t', outcome answer t p e = (some (.ok a, q), t') →
      SameRun answer t' q (f a) (g a)) : SameRun answer t p (e >>= f) (e' >>= g) := by
  refine Program.SameRun.bind h ?_
  rintro ⟨_ | a, q⟩ t' ho
  · exact .refl ..
  · exact hfg a q t' ho

theorem sameRun_inStage (stage : Stage) (resource : String) (h : SameRun answer t p e e') :
    SameRun answer t p (inStage stage resource e) (inStage stage resource e') :=
  Program.SameRun.bind h fun _ _ _ => .refl ..

end Execution

end Converge
