import Converge.Proofs.Cluster.Asked
import Converge.Proofs.Cluster.Deployment
/-!
# One list of versions, listed in several ways

The control plane lists the versions of an application in an order of its own, on pages of its own.
`VersionPages` is a way of doing so, and `VersionPages.serve` the control plane that does it and is
any control plane otherwise.  Its lines of the log are not kept, since they tell of the pages.

Draining such a listing comes to all of its entries and changes nothing, so that two ways of listing
one list differ for a session only in the order of what it gets.  `Program.SameUnder` says that two
handlers lead a program to the same result and the same state; as with courses, each way of putting
operations together has one lemma.

Main statements: `VersionPages.ran_listVersions` and `VersionPages.sameUnder_listVersions_bind`.
-/

namespace Converge

/-! ## 1. Two handlers -/

section

variable {I : Interface} {α β σ : Type} {h h' : (op : I.Op) → σ → I.Reply op × σ}
  {p : Program I α} {P : I.Op → Prop}

/-- Whether two handlers lead a program to the same result and state, whatever state it is begun
in. -/
def Program.SameUnder (h h' : (op : I.Op) → σ → I.Reply op × σ) (p : Program I α) : Prop :=
  ∀ t, p.run h t = p.run h' t

namespace Program

theorem sameUnder_bind {f : α → Program I β} (hp : p.SameUnder h h')
    (hf : ∀ a, (f a).SameUnder h h') : (p.bind f).SameUnder h h' := by
  intro t
  rw [run_bind, run_bind, ← hp t]
  split
  next a t' _ => exact hf a t'
  next => rfl

/-- A program that asks only what both handlers answer in one way. -/
theorem sameUnder_of_asks (agree : ∀ op, P op → ∀ t, h op t = h' op t) :
    ∀ {p : Program I α}, p.Asks P → p.SameUnder h h'
  | .done _, _, _ => rfl
  | .ask op next, ⟨hop, hnext⟩, t => by
    change (next (h op t).1).run h (h op t).2 = (next (h' op t).1).run h' (h' op t).2
    rw [agree op hop t]
    exact sameUnder_of_asks agree (hnext _) _
  | .unfinished, _, _ => rfl

end Program

end

variable {σ α β : Type} {h h' : (q : Question) → σ → q.Reply × σ}

namespace Session

variable {s : Session α} {t t' : σ}

/-- What a session comes to with a handler, and the state that it leaves the handler in. -/
def ran (answer : (q : Question) → σ → q.Reply × σ) (s : Session α) (t : σ) :
    Option (Except Failure α) × σ :=
  Program.run (I := Session.interface) answer s.run t

theorem ran_call (c : Call) :
    (call c).ran h t = (some (h (.call c) t).1, (h (.call c) t).2) := rfl

/-- A session that succeeds is followed by what follows its result. -/
theorem ran_bind_ok {a : α} {f : α → Session β} (hs : s.ran h t = (some (.ok a), t')) :
    (s >>= f).ran h t = (f a).ran h t' := by
  refine (Program.run_bind h s.run _ t).trans ?_
  have hs : Program.run (I := Session.interface) h s.run t = (some (.ok a), t') := hs
  rw [hs]
  rfl

/-- Whether two handlers lead a session to the same outcome and state. -/
def SameUnder (h h' : (q : Question) → σ → q.Reply × σ) (s : Session α) : Prop :=
  Program.SameUnder (I := Session.interface) h h' s.run

theorem sameUnder_bind {f : α → Session β} (hs : s.SameUnder h h')
    (hf : ∀ a, (f a).SameUnder h h') : (s >>= f).SameUnder h h' := by
  refine Program.sameUnder_bind hs fun r => ?_
  cases r with
  | ok a => exact hf a
  | error _ => exact fun _ => rfl

end Session

namespace Execution

/-- Whether two handlers lead a part of an apply to the same outcome, progress and state. -/
def SameUnder (h h' : (q : Question) → σ → q.Reply × σ) (e : Execution α) : Prop :=
  ∀ p, Program.SameUnder (I := Session.interface) h h' (e.run.run p)

variable {e : Execution α}

theorem sameUnder_pure (a : α) : SameUnder h h' (pure a) := fun _ _ => rfl

theorem sameUnder_bind {f : α → Execution β} (he : SameUnder h h' e)
    (hf : ∀ a, SameUnder h h' (f a)) : SameUnder h h' (e >>= f) := by
  refine fun p => Program.sameUnder_bind (he p) ?_
  rintro ⟨_ | a, q⟩
  · exact fun _ => rfl
  · exact hf a q

theorem sameUnder_session {s : Session α} (hs : s.SameUnder h h') : SameUnder h h' (session s) :=
  fun _ => Program.sameUnder_bind hs fun _ _ => rfl

theorem sameUnder_need (a : Option α) (missing : ApplyError) : SameUnder h h' (need a missing) := by
  cases a <;> exact fun _ _ => rfl

theorem sameUnder_inStage (stage : Stage) (resource : String) (he : SameUnder h h' e) :
    SameUnder h h' (inStage stage resource e) := by
  refine fun p => Program.sameUnder_bind (he p) ?_
  rintro ⟨_ | _, _⟩ <;> exact fun _ => rfl

end Execution

/-! ## 2. Listing some versions -/

/-- A way of listing some versions, in an order of its own and on pages that come to an end within
the limit. -/
structure VersionPages (summaries : List VersionSummary) (limit : Nat) where
  page : Option String → Page VersionSummary
  items : List VersionSummary
  later : Nat
  pages : Pages page none later items
  fits : later < limit
  perm : items.Perm summaries

/-- Whether the reply to a question does not depend on how the versions of an application are
listed. -/
def Question.Elsewhere (id : Uuid) : Question → Prop
  | .call (.listVersions a _) => a ≠ id
  | _ => True

namespace VersionPages

variable {summaries : List VersionSummary} {limit : Nat} (v w : VersionPages summaries limit)
  (id : Uuid) (answer : (q : Question) → σ → q.Reply × σ)

/-- A control plane that lists the versions of one application in a given way. -/
def serve : (q : Question) → σ → q.Reply × σ
  | .call (.listVersions a cursor), s =>
    if a = id then (.ok (v.page cursor), s) else answer (.call (.listVersions a cursor)) s
  | .log _ _, s => ((), s)
  | q, s => answer q s

theorem serve_listVersions (cursor : Option String) (t : σ) :
    v.serve id answer (.call (.listVersions id cursor)) t = (.ok (v.page cursor), t) :=
  if_pos rfl

theorem serve_of_elsewhere (q : Question) (hq : q.Elsewhere id) (t : σ) :
    v.serve id answer q t = w.serve id answer q t := by
  cases q with
  | call c =>
    cases c with
    | listVersions a cursor =>
      have other : a ≠ id := hq
      exact (if_neg other).trans (if_neg other).symm
    | _ => rfl
  | _ => rfl

/-- A session that does not list the versions is the same for all ways of listing them. -/
theorem sameUnder_of_asks {s : Session α} (hs : s.Asks (Question.Elsewhere id)) :
    s.SameUnder (v.serve id answer) (w.serve id answer) :=
  Program.sameUnder_of_asks (I := Session.interface) (v.serve_of_elsewhere w id answer) hs

/-- Draining the pages from a cursor on, by induction on them.  Every cursor that was visited has at
least as many pages left as the present one, so none is taken for one that was visited. -/
theorem ran_collectFrom {cursor : Option String} {n : Nat} {items : List VersionSummary}
    (hp : Pages v.page cursor n items) (t : σ) : ∀ {rounds : Nat} {seen : List String},
      n < rounds → (∀ c ∈ seen, ∃ k rest, n ≤ k ∧ Pages v.page (some c) k rest) →
      (collectFrom (fun c => Session.call (.listVersions id c)) rounds seen cursor).ran
        (v.serve id answer) t = (some (.ok items), t) := by
  have fetched (c : Option String) : (Session.call (.listVersions id c)).ran (v.serve id answer) t =
      (some (.ok (v.page c)), t) := by
    rw [Session.ran_call, v.serve_listVersions]
  induction hp with
  | last hn =>
    rintro (_ | rounds) seen more -
    · nomatch more
    · refine (Session.ran_bind_ok (fetched _)).trans ?_
      rw [hn]
      rfl
  | @next cursor following n items hn hr ih =>
    rintro (_ | rounds) seen more hseen
    · nomatch more
    have fresh : following ∉ seen := by
      intro hmem
      obtain ⟨k, rest, hk, hrest⟩ := hseen following hmem
      have := hr.count_unique hrest
      omega
    have visited : ∀ c ∈ following :: seen, ∃ k rest, n ≤ k ∧ Pages v.page (some c) k rest := by
      refine List.forall_mem_cons.2 ⟨⟨n, items, Nat.le_refl n, hr⟩, fun c hc => ?_⟩
      obtain ⟨k, rest, hk, hrest⟩ := hseen c hc
      exact ⟨k, rest, by omega, hrest⟩
    refine (Session.ran_bind_ok (fetched _)).trans ?_
    rw [hn]
    dsimp only
    rw [if_neg fresh]
    exact Session.ran_bind_ok (f := fun rest => pure ((v.page cursor).items ++ rest))
      (ih (by omega) visited)

/-- **Listing the versions** comes to each of them once, and changes nothing. -/
theorem ran_listVersions (t : σ) :
    (Observe.listVersions limit id).ran (v.serve id answer) t = (some (.ok v.items), t) :=
  v.ran_collectFrom id answer v.pages t v.fits fun _ => List.not_mem_nil.elim

/-- **What follows a list of versions is the same for all ways of listing them**, if it makes the
same of both orders and does not list them again. -/
theorem sameUnder_listVersions_bind {a : Uuid} {f : List VersionSummary → Session β}
    (orders : a = id → f v.items = f w.items) (asks : ∀ l, (f l).Asks (Question.Elsewhere id)) :
    (Observe.listVersions limit a >>= f).SameUnder (v.serve id answer) (w.serve id answer) := by
  have rest (l : List VersionSummary) := v.sameUnder_of_asks w id answer (asks l)
  by_cases ha : a = id
  · subst ha
    intro t
    refine (Session.ran_bind_ok (v.ran_listVersions a answer t)).trans ?_
    refine Eq.trans ?_ (Session.ran_bind_ok (w.ran_listVersions a answer t)).symm
    rw [orders rfl]
    exact rest w.items t
  · refine Session.sameUnder_bind (v.sameUnder_of_asks w id answer ?_) rest
    exact asks_collectFrom (fun _ _ => trivial) (fun _ => Session.asks_call ha) limit [] none

end VersionPages

end Converge
