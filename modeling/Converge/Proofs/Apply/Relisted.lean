import Converge.Proofs.Apply.Asked
import Converge.Proofs.Apply.Saving
import Converge.Proofs.Cluster.Relisted
/-!
# Applying a plan, however versions are listed

Of the steps of an apply only those for applications list versions, to find the version that a new
one is laid over; and that is the one with the greatest number, in whatever order they are listed.
So an apply does the same for all ways of listing them.

Main statements: `Observe.sameUnder_latestVersion` and `sameUnder_execute`.
-/

namespace Converge

open Execution VersionPages

variable {summaries : List VersionSummary} {limit : Nat} {σ α : Type}

/-! ## 1. The latest version -/

/-- The greatest number does not depend on the order. -/
theorem VersionPages.greatest_items (v : VersionPages summaries limit) :
    greatest (v.items.map (·.version)) = greatest (summaries.map (·.version)) :=
  greatest_perm (v.perm.map _)

theorem Observe.sameUnder_latestVersion (v w : VersionPages summaries limit) (id : Uuid)
    (answer : (q : Question) → σ → q.Reply × σ) (application : Uuid) :
    (Observe.latestVersion limit application).SameUnder (v.serve id answer)
      (w.serve id answer) := by
  refine v.sameUnder_listVersions_bind w id answer (fun _ => ?_) fun l => ?_
  · rw [v.greatest_items, w.greatest_items]
  · split
    · exact Session.asks_bind (Session.asks_call trivial) fun _ => Session.asks_pure _
    · exact Session.asks_pure _

/-! ## 2. Steps -/

theorem Question.elsewhere_of_unversioned (id : Uuid) (q : Question) (h : q.unversioned) :
    q.Elsewhere id := by
  cases q with
  | call c =>
    cases c with
    | listVersions _ _ => nomatch h
    | _ => trivial
  | _ => trivial

namespace ApplyContext

variable (c : ApplyContext) (v w : VersionPages summaries c.limit) (id : Uuid)
  (answer : (q : Question) → σ → q.Reply × σ)

/-- A part of an apply that does not look at versions. -/
theorem sameUnder_of_unversioned {e : Execution α} (he : e.Asks fun q => q.unversioned) :
    SameUnder (v.serve id answer) (w.serve id answer) e :=
  fun p => Program.sameUnder_of_asks (I := Session.interface) (v.serve_of_elsewhere w id answer)
    (he.mono (Question.elsewhere_of_unversioned id) p)

theorem sameUnder_target (a : ApplicationAction) :
    SameUnder (v.serve id answer) (w.serve id answer) (c.target a) := by
  by_cases h : a.action = .create
  · exact c.sameUnder_of_unversioned v w id answer (c.asks_create a h)
  · rw [target, if_neg h]
    refine sameUnder_bind (sameUnder_need _ _) fun application => ?_
    have latest := Observe.sameUnder_latestVersion v w id answer application
    exact sameUnder_bind (sameUnder_session latest) fun base => sameUnder_pure _

theorem sameUnder_application (a : ApplicationAction) :
    SameUnder (v.serve id answer) (w.serve id answer) (c.application a) := by
  rw [application_eq]
  refine sameUnder_bind (sameUnder_need _ _) fun config => ?_
  refine sameUnder_bind (c.sameUnder_target v w id answer a) fun found => ?_
  exact c.sameUnder_of_unversioned v w id answer (c.asks_deliver a config.spec found)

theorem sameUnder_act (s : ApplyStep) :
    SameUnder (v.serve id answer) (w.serve id answer) (c.act s) := by
  cases s with
  | application a => exact c.sameUnder_application v w id answer a
  | _ => exact c.sameUnder_of_unversioned v w id answer (c.asks_act fun _ => nofun)

/-- And so it goes for all steps, by induction over them. -/
theorem sameUnder_takeAll : ∀ steps : List ApplyStep,
    SameUnder (v.serve id answer) (w.serve id answer) (c.takeAll steps)
  | [] => sameUnder_pure _
  | s :: rest => by
    refine sameUnder_bind ?_ fun _ => sameUnder_takeAll rest
    exact sameUnder_inStage _ _ (c.sameUnder_act v w id answer s)

end ApplyContext

/-! ## 3. An apply -/

/-- **An apply does not depend on how the versions of an application are listed.** -/
theorem sameUnder_execute (options : ApplyOptions) (desired : ClusterConfig) (plan : Plan)
    (ledger : SecretLedger) (v w : VersionPages summaries options.limit) (id : Uuid)
    (answer : (q : Question) → σ → q.Reply × σ) :
    (execute options desired plan ledger).SameUnder (v.serve id answer) (w.serve id answer) := by
  have steps := (plan.context options desired).sameUnder_takeAll v w id answer plan.script
    (.start ledger)
  rw [Session.SameUnder, execute_run]
  -- the announcement is a line of the log, which neither control plane keeps
  refine fun t => Program.sameUnder_bind steps (fun stages => ?_) t
  refine v.sameUnder_of_asks w id answer ((concludes_finish stages).mono fun q hq => ?_)
  cases q with
  | call _ => nomatch hq
  | _ => trivial

end Converge
