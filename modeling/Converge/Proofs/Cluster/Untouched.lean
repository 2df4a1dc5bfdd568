import Converge.Proofs.Cluster.Asked
import Converge.Proofs.Cluster.Deployment
import Converge.Reconcile
import Converge.Simulation.Stub
/-!
# Operations that change nothing

Planning, listing and comparing versions and writing a cluster down ask nothing that changes the
cluster or the stored ledger, whatever they are replied.  Activating a version asks for one change,
after everything else and only once the version was found in a listing; a version that is not found
is one of the failures that come before it.

Main statements: `Reconcile.untouched_plan`, `Versions.untouched_diff`, `Dump.untouched_cluster` and
`Versions.activates_of_course`.
-/

namespace Converge

/-- Whether a question changes the cluster or the stored ledger. -/
def Question.writes : Question → Bool
  | .call c => c.mutates
  | .saveLedger _ => true
  | _ => false

theorem Question.not_writes_of_looks (q : Question) (h : q.looks) : q.writes = false := by
  cases q with
  | call c => exact Bool.not_eq_true' _ ▸ h
  | log => rfl
  | _ => nomatch h

/-- Whether a session changes nothing, whatever it is replied. -/
abbrev Session.Untouched (s : Session α) : Prop := s.Asks fun q => q.writes = false

theorem Session.Asks.untouched {s : Session α} (h : s.Asks fun q => q.looks) : s.Untouched :=
  h.mono Question.not_writes_of_looks

/-- The events of a session that looks are requests that only read. -/
theorem Session.Asks.reads {s : Session α} (h : s.Asks fun q => q.looks) {es : List Event}
    {out : Option (Except Failure α)} (course : s.Course es out) : ∀ e ∈ es, e.reads := by
  obtain ⟨xs, lived, rfl⟩ := course
  intro e he
  obtain ⟨⟨q, reply⟩, hx, hxe⟩ := List.mem_filterMap.1 he
  have looks : q.looks := Program.Asks.of_mem_dialogue h lived hx
  cases q with
  | call c =>
    obtain rfl := Option.some.inj hxe
    exact looks
  | log => nomatch hxe
  | _ => nomatch looks

/-- What a session that looks leaves behind: the one after it goes on, or there is no result. -/
theorem Session.Asks.course_bind {s : Session α} {f : α → Session β} (h : s.Asks fun q => q.looks)
    {es : List Event} {out : Option (Except Failure β)} (course : (s >>= f).Course es out) :
    (∃ as bs a, es = as ++ bs ∧ (∀ e ∈ as, e.reads) ∧ s.Course as (some (.ok a)) ∧
      (f a).Course bs out) ∨
    ((∀ e ∈ es, e.reads) ∧ ∀ b, out ≠ some (.ok b)) := by
  rcases Session.course_bind.1 course with ⟨as, bs, a, rfl, hs, hf⟩ | ⟨f, hs, rfl⟩ | ⟨hs, rfl⟩
  · exact .inl ⟨as, bs, a, rfl, h.reads hs, hs, hf⟩
  · exact .inr ⟨h.reads hs, fun _ => nofun⟩
  · exact .inr ⟨h.reads hs, fun _ => nofun⟩

variable {limit : Nat}

/-! ## 1. Planning and writing down -/

/-- **Planning changes nothing.** -/
theorem Reconcile.untouched_plan (desired : ClusterConfig) :
    (Reconcile.plan limit desired).Untouched := by
  refine Session.asks_bind ⟨rfl, fun _ => trivial⟩ fun ledger => ?_
  refine Session.asks_bind (Observe.asks_cluster _).untouched fun live => ?_
  refine Session.asks_bind (Session.asks_log rfl) fun _ => ?_
  refine Session.asks_bind (Session.asks_ask rfl) fun now => ?_
  refine Session.asks_bind (Session.asks_forM (fun text => ?_) _) fun _ => ?_
  · exact Session.asks_log rfl
  · refine Session.asks_bind trivial fun plan => ?_
    exact Session.asks_bind (Session.asks_log rfl) fun _ => Session.asks_pure _

/-- **Writing a cluster down changes nothing.** -/
theorem Dump.untouched_cluster (name : String) : (Dump.cluster limit name).Untouched :=
  (Dump.asks_cluster name).untouched

/-! ## 2. Versions -/

namespace Versions

/-- **Listing versions changes nothing.** -/
theorem untouched_list (cluster application : String) :
    (list limit cluster application).Untouched := by
  refine Session.asks_bind (lists_resolve cluster application).looks.untouched fun a => ?_
  refine Session.asks_bind (Observe.lists_listVersions a.id).looks.untouched fun summaries => ?_
  exact Session.asks_pure _

theorem asks_found {P : Question → Prop} (a : Option α) (missing : ResolveError) :
    (found a missing).Asks P := by
  cases a with
  | none => exact Session.asks_throw _
  | some a => exact Session.asks_pure a

theorem untouched_fetch (a : Application) (numbers : List Int32) (version : Int32) :
    (fetch a numbers version).Untouched := by
  unfold fetch
  split
  · exact Session.asks_call rfl
  · exact Session.asks_throw _

/-- **Comparing versions changes nothing.** -/
theorem untouched_diff (cluster application : String) (older newer : Option Int32) :
    (diff limit cluster application older newer).Untouched := by
  refine Session.asks_bind (lists_resolve cluster application).looks.untouched fun a => ?_
  refine Session.asks_bind (Observe.lists_listVersions a.id).looks.untouched fun summaries => ?_
  refine Session.asks_bind (asks_found _ _) fun older => ?_
  refine Session.asks_bind (asks_found _ _) fun newer => ?_
  refine Session.asks_bind (untouched_fetch a _ older) fun before => ?_
  exact Session.asks_bind (untouched_fetch a _ newer) fun after => trivial

/-! ## 3. Activating -/

/-- Everything that activating a version can live through and come to. -/
inductive Activates (limit : Nat) (cluster application : String) :
    List Event → Option (Except Failure Int32) → Prop where
  /-- It does not get to the change. -/
  | stopped {es out} (reads : ∀ e ∈ es, e.reads) (failed : ∀ v, out ≠ some (.ok v)) :
      Activates limit cluster application es out
  /-- The application was found and the version was listed; then comes the change, and last. -/
  | requested {a : Application} {summaries : List VersionSummary} {resolving listing v}
      (resolved : (resolve limit cluster application).Course resolving (some (.ok a)))
      (listed : (Observe.listVersions limit a.id).Course listing (some (.ok summaries)))
      (reads : ∀ e ∈ resolving ++ listing, e.reads) (mem : v ∈ summaries.map (·.version))
      (reply : Except Failure Unit) :
      Activates limit cluster application
        (resolving ++ listing ++ [.request (.updateApplication a.id ⟨some v⟩) reply])
        (some (reply.map fun _ => v))

/-- The version that is activated: the one that is given, if it was listed, or the greatest. -/
def chosen (a : Application) (numbers : List Int32) (version : Option Int32) :
    Except ResolveError Int32 :=
  match version with
  | some v => if v ∈ numbers then .ok v else .error (.versionNotFound a.name v)
  | none => (greatest numbers).elim (.error (.noVersions a.name)) .ok

theorem mem_of_chosen {a : Application} {numbers : List Int32} {version : Option Int32} {v : Int32}
    (h : chosen a numbers version = .ok v) : v ∈ numbers := by
  unfold chosen at h
  cases version with
  | some w =>
    dsimp only at h
    split at h
    next mem => exact Except.ok.inj h ▸ mem
    next => nomatch h
  | none =>
    cases hg : greatest numbers with
    | some w =>
      rw [hg] at h
      exact Except.ok.inj h ▸ (greatest_eq_some_iff.1 hg).1
    | none =>
      rw [hg] at h
      nomatch h

/-- Activating a version, with the choice of the version apart from the rest. -/
theorem activate_eq (cluster application : String) (version : Option Int32) :
    activate limit cluster application version = (do
      let a ← resolve limit cluster application
      let summaries ← Observe.listVersions limit a.id
      match chosen a (summaries.map (·.version)) version with
      | .error r => throw (.resolve r)
      | .ok v =>
        ApplyContext.activateVersion a.id a.name v
        pure v) := by
  refine congrArg (_ >>= ·) (funext fun a => congrArg (_ >>= ·) (funext fun summaries => ?_))
  unfold chosen
  cases version with
  | some v =>
    by_cases mem : v ∈ summaries.map (·.version)
    · simp only [if_pos mem]
      rfl
    · simp only [if_neg mem]
      rfl
  | none =>
    cases hg : greatest (summaries.map (·.version)) with
    | some v =>
      simp only [hg]
      rfl
    | none =>
      simp only [hg]
      rfl

/-- The change is one request, and its failure is what activating comes to. -/
theorem course_change {application : Uuid} {name : String} {v : Int32} {es : List Event}
    {out : Option (Except Failure Int32)}
    (h : Session.Course (do
      ApplyContext.activateVersion application name v
      pure v) es out) :
    ∃ reply : Except Failure Unit,
      es = [.request (.updateApplication application ⟨some v⟩) reply] ∧
      out = some (reply.map fun _ => v) := by
  rcases Session.course_bind.1 h with ⟨as, bs, u, rfl, hc, hp⟩ | ⟨f, hc, rfl⟩ | ⟨hc, rfl⟩
  · obtain ⟨reply, rfl, hr⟩ := Session.course_call.1 (Session.course_log_bind.1 hc)
    obtain rfl := Option.some.inj hr
    obtain ⟨rfl, rfl⟩ := Session.course_pure.1 hp
    exact ⟨.ok u, rfl, rfl⟩
  · obtain ⟨reply, rfl, hr⟩ := Session.course_call.1 (Session.course_log_bind.1 hc)
    obtain rfl := Option.some.inj hr
    exact ⟨.error f, rfl, rfl⟩
  · obtain ⟨reply, rfl, hr⟩ := Session.course_call.1 (Session.course_log_bind.1 hc)
    nomatch hr

/-- **What activating a version lives through.** -/
theorem activates_of_course {cluster application : String} {version : Option Int32}
    {es : List Event} {out : Option (Except Failure Int32)}
    (h : (activate limit cluster application version).Course es out) :
    Activates limit cluster application es out := by
  rw [activate_eq] at h
  rcases (lists_resolve cluster application).looks.course_bind h with
    ⟨resolving, es, a, rfl, found, resolved, h⟩ | ⟨reads, failed⟩
  · rcases (Observe.lists_listVersions a.id).looks.course_bind h with
      ⟨listing, es, summaries, rfl, read, listed, h⟩ | ⟨reads, failed⟩
    · have looked := List.forall_mem_append.2 ⟨found, read⟩
      rw [← List.append_assoc]
      cases hc : chosen a (summaries.map (·.version)) version with
      | error r =>
        rw [hc] at h
        obtain ⟨rfl, rfl⟩ := Session.course_throw.1 h
        exact .stopped (by rwa [List.append_nil]) fun _ => nofun
      | ok v =>
        rw [hc] at h
        obtain ⟨reply, rfl, rfl⟩ := course_change h
        exact .requested resolved listed looked (mem_of_chosen hc) reply
    · exact .stopped (List.forall_mem_append.2 ⟨found, reads⟩) failed
  · exact .stopped reads failed

namespace Refused

/-- A control plane that replies to a change as if there were no version. -/
def answer : (q : Question) → Stub Unit → q.Reply × Stub Unit :=
  Stub.answer fun c s =>
    match c with
    | .listClusters _ => (.ok ⟨[⟨.ofNat 1, "prod"⟩], none⟩, s)
    | .listApplications _ _ => (.ok ⟨[⟨.ofNat 2, "web", .ofNat 1, some 1⟩], none⟩, s)
    | .listVersions _ _ => (.ok ⟨[⟨1, "nginx", 0, 1⟩], none⟩, s)
    | _ => (.error (.resolve (.noVersions "web")), s)

def activating : Session Int32 := activate 5 "prod" "web" none

/-- Such a failure may come after a change was requested, if it is what the request is replied. -/
theorem not_found_after_request :
    activating.result answer ⟨(), []⟩ = some (.error (.resolve (.noVersions "web"))) ∧
    mutating (activating.events answer ⟨(), []⟩) ≠ [] := by
  refine ⟨by decide +kernel, fun none_requested => ?_⟩
  exact absurd (congrArg List.length none_requested) (by decide +kernel)

end Refused

end Versions

end Converge
