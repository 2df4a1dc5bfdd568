import Converge.Proofs.Cluster.Asked
import Converge.Proofs.Cluster.Observe
import Converge.Proofs.Plan.Settled
/-!
# What is written down of a cluster is what is observed

Writing a cluster down sends the same requests as taking a snapshot of it.  From a control plane
that replies to each request that reads in one way only, both learn the same, so what is written
down is the configuration of the snapshot; and planning that leaves the cluster as it is.

A session that looks comes to one thing when each request has one reply (`Session.value_of_course`).
So the parts that a snapshot is put together from are known to the other session, which is put
together again from their values (`Session.value_bind` and the like).

Main statement: `plan_of_dump`.
-/

namespace Converge

/-! ## 1. Control planes that do not change -/

/-- Whether the reply to a request that only reads is a given one. -/
def Event.RepliedBy (replies : (c : Call) → Except Failure c.Reply) : Event → Prop
  | .request c reply => c.mutates = false → reply = replies c
  | _ => True

/-- What looking comes to does not depend on anything but the replies. -/
theorem Program.run_of_dialogue {replies : (c : Call) → Except Failure c.Reply} :
    ∀ {p : Program Session.interface α} {xs : List (Exchange Session.interface)} {out : Option α},
      p.Asks (fun q : Question => q.looks) → p.Dialogue xs out →
      (∀ e ∈ xs.filterMap Event.ofExchange, e.RepliedBy replies) →
      (p.run (Question.answerBy replies) ()).1 = out
  | .done _, _, _, _, ⟨_, hout⟩, _ => hout.symm
  | .unfinished, _, _, _, ⟨_, hout⟩, _ => hout.symm
  | .ask q next, _, _, ⟨hq, hnext⟩, ⟨reply, rest, rfl, h⟩, hs => by
    have known : reply = (Question.answerBy replies q ()).1 := by
      cases q with
      | call c =>
        have reads : c.mutates = false := by simpa [Question.looks] using hq
        exact hs (.request c reply) (by simp [Event.ofExchange]) reads
      | log _ _ => rfl
      | _ => nomatch hq
    subst known
    change ((next _).run (Question.answerBy replies) ()).1 = _
    refine run_of_dialogue (hnext _) h fun e he => hs e ?_
    obtain ⟨x, hx, hxe⟩ := List.mem_filterMap.1 he
    exact List.mem_filterMap.2 ⟨x, List.mem_cons_of_mem _ hx, hxe⟩

/-- Where a handler has no state, what follows a result depends on the result alone. -/
theorem Program.run_bind_of_run {I : Interface} {answer : (op : I.Op) → Unit → I.Reply op × Unit}
    {p : Program I α} {f : α → Program I β} {a : α} (h : (p.run answer ()).1 = some a) :
    ((p.bind f).run answer ()).1 = ((f a).run answer ()).1 := by
  rw [run_bind]
  generalize p.run answer () = ran at h
  obtain ⟨_, u⟩ := ran
  obtain rfl := h
  rfl

namespace Session

variable {replies : (c : Call) → Except Failure c.Reply} {s : Session α} {es : List Event}

/-- What a session comes to when each request has one reply. -/
def value (replies : (c : Call) → Except Failure c.Reply) (s : Session α) :
    Option (Except Failure α) :=
  s.result (Question.answerBy replies) ()

/-- **Looking comes to one thing** when each request has one reply. -/
theorem value_of_course {out : Option (Except Failure α)} (asks : s.Asks fun q => q.looks)
    (h : s.Course es out) (hs : ∀ e ∈ es, e.RepliedBy replies) : s.value replies = out := by
  obtain ⟨xs, hx, rfl⟩ := h
  exact Program.run_of_dialogue asks hx hs

/-- A session that succeeds is followed by what follows its value. -/
theorem value_bind {f : α → Session β} {a : α} (h : s.value replies = some (.ok a)) :
    (s >>= f).value replies = (f a).value replies :=
  Program.run_bind_of_run (f := ExceptT.bindCont f) h

theorem value_log_bind {level : Level} {text : String} {f : Unit → Session β} :
    (log level text >>= f).value replies = (f ()).value replies := rfl

theorem value_outcome {r : Except Failure α} (h : s.value replies = some r) :
    (outcome s).value replies = some (.ok r) :=
  Program.run_bind_of_run (f := fun r => .done (Except.ok r)) h

theorem value_mapM {f : α → Session β} {l : List α} {bs : List β}
    (h : List.Forall₂ (fun a b => (f a).value replies = some (.ok b)) l bs) :
    (l.mapM f).value replies = some (.ok bs) := by
  induction h with
  | nil => rw [List.mapM_nil]; rfl
  | cons ha _ ih =>
    rw [List.mapM_cons, value_bind ha, value_bind ih]
    rfl

/-- What is yielded by events that have the one reply is the value. -/
theorem value_of_yields {a : α} (asks : s.Asks fun q => q.looks) (h : s.Yields es a)
    (hs : ∀ e ∈ es, e.RepliedBy replies) : s.value replies = some (.ok a) := by
  obtain ⟨as, has, h⟩ := h
  exact value_of_course asks h fun e he => hs e (has e he)

end Session

/-! ## 2. The parts of a snapshot -/

/-- What a snapshot is put together from, as the values of the sessions that found it. -/
structure LiveState.Seen (replies : (c : Call) → Except Failure c.Reply) (limit : Nat)
    (name : String) (live : LiveState) : Prop where
  identity : (Observe.resolveCluster limit name).value replies = some (.ok live.cluster)
  detail : replies (.getCluster live.cluster.id) = .ok live.detail
  groups : (Observe.listGroups limit live.cluster.id).value replies = some (.ok live.groups)
  balancers : (live.groups.map (·.name)).Nodup → ∀ g ∈ live.groups,
    (Observe.listBalancers limit live.cluster.id g.id).value replies =
      some (.ok (live.balancersOf g))
  owned : live.Owned
  applications : ∃ listed,
    (Observe.listApplications limit live.cluster.id).value replies = some (.ok listed) ∧
    List.Forall₂ (fun a l => l.application = a ∧
      (Observe.latestVersion limit a.id).value replies = some (.ok l.latestVersion)) listed
      live.applications

theorem Observe.seen_of_course {replies : (c : Call) → Except Failure c.Reply} {limit : Nat}
    {name : String} {live : LiveState} {es : List Event}
    (h : (Observe.cluster limit name).Course es (some (.ok live)))
    (hs : ∀ e ∈ es, e.RepliedBy replies) : live.Seen replies limit name := by
  have taken := taken_of_course h
  obtain ⟨bs, hbs, hb⟩ := taken.balancers
  obtain ⟨listed, hlisted, cs, hcs, hlatest⟩ := taken.applications
  have served : ∀ e ∈ bs, e.RepliedBy replies := fun e he => hs e (hbs e he)
  refine {
    identity := Session.value_of_yields (lists_resolveCluster name).looks taken.identity hs
    detail := ?_
    groups := Session.value_of_yields (lists_listGroups _).looks taken.groups hs
    balancers := fun names g hg => ?_
    owned := fun owner found hget => ?_
    applications :=
      ⟨listed, Session.value_of_yields (lists_listApplications _).looks hlisted hs, ?_⟩ }
  · exact Option.some.inj (Session.value_of_yields (Session.asks_call rfl) taken.detail hs)
  · obtain ⟨found, as, hget, hl, has⟩ := (get?_of_course_balancersByGroup names hb served).1 g hg
    rw [LiveState.balancersOf, hget]
    exact Session.value_of_course (lists_listBalancers _ _).looks hl has
  · rcases mem_of_course_balancersByGroup hb served hget with hnone | ⟨g, hg, hn, -⟩
    · rw [SortedMap.get?_empty] at hnone
      cases hnone
    · exact ⟨g, hg, hn⟩
  · refine Session.forall₂_of_course_mapM (fun a fs l hc hp => ?_) hlatest fun e he =>
      hs e (hcs e he)
    obtain ⟨as, bs, latest, rfl, hv, hr⟩ := Session.course_bind_ok.1 hc
    obtain ⟨-, hr⟩ := Session.course_pure.1 hr
    obtain rfl := Except.ok.inj (Option.some.inj hr)
    refine ⟨rfl, Session.value_of_course (asks_latestVersion a.id) hv fun e he => hp e ?_⟩
    exact List.mem_append_left _ he

/-! ## 3. What is written down -/

namespace Dump

variable {replies : (c : Call) → Except Failure c.Reply} {limit : Nat}

/-- An application is written down with its latest version, if it has one. -/
theorem value_application {l : LiveApplication}
    (h : (Observe.latestVersion limit l.application.id).value replies =
      some (.ok l.latestVersion)) :
    (application limit l.application).value replies = some (.ok l.config?) := by
  have described : (application limit l.application).value replies = _ :=
    Session.value_bind (Session.value_outcome h)
  rw [described, LiveApplication.config?]
  cases l.latestVersion <;> rfl

theorem value_balancers {live : LiveState} {name : String} (seen : live.Seen replies limit name)
    (names : (live.groups.map (·.name)).Nodup) :
    (balancers limit live.cluster.id live.groups).value replies =
      some (.ok live.config.balancers) := by
  have found : List.Forall₂ (fun (g : Group) bs => Session.value replies (do
        let bs ← Observe.listBalancers limit live.cluster.id g.id
        pure (bs.map (Balancer.config g.name))) = some (.ok bs)) live.groups
      (live.groups.map fun g => (live.balancersOf g).map (Balancer.config g.name)) := by
    refine List.forall₂_map_right_iff.2 (List.forall₂_same.2 fun g hg => ?_)
    exact Session.value_bind (seen.balancers names g hg)
  rw [balancers, Session.value_bind (Session.value_mapM found), ← List.flatMap_def]
  rfl

/-- **What is written down is the configuration of the snapshot.** -/
theorem value_cluster {live : LiveState} {name : String} (seen : live.Seen replies limit name)
    (names : (live.groups.map (·.name)).Nodup) :
    (Dump.cluster limit name).value replies = some (.ok live.config) := by
  obtain ⟨listed, hlisted, latest⟩ := seen.applications
  have detail : (Session.call (.getCluster live.cluster.id)).value replies =
      some (.ok live.detail) := congrArg some seen.detail
  have configs : List.Forall₂ (fun a c => (application limit a).value replies = some (.ok c)) listed
      (live.applications.map (·.config?)) := by
    refine List.forall₂_map_right_iff.2 (latest.imp ?_)
    rintro _ l ⟨rfl, h⟩
    exact value_application h
  unfold Dump.cluster
  refine Session.value_log_bind.trans ?_
  rw [Session.value_bind seen.identity, Session.value_bind detail,
    Session.value_bind seen.groups, Session.value_bind (value_balancers seen names),
    Session.value_bind hlisted, Session.value_bind (Session.value_mapM configs), List.filterMap_map]
  rfl

end Dump

/-! ## 4. Planning it -/

/-- The replies that a handler gives to requests that read, where it gives one to each. -/
theorem Session.repliedBy_events {answer : (q : Question) → σ → q.Reply × σ}
    {replies : (c : Call) → Except Failure c.Reply}
    (still : ∀ c, c.mutates = false → ∀ s, (answer (.call c) s).1 = replies c) (x : Session α)
    (s : σ) : ∀ e ∈ x.events answer s, e.RepliedBy replies := by
  intro e he
  obtain ⟨⟨q, reply⟩, hx, hxe⟩ := List.mem_filterMap.1 he
  obtain ⟨t, ht⟩ := Program.exists_answer_of_mem_transcript hx
  cases q with
  | call c =>
    obtain rfl := Option.some.inj hxe
    exact fun hc => ht.trans (still c hc t)
  | loadLedger | saveLedger _ =>
    obtain rfl := Option.some.inj hxe
    trivial
  | _ => nomatch hxe

/-- **Writing down and planning agree.**  A control plane gives one reply to each request that
reads, and a snapshot of a cluster is taken from it, in which groups, load balancers of one group
and applications have names of their own, and so have the interfaces of each resource and the ports
and variables of each latest version.  Then the cluster can be written down, before or after; and
planning what is written down against the snapshot, with nothing in the ledger, leaves every group,
load balancer and application as it is, warns of each application that has no version, and would
change nothing but the contact address, if one is set. -/
theorem plan_of_dump {answer : (q : Question) → σ → q.Reply × σ}
    {replies : (c : Call) → Except Failure c.Reply} {limit : Nat} {name : String}
    {live : LiveState} {s : σ}
    (still : ∀ c, c.mutates = false → ∀ s, (answer (.call c) s).1 = replies c)
    (observed : (Observe.cluster limit name).result answer s = some (.ok live))
    (distinct : live.Distinct) (t : σ) (now : Timestamp) :
    ∃ config, (Dump.cluster limit name).result answer t = some (.ok config) ∧
      plan config live .empty now = .ok (live.settledPlan now) := by
  have seen : live.Seen replies limit name :=
    Observe.seen_of_course (Session.course_of_result observed)
      (Session.repliedBy_events still (Observe.cluster limit name) s)
  have dumped := Session.value_of_course (Dump.asks_cluster name)
    (Session.course_of_run answer (Dump.cluster limit name) t)
    (Session.repliedBy_events still (Dump.cluster limit name) t)
  refine ⟨live.config, ?_, plan_config distinct seen.owned now⟩
  rw [← dumped, Dump.value_cluster seen distinct.groupNames]

namespace WrittenDown

/-- A version with two ports and a secret. -/
def version : ApplicationVersion where
  version := 3
  cpu := 1000
  memory := 1024
  scalingMode := "cpu"
  fixedScale := none
  minScale := some 1
  maxScale := some 3
  scaleInThreshold := some 30
  scaleOutThreshold := none
  image := "nginx"
  cmd := ["run", "fast"]
  registryUsername := some ""
  exposedPorts := [⟨443, some 443, true, ["b.example", "a.example"], none⟩,
    ⟨80, none, false, [], some ⟨"/", 10, 5⟩⟩]
  env := [⟨"MODE", none, false⟩, ⟨"TOKEN", some "s3cret", true⟩]

def group (id : Nat) (name : String) : Group where
  id := .ofNat id
  name := name
  zone := "is1a"
  workerServiceClassPath := "cloud/plan/1"
  minNodes := 1
  maxNodes := 3
  nameServers := ["192.0.2.53"]
  interfaces := [⟨0, "shared", true, [], none, none, none⟩,
    ⟨1, "lan", false, [⟨"10.0.0.2", "10.0.0.9"⟩], some 24, some "10.0.0.1", none⟩]

def balancer : Balancer where
  id := .ofNat 20
  name := "front"
  serviceClassPath := "lb/plan/1"
  nameServers := []
  interfaces := [⟨0, "shared", [], none, none, some "192.0.2.1", some 1, none⟩]

/-- A control plane with two groups, of which one has a load balancer, and two applications, of
which one has a version. -/
def replies : (c : Call) → Except Failure c.Reply
  | .listClusters _ => .ok ⟨[⟨.ofNat 1, "prod"⟩], none⟩
  | .getCluster _ => .ok ⟨.ofNat 1, "prod", "principal", true⟩
  | .listGroups _ none => .ok ⟨[group 10 "edge"], some "more"⟩
  | .listGroups _ (some _) => .ok ⟨[group 11 "back"], none⟩
  | .listBalancers _ g _ => .ok ⟨if g = .ofNat 10 then [⟨.ofNat 20, "front"⟩] else [], none⟩
  | .getBalancer _ _ _ => .ok balancer
  | .listApplications _ _ =>
    .ok ⟨[⟨.ofNat 30, "web", .ofNat 1, some 3⟩, ⟨.ofNat 31, "new", .ofNat 1, none⟩], none⟩
  | .listVersions a _ =>
    .ok ⟨if a = .ofNat 30 then [⟨3, "nginx", 0, 1⟩, ⟨2, "old", 0, 0⟩] else [], none⟩
  | .getVersion _ _ => .ok version
  | _ => .error (.notFound "resource")

/-- What is observed of it. -/
def live : LiveState where
  cluster := ⟨"prod", .ofNat 1⟩
  detail := ⟨.ofNat 1, "prod", "principal", true⟩
  groups := [group 10 "edge", group 11 "back"]
  balancers := .ofList [("edge", [balancer]), ("back", [])]
  applications := [⟨⟨.ofNat 30, "web", .ofNat 1, some 3⟩, some version⟩,
    ⟨⟨.ofNat 31, "new", .ofNat 1, none⟩, none⟩]

/-- The application without a version and the contact address are what is left to say. -/
theorem plan_of_dump_leftovers :
    (∃ config, (Dump.cluster 2 "prod").result (Question.answerBy replies) () = some (.ok config) ∧
      plan config live .empty .epoch = .ok (live.settledPlan .epoch)) ∧
    (live.settledPlan .epoch).warnings =
      ["application \"new\" exists in the cluster but is not in YAML"] ∧
    (live.settledPlan .epoch).clusterAction =
      ⟨.update, ["LetsEncryptEmail: (set) -> (unset)"]⟩ := by
  have observed : (Observe.cluster 2 "prod").result (Question.answerBy replies) () =
      some (.ok live) := by decide +kernel
  have distinct : live.Distinct := {
    groupNames := by decide +kernel
    balancerNames := by decide +kernel
    applicationNames := by decide +kernel
    groupInterfaces := by decide +kernel
    balancerInterfaces := by decide +kernel
    ports := by decide +kernel
    keys := by decide +kernel }
  exact ⟨plan_of_dump (fun _ _ _ => rfl) observed distinct () .epoch, by decide +kernel,
    by decide +kernel⟩

end WrittenDown

end Converge
