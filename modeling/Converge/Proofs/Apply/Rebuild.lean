import Converge.Proofs.Apply.Script
import Converge.Proofs.Cluster.Observe
/-!
# What an apply makes of the infrastructure

An apply that succeeds against a control plane that behaves like a store has taken away what the
plan names by its identifiers and has added one group and one load balancer for each action that
creates one.  `Plan.kept` says what is left, and `Plan.Rebuilt` how the additions follow from the
plan and the configuration: in particular which group has become the owner of a new load balancer.
The plan may be any plan.

Each kind of step gets a lemma that says what it does when it succeeds, each stage one that follows
by induction over its actions.

Main statement: `Plan.rebuilt_of_course`.
-/

namespace Converge

/-- The identifiers by which the action deletes a load balancer: of the owner and its own. -/
def BalancerAction.target? (a : BalancerAction) : Option (Uuid × Uuid) :=
  a.groupId.bind fun owner => a.existingId.map fun id => (owner, id)

/-- The load balancers that a plan deletes. -/
def Plan.lostBalancers (plan : Plan) : List (Uuid × Uuid) :=
  (plan.balancerActions.filter (·.action.deletes)).filterMap (·.target?)

/-- The groups that a plan deletes. -/
def Plan.lostGroups (plan : Plan) : List Uuid :=
  (plan.groupActions.filter (·.action.deletes)).filterMap (·.existingId)

/-- The steps before anything is created: the settings and the deletions. -/
def Plan.clearing (plan : Plan) : List ApplyStep :=
  (if plan.clusterAction.action = .update then [.updateSettings] else [])
  ++ (plan.balancerActions.filter (·.action.deletes)).map .deleteBalancer
  ++ (plan.groupActions.filter (·.action.deletes)).map .deleteGroup

/-- No step for an application comes before the infrastructure is done. -/
theorem Plan.application_notMem_infrastructure (plan : Plan) (a : ApplicationAction) :
    .application a ∉ plan.clearing
      ++ (plan.groupActions.filter (·.action.creates)).map ApplyStep.createGroup
      ++ (plan.balancerActions.filter (·.action.creates)).map .createBalancer := by
  simp only [Plan.clearing, List.mem_append, List.mem_map, not_or]
  refine ⟨⟨⟨⟨?_, ?_⟩, ?_⟩, ?_⟩, ?_⟩
  · split <;> simp
  all_goals
    rintro ⟨_, _, he⟩
    cases he

/-- What a plan leaves of an infrastructure. -/
def Plan.kept (plan : Plan) (sites : List Site) : List Site :=
  (sites.map (·.without plan.lostBalancers)).filter (·.id ∉ plan.lostGroups)

/-- What a plan makes of an infrastructure when these groups and load balancers are created. -/
def Plan.rebuild (plan : Plan) (sites newGroups : List Site)
    (newBalancers : List (Uuid × Balancer)) : List Site :=
  (plan.kept sites ++ newGroups).map (·.adding newBalancers)

/-- The group that an action creates, as the configuration describes it. -/
def GroupAction.Makes (desired : ClusterConfig) (a : GroupAction) (s : Site) : Prop :=
  ∃ w id, desired.group? a.name = some w ∧ s = ⟨Simulation.storedGroup id w.request, []⟩

/-- The load balancer that an action creates, as the configuration describes it. -/
def BalancerAction.Makes (desired : ClusterConfig) (a : BalancerAction) (b : Balancer) : Prop :=
  ∃ w id, desired.balancer? a.groupName a.name = some w ∧
    b = Simulation.storedBalancer id w.request

theorem GroupAction.Makes.name {desired : ClusterConfig} {a : GroupAction} {s : Site}
    (h : a.Makes desired s) : s.name = a.name := by
  obtain ⟨w, id, hw, rfl⟩ := h
  exact (find?_key_eq_some hw).2

/-- Where the owner of a new load balancer comes from: a group that was created in this apply comes
first, then the identifier in the plan, then a group that is there. -/
inductive BalancerAction.Owner (a : BalancerAction) (created : List (String × Uuid))
    (groups : List Group) (id : Uuid) : Prop where
  | created (h : created.lookup a.groupName = some id)
  | planned (hc : created.lookup a.groupName = none) (h : a.groupId = some id)
  | found {g} (hg : g ∈ groups) (hn : g.name = a.groupName) (hi : g.id = id)

namespace ApplyContext

variable {c : ApplyContext} {p q : Progress} {es : List Event} {u : Unit}
  {paging : Paging} {sites : List Site}

/-! ## 1. Steps -/

theorem Acts.deletes_balancer {a : BalancerAction}
    (h : c.Acts (.deleteBalancer a) p es (some (.ok u, q))) :
    q.created = p.created ∧ ∃ t, a.target? = some t ∧
      ∀ sites, effects c.cluster.id sites es = sites.map (·.without [t]) := by
  generalize ho : some (Except.ok u, q) = out at h
  cases h with
  | balancerUnidentified _ => nomatch ho
  | balancerRefused _ _ => nomatch ho
  | @balancerDeleted _ _ owner id rest o hg hi hw =>
    obtain _ | _ | _ := o <;> cases ho
    refine ⟨rfl, (owner, id), by simp [BalancerAction.target?, hg, hi], fun sites => ?_⟩
    have reads := (Deletion.reads_wait _ _ _ _ (Session.reads_call rfl)).only _ _ hw
    rw [effects_cons, effects_of_reads reads, Event.effect, if_pos rfl]

theorem Acts.deletes_group {a : GroupAction}
    (h : c.Acts (.deleteGroup a) p es (some (.ok u, q))) :
    q.created = p.created ∧ ∃ id, a.existingId = some id ∧
      ∀ sites, effects c.cluster.id sites es = sites.filter (·.id ≠ id) := by
  generalize ho : some (Except.ok u, q) = out at h
  cases h with
  | groupUnidentified _ => nomatch ho
  | groupRefused _ => nomatch ho
  | @groupDeleted _ _ id rest o hi hw =>
    obtain _ | _ | _ := o <;> cases ho
    refine ⟨rfl, id, hi, fun sites => ?_⟩
    have reads := (Deletion.reads_wait _ _ _ _ (Session.reads_call rfl)).only _ _ hw
    rw [effects_cons, effects_of_reads reads, Event.effect, if_pos rfl]

theorem Acts.creates_group {a : GroupAction}
    (h : c.Acts (.createGroup a) p es (some (.ok u, q))) :
    ∃ s, a.Makes c.desired s ∧ q.created = (a.name, s.id) :: p.created ∧
      ∀ sites, effects c.cluster.id sites es = sites ++ [s] := by
  generalize ho : some (Except.ok u, q) = out at h
  cases h with
  | groupUnknown _ => nomatch ho
  | @groupCreated _ _ w hw reply =>
    obtain _ | id := reply <;> cases ho
    refine ⟨_, ⟨w, id, hw, rfl⟩, rfl, fun sites => ?_⟩
    rw [effects_cons, effects_nil, Event.effect, if_pos rfl]

theorem Acts.creates_balancer {a : BalancerAction}
    (h : c.Acts (.createBalancer a) p es (some (.ok u, q))) :
    q.created = p.created ∧ ∃ b owner as bs, a.Makes c.desired b ∧ es = as ++ bs ∧
      c.Owns a p as (some (.ok owner)) ∧
      ∀ sites, effects c.cluster.id sites es = sites.map (·.adding [(owner, b)]) := by
  generalize ho : some (Except.ok u, q) = out at h
  cases h with
  | balancerUnknown _ => nomatch ho
  | @balancerOwnerless _ _ _ _ o _ _ hn =>
    obtain _ | _ | id := o <;> cases ho
    exact absurd rfl (hn id)
  | @balancerCreated _ _ w as owner hw howns reply =>
    obtain _ | id := reply <;> cases ho
    refine ⟨rfl, _, owner, as, _, ⟨w, id, hw, rfl⟩, rfl, howns, fun sites => ?_⟩
    rw [effects_append, effects_of_reads howns.reads.1, effects_cons, effects_nil, Event.effect,
      if_pos rfl]

theorem Targets.keeps_infrastructure {a : ApplicationAction}
    {t : Uuid × Option ApplicationVersion} (h : c.Targets a p es (some (.ok t, q))) :
    q.created = p.created ∧ ∀ sites, effects c.cluster.id sites es = sites := by
  generalize ho : some (Except.ok t, q) = out at h
  cases h with
  | created _ =>
    cases ho
    exact ⟨rfl, fun sites => rfl⟩
  | refused _ => nomatch ho
  | unidentified _ _ => nomatch ho
  | @based id _ o _ _ hb =>
    obtain _ | _ | base := o <;> cases ho
    exact ⟨rfl, fun sites => effects_of_reads ((Observe.reads_latestVersion _ _).only _ _ hb)⟩

/-- The steps for the settings and the applications leave the infrastructure alone. -/
theorem Acts.keeps_infrastructure {s : ApplyStep}
    (hs : s = .updateSettings ∨ ∃ a, s = .application a)
    (h : c.Acts s p es (some (.ok u, q))) :
    q.created = p.created ∧ ∀ sites, effects c.cluster.id sites es = sites := by
  generalize ho : some (Except.ok u, q) = out at h
  obtain rfl | ⟨a, rfl⟩ := hs
  · cases h with
    | settingsMissing _ => nomatch ho
    | settings _ reply =>
      obtain _ | _ := reply <;> cases ho
      exact ⟨rfl, fun sites => rfl⟩
  · cases h with
    | applicationUnknown _ => nomatch ho
    | @applicationUntargeted _ _ _ _ o _ _ hn =>
      obtain _ | ⟨_ | t, q'⟩ := o <;> cases ho
      exact absurd rfl (hn t q')
    | versionRefused _ _ => nomatch ho
    | versionKept _ ht _ =>
      cases ho
      obtain ⟨hc, he⟩ := ht.keeps_infrastructure
      exact ⟨hc, fun sites => by rw [effects_append, he]; rfl⟩
    | versionActivated _ ht _ reply =>
      obtain _ | _ := reply <;> cases ho
      obtain ⟨hc, he⟩ := ht.keeps_infrastructure
      exact ⟨hc, fun sites => by rw [effects_append, he]; rfl⟩

/-! ## 2. Stages -/

theorem ActsAll.keeps_infrastructure : ∀ {l : List ApplyStep} {p : Progress} {es : List Event},
    (∀ s ∈ l, s = .updateSettings ∨ ∃ a, s = .application a) →
    c.ActsAll l p es (some (.ok u, q)) →
    q.created = p.created ∧ ∀ sites, effects c.cluster.id sites es = sites
  | [], p, es, _, h => by
    cases h
    exact ⟨rfl, fun _ => rfl⟩
  | s :: rest, p, es, hl, h => by
    obtain ⟨hs, hrest⟩ := List.forall_mem_cons.1 hl
    cases h with
    | cons h hr =>
      obtain ⟨hc, he⟩ := h.keeps_infrastructure hs
      obtain ⟨hc', he'⟩ := ActsAll.keeps_infrastructure hrest hr
      exact ⟨hc'.trans hc, fun sites => by rw [effects_append, he, he']⟩

theorem ActsAll.deletes_balancers : ∀ {l : List BalancerAction} {p : Progress} {es : List Event},
    c.ActsAll (l.map .deleteBalancer) p es (some (.ok u, q)) →
    q.created = p.created ∧ ∀ sites,
      effects c.cluster.id sites es = sites.map (·.without (l.filterMap (·.target?)))
  | [], p, es, h => by
    cases h
    exact ⟨rfl, fun sites => by simp⟩
  | a :: rest, p, es, h => by
    cases h with
    | cons h hr =>
      obtain ⟨hc, t, ht, he⟩ := h.deletes_balancer
      obtain ⟨hc', he'⟩ := ActsAll.deletes_balancers hr
      refine ⟨hc'.trans hc, fun sites => ?_⟩
      rw [effects_append, he, he', List.map_map, List.filterMap_cons_some ht]
      exact List.map_congr_left fun s _ => Site.without_without [t] _ s

theorem ActsAll.deletes_groups : ∀ {l : List GroupAction} {p : Progress} {es : List Event},
    c.ActsAll (l.map .deleteGroup) p es (some (.ok u, q)) →
    q.created = p.created ∧ ∀ sites,
      effects c.cluster.id sites es = sites.filter (·.id ∉ l.filterMap (·.existingId))
  | [], p, es, h => by
    cases h
    exact ⟨rfl, fun sites => by simp⟩
  | a :: rest, p, es, h => by
    cases h with
    | cons h hr =>
      obtain ⟨hc, id, hi, he⟩ := h.deletes_group
      obtain ⟨hc', he'⟩ := ActsAll.deletes_groups hr
      refine ⟨hc'.trans hc, fun sites => ?_⟩
      rw [effects_append, he, he', List.filter_filter, List.filterMap_cons_some hi]
      refine List.filter_congr fun s _ => ?_
      simp [Bool.and_comm]

theorem ActsAll.creates_groups : ∀ {l : List GroupAction} {p : Progress} {es : List Event},
    c.ActsAll (l.map .createGroup) p es (some (.ok u, q)) →
    ∃ new, List.Forall₂ (·.Makes c.desired) l new ∧
      q.created = (new.map fun s => (s.name, s.id)).reverse ++ p.created ∧
      ∀ sites, effects c.cluster.id sites es = sites ++ new
  | [], p, es, h => by
    cases h
    exact ⟨[], .nil, rfl, fun sites => by simp⟩
  | a :: rest, p, es, h => by
    cases h with
    | cons h hr =>
      obtain ⟨s, hs, hc, he⟩ := h.creates_group
      obtain ⟨new, hnew, hc', he'⟩ := ActsAll.creates_groups hr
      refine ⟨s :: new, .cons hs hnew, ?_, fun sites => ?_⟩
      · rw [hc', hc, ← hs.name]
        simp
      · rw [effects_append, he, he', List.append_assoc]
        rfl

/-- An owner that is looked up is a group that is there. -/
theorem Owns.owner {a : BalancerAction} {id : Uuid} (h : c.Owns a p es (some (.ok id)))
    (hs : (Part.infrastructure paging c.cluster.id).Serves sites es) :
    a.Owner p.created (sites.map (·.group)) id := by
  have reads := h.reads.1
  cases h with
  | created h => exact .created h
  | planned hc h => exact .planned hc h
  | found hc hp h hg =>
    obtain ⟨hm, hn⟩ := find?_key_eq_some hg
    have listed := Observe.listGroups_perm h (Part.serves_of_reads reads hs)
    exact .found (listed.mem_iff.1 hm) hn rfl

/-- New load balancers do not touch the groups, so that all of them find their owners among the
same ones. -/
theorem ActsAll.creates_balancers : ∀ {l : List BalancerAction} {p : Progress} {es : List Event}
    {sites : List Site}, c.ActsAll (l.map .createBalancer) p es (some (.ok u, q)) →
    (Part.infrastructure paging c.cluster.id).Serves sites es →
    q.created = p.created ∧ ∃ new,
      List.Forall₂ (fun a t => a.Makes c.desired t.2 ∧
        a.Owner p.created (sites.map (·.group)) t.1) l new ∧
      effects c.cluster.id sites es = sites.map (·.adding new)
  | [], p, es, sites, h, _ => by
    cases h
    exact ⟨rfl, [], .nil, by simp⟩
  | a :: rest, p, es, sites, h, hs => by
    cases h with
    | @cons _ _ _ r fs gs _ h hr =>
      obtain ⟨hc, b, owner, as, bs, hb, rfl, howns, he⟩ := h.creates_balancer
      obtain ⟨hfs, hgs⟩ := serves_append.1 hs
      have owned := howns.owner (serves_append.1 hfs).1
      obtain ⟨hc', new, hnew, he'⟩ := ActsAll.creates_balancers hr hgs
      rw [hc, he, map_group_adding] at hnew
      refine ⟨hc'.trans hc, (owner, b) :: new, .cons ⟨hb, owned⟩ hnew, ?_⟩
      rw [effects_append, he', he, List.map_map]
      exact List.map_congr_left fun s _ => Site.adding_adding [(owner, b)] new s

end ApplyContext

/-! ## 3. The whole apply -/

/-- Whether these are the groups that a plan creates. -/
def Plan.MakesGroups (plan : Plan) (desired : ClusterConfig) (newGroups : List Site) : Prop :=
  List.Forall₂ (·.Makes desired) (plan.groupActions.filter (·.action.creates)) newGroups

/-- How new groups and load balancers follow from a plan, a configuration and the infrastructure
that the plan is applied to. -/
structure Plan.Rebuilt (plan : Plan) (desired : ClusterConfig) (sites newGroups : List Site)
    (newBalancers : List (Uuid × Balancer)) : Prop where
  groups : plan.MakesGroups desired newGroups
  balancers : List.Forall₂ (fun a t => a.Makes desired t.2 ∧
      a.Owner (newGroups.map fun s => (s.name, s.id)).reverse
        ((plan.kept sites ++ newGroups).map (·.group)) t.1)
    (plan.balancerActions.filter (·.action.creates)) newBalancers

namespace ApplyContext

variable {c : ApplyContext} {plan : Plan} {ledger : SecretLedger} {es : List Event} {q : Progress}
  {u : Unit} {paging : Paging} {sites : List Site}

/-- The deletions leave what the plan keeps. -/
theorem ActsAll.clears (h : c.ActsAll plan.clearing (.start ledger) es (some (.ok u, q))) :
    q.created = [] ∧ ∀ sites, effects c.cluster.id sites es = plan.kept sites := by
  obtain ⟨es₂, deleteGroups, p₂, rfl, l₂, h₃⟩ := h.append_ok
  obtain ⟨settings, deleteBalancers, p₁, rfl, h₁, h₂⟩ := l₂.append_ok
  obtain ⟨hc₁, he₁⟩ := h₁.keeps_infrastructure (by split <;> simp)
  obtain ⟨hc₂, he₂⟩ := h₂.deletes_balancers
  obtain ⟨hc₃, he₃⟩ := h₃.deletes_groups
  refine ⟨hc₃.trans (hc₂.trans hc₁), fun sites => ?_⟩
  rw [effects_append, effects_append, he₁, he₂, he₃]
  rfl

theorem ActsAll.rebuilds (h : c.ActsAll plan.script (.start ledger) es (some (.ok u, q)))
    (hs : (Part.infrastructure paging c.cluster.id).Serves sites es) :
    ∃ newGroups newBalancers, plan.Rebuilt c.desired sites newGroups newBalancers ∧
      effects c.cluster.id sites es = plan.rebuild sites newGroups newBalancers := by
  -- the stages, the last one first
  obtain ⟨es₅, applications, p₅, rfl, l₅, h₆⟩ := h.append_ok
  obtain ⟨es₄, createBalancers, p₄, rfl, l₄, h₅⟩ := l₅.append_ok
  obtain ⟨clearing, createGroups, p₃, rfl, l₃, h₄⟩ := l₄.append_ok
  have cleared : c.ActsAll plan.clearing _ _ _ := l₃
  obtain ⟨hc₃, he₃⟩ := cleared.clears
  obtain ⟨newGroups, hg, hc₄, he₄⟩ := h₄.creates_groups
  obtain ⟨-, he₆⟩ := h₆.keeps_infrastructure fun s hm => by
    obtain ⟨a, -, rfl⟩ := List.mem_map.1 hm
    exact .inr ⟨a, rfl⟩
  have created : p₄.created = (newGroups.map fun s => (s.name, s.id)).reverse := by
    rw [hc₄, hc₃, List.append_nil]
  have middle : effects c.cluster.id sites (clearing ++ createGroups) =
      plan.kept sites ++ newGroups := by
    rw [effects_append, he₃, he₄]
  have served := (serves_append.1 (serves_append.1 hs).1).2
  rw [middle] at served
  obtain ⟨-, newBalancers, hb, he₅⟩ := h₅.creates_balancers served
  rw [created] at hb
  refine ⟨newGroups, newBalancers, ⟨hg, hb⟩, ?_⟩
  rw [effects_append, he₆, effects_append, middle, he₅]
  rfl

end ApplyContext

theorem Saves.effects_eq {p : Progress} {es : List Event} {saved : Except Failure Unit}
    (h : Saves p es saved) (cluster : Uuid) (sites : List Site) :
    effects cluster sites es = sites := by
  cases h <;> rfl

/-- **What an apply that succeeds makes of the infrastructure**: it keeps what the plan does not
delete, and adds what the plan creates. -/
theorem Plan.rebuilt_of_course {plan : Plan} {options : ApplyOptions} {desired : ClusterConfig}
    {ledger : SecretLedger} {es : List Event} {r : ExecutionResult} {paging : Paging}
    {sites : List Site} (h : (execute options desired plan ledger).Course es (some (.ok r)))
    (hs : (Part.infrastructure paging plan.cluster.id).Serves sites es) :
    ∃ newGroups newBalancers, plan.Rebuilt desired sites newGroups newBalancers ∧
      effects plan.cluster.id sites es = plan.rebuild sites newGroups newBalancers := by
  rcases execute_cases h with ⟨-, ho⟩ | ⟨as, bs, out, p, saved, rfl, hsteps, hsave, ho⟩
  · nomatch ho
  obtain f | u := out
  · nomatch ho
  obtain ⟨newGroups, newBalancers, built, he⟩ := hsteps.rebuilds (serves_append.1 hs).1
  refine ⟨newGroups, newBalancers, built, ?_⟩
  rw [effects_append, hsave.effects_eq]
  exact he

end Converge
