import Converge.Proofs.Apply.Runs
/-!
# Whose failure it is

When an operation fails, the failure stands among the replies or it is one of those that the
operation raises by itself.  `Session.FailsBy own s` says that `s` raises none but those with the
property `own`.  Draining a listing and looking for the latest version raise none at all; waiting
for a deletion raises that the time is up.

`ApplyContext.Raises` lists what a step of an apply raises by itself, each failure with what leads
to it, whatever the plan and the configuration.

Main statements: `ApplyContext.Acts.raises` and `ApplyContext.ActsAll.failed`.
-/

namespace Converge

/-! ## 1. Failures of sessions -/

/-- A failure that the session comes to was replied, or it has a property. -/
def Session.FailsBy (own : Failure → Prop) (s : Session α) : Prop :=
  ∀ es f, s.Course es (some (.error f)) → own f ∨ ∃ e ∈ es, e.failure? = some f

namespace Session

variable {own : Failure → Prop} {s : Session α}

theorem failsBy_pure (a : α) : FailsBy own (pure a : Session α) := by
  intro es f h
  obtain ⟨-, ho⟩ := course_pure.1 h
  nomatch ho

theorem failsBy_throw {f : Failure} (hf : own f) : FailsBy own (throw f : Session α) := by
  intro es g h
  obtain ⟨-, ho⟩ := course_throw.1 h
  obtain rfl := Except.error.inj (Option.some.inj ho)
  exact .inl hf

theorem failsBy_unfinished : FailsBy own (unfinished : Session α) := by
  intro es f h
  obtain ⟨-, ho⟩ := course_unfinished.1 h
  nomatch ho

theorem failsBy_call (c : Call) : FailsBy own (call c) := by
  intro es f h
  obtain ⟨reply, rfl, ho⟩ := course_call.1 h
  obtain rfl := Option.some.inj ho
  exact .inr ⟨_, List.mem_singleton.2 rfl, rfl⟩

theorem failsBy_bind {f : α → Session β} (hs : s.FailsBy own) (hf : ∀ a, (f a).FailsBy own) :
    (s >>= f).FailsBy own := by
  intro es g h
  rcases course_bind.1 h with ⟨as, bs, a, rfl, -, h⟩ | ⟨e, h, ho⟩ | ⟨-, ho⟩
  · rcases hf a bs g h with hg | ⟨e, he, hg⟩
    · exact .inl hg
    · exact .inr ⟨e, List.mem_append_right _ he, hg⟩
  · obtain rfl := Except.error.inj (Option.some.inj ho)
    exact hs es g h
  · nomatch ho

theorem failsBy_ask_bind {q : Question} (silent : ∀ reply, Event.ofExchange ⟨q, reply⟩ = none)
    {f : q.Reply → Session β} (hf : ∀ a, (f a).FailsBy own) : (ask q >>= f).FailsBy own := by
  intro es g h
  obtain ⟨reply, h⟩ := (course_ask_bind silent).1 h
  exact hf reply es g h

theorem failsBy_log_bind {level : Level} {text : String} {f : Unit → Session β}
    (hf : (f ()).FailsBy own) : (log level text >>= f).FailsBy own :=
  failsBy_ask_bind (fun _ => rfl) fun _ => hf

theorem failsBy_log (level : Level) (text : String) : (log level text).FailsBy own := by
  intro es f h
  obtain ⟨-, ho⟩ := course_log.1 h
  nomatch ho

/-- The outcome of a session may be looked at, and its failure thrown again. -/
theorem failsBy_outcome_bind {f : Except Failure α → Session β} (hs : s.FailsBy own)
    (hok : ∀ a, (f (.ok a)).FailsBy own)
    (herr : ∀ g, (f (.error g)).FailsBy own ∨ f (.error g) = throw g) :
    (outcome s >>= f).FailsBy own := by
  intro es g h
  rcases course_bind.1 h with ⟨as, bs, r, rfl, h1, h2⟩ | ⟨e, h1, -⟩ | ⟨-, ho⟩
  · obtain ⟨_ | o, looked, ho⟩ := course_outcome.1 h1 <;> cases ho
    have later : (f r).FailsBy own → own g ∨ ∃ e ∈ as ++ bs, e.failure? = some g := by
      intro hr
      rcases hr bs g h2 with hg | ⟨e, he, hg⟩
      · exact .inl hg
      · exact .inr ⟨e, List.mem_append_right _ he, hg⟩
    cases r with
    | ok a => exact later (hok a)
    | error k =>
      rcases herr k with hr | hr
      · exact later hr
      · obtain ⟨rfl, ho⟩ := course_throw.1 (hr ▸ h2)
        obtain rfl := Except.error.inj (Option.some.inj ho)
        rw [List.append_nil]
        exact hs as g looked
  · obtain ⟨_ | o, -, ho⟩ := course_outcome.1 h1 <;> nomatch ho
  · nomatch ho

end Session

theorem failsBy_collectFrom {own : Failure → Prop} {fetch : Option String → Session (Page α)}
    (hf : ∀ cursor, (fetch cursor).FailsBy own) : ∀ limit seen cursor,
    (collectFrom fetch limit seen cursor).FailsBy own
  | 0, _, _ => Session.failsBy_unfinished
  | limit + 1, seen, cursor => by
    unfold collectFrom
    refine Session.failsBy_bind (hf cursor) fun page => ?_
    cases page.next with
    | none => exact Session.failsBy_pure _
    | some next =>
      dsimp only
      split
      · exact Session.failsBy_log_bind (Session.failsBy_pure _)
      · refine Session.failsBy_log_bind (Session.failsBy_bind ?_ fun _ => Session.failsBy_pure _)
        exact failsBy_collectFrom hf limit _ _

namespace Observe

/-- Listing the groups raises no failure by itself. -/
theorem failsBy_listGroups (limit : Nat) (cluster : Uuid) :
    (listGroups limit cluster).FailsBy fun _ => False :=
  failsBy_collectFrom (fun _ => Session.failsBy_call _) limit [] none

/-- Looking for the latest version raises no failure by itself. -/
theorem failsBy_latestVersion (limit : Nat) (application : Uuid) :
    (latestVersion limit application).FailsBy fun _ => False := by
  refine Session.failsBy_bind ?_ fun summaries => ?_
  · exact failsBy_collectFrom (fun _ => Session.failsBy_call _) limit [] none
  · split
    · exact Session.failsBy_bind (Session.failsBy_call _) fun _ => Session.failsBy_pure _
    · exact Session.failsBy_pure _

end Observe

namespace Deletion

/-- Said when a resource was still there when the time was up. -/
def TimeIsUp (resourceType name : String) (f : Failure) : Prop :=
  ∃ elapsed, f = .apply (.deletionTimeout resourceType name elapsed)

theorem failsBy_waitFrom {poll : PollSettings} {resourceType name : String} {start : Nat}
    {probe : Session α} (hp : probe.FailsBy (TimeIsUp resourceType name)) : ∀ limit,
    (waitFrom poll resourceType name start probe limit).FailsBy (TimeIsUp resourceType name)
  | 0 => Session.failsBy_unfinished
  | limit + 1 => by
    refine Session.failsBy_outcome_bind hp (fun _ => ?_) fun g => ?_
    · refine Session.failsBy_log_bind (Session.failsBy_ask_bind (fun _ => rfl) fun now => ?_)
      dsimp only
      split
      · exact Session.failsBy_log_bind (Session.failsBy_throw ⟨_, rfl⟩)
      · exact Session.failsBy_ask_bind (fun _ => rfl) fun _ => failsBy_waitFrom hp limit
    · dsimp only
      split
      · exact .inr rfl
      · exact .inl (Session.failsBy_log_bind (Session.failsBy_log _ _))

/-- Waiting raises nothing but that the time is up. -/
theorem failsBy_wait (limit : Nat) (poll : PollSettings) (resourceType name : String)
    {probe : Session α} (hp : probe.FailsBy (TimeIsUp resourceType name)) :
    (wait limit poll resourceType name probe).FailsBy (TimeIsUp resourceType name) :=
  Session.failsBy_ask_bind (fun _ => rfl) fun _ => failsBy_waitFrom hp limit

end Deletion

/-! ## 2. Failures of steps -/

namespace ApplyContext

/-- What a step raises by itself, with what leads to it: `p` is the progress before the step and
`es` what the step has lived through. -/
inductive Raises (c : ApplyContext) (p : Progress) (es : List Event) :
    ApplyStep → ApplyError → Prop where
  | noSettings (h : c.desired.cluster = none) :
      Raises c p es .updateSettings (.missingConfig "cluster settings" c.cluster.name)
  | noBalancerId {a} (h : a.groupId = none ∨ a.existingId = none) :
      Raises c p es (.deleteBalancer a)
        (.missingIdentifier "delete" "load balancer" a.label noIdentifier)
  | balancerStays {a elapsed} :
      Raises c p es (.deleteBalancer a) (.deletionTimeout "load balancer" a.name elapsed)
  | noGroupId {a} (h : a.existingId = none) :
      Raises c p es (.deleteGroup a)
        (.missingIdentifier "delete" "auto-scaling group" a.name noIdentifier)
  | groupStays {a elapsed} :
      Raises c p es (.deleteGroup a) (.deletionTimeout "auto-scaling group" a.name elapsed)
  | noGroup {a} (h : c.desired.group? a.name = none) :
      Raises c p es (.createGroup a) (.missingConfig "auto-scaling group" a.name)
  | noBalancer {a} (h : c.desired.balancer? a.groupName a.name = none) :
      Raises c p es (.createBalancer a) (.missingConfig "load balancer" a.label)
  | noOwner {a groups} (hc : p.created.lookup a.groupName = none) (hp : a.groupId = none)
      (hl : (Observe.listGroups c.limit c.cluster.id).Course es (some (.ok groups)))
      (hg : ∀ g ∈ groups, g.name ≠ a.groupName) :
      Raises c p es (.createBalancer a) (.missingIdentifier "create" "load balancer" a.name
        ("auto-scaling group " ++ a.groupName ++ " does not exist"))
  | noApplication {a} (h : c.desired.application? a.name = none) :
      Raises c p es (.application a) (.missingConfig "application" a.name)
  | noApplicationId {a} (h : a.action ≠ .create) (hi : a.applicationId = none) :
      Raises c p es (.application a)
        (.missingIdentifier "update" "application" a.name noIdentifier)

variable {c : ApplyContext} {p q : Progress} {es : List Event} {f : Failure}

/-- A failure that was replied, or that the step raises by itself. -/
def Blamed (c : ApplyContext) (p : Progress) (es : List Event) (s : ApplyStep) (f : Failure) :
    Prop :=
  (∃ e ∈ es, e.failure? = some f) ∨ ∃ e, f = .apply e ∧ c.Raises p es s e

theorem Targets.raises {a : ApplicationAction} (h : c.Targets a p es (some (.error f, q))) :
    c.Blamed p es (.application a) f := by
  generalize ho : some (Except.error f, q) = out at h
  cases h with
  | created _ => nomatch ho
  | refused _ =>
    cases ho
    exact .inl ⟨_, List.mem_singleton.2 rfl, rfl⟩
  | unidentified ha hi =>
    cases ho
    exact .inr ⟨_, rfl, .noApplicationId ha hi⟩
  | @based app _ o ha hi hb =>
    obtain _ | _ | _ := o <;> cases ho
    exact .inl ((Observe.failsBy_latestVersion _ _ _ _ hb).resolve_left id)

theorem Owns.raises {a : BalancerAction} (h : c.Owns a p es (some (.error f))) :
    c.Blamed p es (.createBalancer a) f := by
  generalize ho : some (Except.error f) = out at h
  cases h with
  | created _ => nomatch ho
  | planned _ _ => nomatch ho
  | found _ _ _ _ => nomatch ho
  | missing hc hp hl hg =>
    cases ho
    refine .inr ⟨_, rfl, .noOwner hc hp hl fun g hm hn => ?_⟩
    exact List.find?_eq_none.1 hg g hm (decide_eq_true hn)
  | unlisted hc hp hl =>
    cases ho
    exact .inl ((Observe.failsBy_listGroups _ _ _ _ hl).resolve_left id)
  | unfinished _ _ _ => nomatch ho

/-- **Every failure of a step is replied or listed.** -/
theorem Acts.raises {s : ApplyStep} (h : c.Acts s p es (some (.error f, q))) :
    c.Blamed p es s f := by
  have first : ∀ {call : Call} {g : Failure} {rest : List Event},
      ∃ e ∈ Event.request call (.error g) :: rest, e.failure? = some g :=
    ⟨_, List.mem_cons_self, rfl⟩
  have last : ∀ {call : Call} {g : Failure} {before : List Event},
      ∃ e ∈ before ++ [Event.request call (.error g)], e.failure? = some g :=
    ⟨_, List.mem_append_right _ (List.mem_singleton.2 rfl), rfl⟩
  generalize ho : some (Except.error f, q) = out at h
  cases h with
  | settingsMissing h =>
    cases ho
    exact .inr ⟨_, rfl, .noSettings h⟩
  | settings _ reply =>
    obtain g | _ := reply <;> cases ho
    exact .inl first
  | balancerUnidentified h =>
    cases ho
    exact .inr ⟨_, rfl, .noBalancerId h⟩
  | balancerRefused _ _ =>
    cases ho
    exact .inl first
  | @balancerDeleted a _ owner id rest o _ _ hw =>
    obtain _ | g | _ := o <;> cases ho
    rcases Deletion.failsBy_wait _ _ _ _ (Session.failsBy_call _) _ _ hw with ⟨n, rfl⟩ | ⟨e, he, hf⟩
    · exact .inr ⟨_, rfl, .balancerStays⟩
    · exact .inl ⟨e, List.mem_cons_of_mem _ he, hf⟩
  | groupUnidentified h =>
    cases ho
    exact .inr ⟨_, rfl, .noGroupId h⟩
  | groupRefused _ =>
    cases ho
    exact .inl first
  | @groupDeleted a _ id rest o _ hw =>
    obtain _ | g | _ := o <;> cases ho
    rcases Deletion.failsBy_wait _ _ _ _ (Session.failsBy_call _) _ _ hw with ⟨n, rfl⟩ | ⟨e, he, hf⟩
    · exact .inr ⟨_, rfl, .groupStays⟩
    · exact .inl ⟨e, List.mem_cons_of_mem _ he, hf⟩
  | groupUnknown h =>
    cases ho
    exact .inr ⟨_, rfl, .noGroup h⟩
  | groupCreated _ reply =>
    obtain g | _ := reply <;> cases ho
    exact .inl first
  | balancerUnknown h =>
    cases ho
    exact .inr ⟨_, rfl, .noBalancer h⟩
  | @balancerOwnerless a _ _ _ o _ hown _ =>
    obtain _ | _ | _ := o <;> cases ho
    exact hown.raises
  | balancerCreated _ _ reply =>
    obtain g | _ := reply <;> cases ho
    exact .inl last
  | applicationUnknown h =>
    cases ho
    exact .inr ⟨_, rfl, .noApplication h⟩
  | @applicationUntargeted a _ _ _ o _ ht _ =>
    obtain _ | ⟨_ | _, _⟩ := o <;> cases ho
    exact ht.raises
  | versionRefused _ _ =>
    cases ho
    exact .inl last
  | versionKept _ _ _ => nomatch ho
  | versionActivated _ _ _ reply =>
    obtain g | _ := reply <;> cases ho
    exact .inl ⟨_, List.mem_append_right _ (List.mem_cons_of_mem _ (List.mem_singleton.2 rfl)),
      rfl⟩

/-! ## 3. Where a run fails -/

/-- **A run that fails has taken the steps before one that fails**, and says which. -/
theorem ActsAll.failed : ∀ {steps : List ApplyStep} {p : Progress} {es : List Event},
    c.ActsAll steps p es (some (.error f, q)) →
    ∃ before s after as bs r source, steps = before ++ s :: after ∧ es = as ++ bs ∧
      c.ActsAll before p as (some (.ok (), r)) ∧ c.Acts s r bs (some (.error source, q)) ∧
      f = .stage s.stage (s.resource c.cluster.name) source
  | [], _, _, h => nomatch h
  | s :: rest, p, es, h => by
    cases h with
    | cons h hr =>
      obtain ⟨before, t, after, as, bs, r, source, rfl, rfl, hbefore, ht, rfl⟩ := hr.failed
      exact ⟨s :: before, t, after, _, bs, r, source, rfl, (List.append_assoc ..).symm,
        .cons h hbefore, ht, rfl⟩
    | stopped h => exact ⟨[], s, rest, [], es, p, _, rfl, rfl, .nil, h, rfl⟩

/-- Steps in two parts fail in the first or, after all of it, in the second. -/
theorem ActsAll.append_failed : ∀ {l m : List ApplyStep} {p : Progress} {es : List Event},
    c.ActsAll (l ++ m) p es (some (.error f, q)) →
    c.ActsAll l p es (some (.error f, q)) ∨
    ∃ as bs r, es = as ++ bs ∧ c.ActsAll l p as (some (.ok (), r)) ∧
      c.ActsAll m r bs (some (.error f, q))
  | [], _, p, es, h => .inr ⟨[], es, p, rfl, .nil, h⟩
  | _ :: rest, m, _, _, h => by
    cases h with
    | cons hs hr =>
      rcases hr.append_failed with hl | ⟨as, bs, r, rfl, hl, hm⟩
      · exact .inl (.cons hs hl)
      · exact .inr ⟨_, bs, r, (List.append_assoc ..).symm, .cons hs hl, hm⟩
    | stopped hs => exact .inl (.stopped hs)

/-- A stage that fails has dealt with the actions before one of its own, on which it fails. -/
theorem ActsAll.map_failed {step : α → ApplyStep} {l : List α} {p : Progress}
    (h : c.ActsAll (l.map step) p es (some (.error f, q))) :
    ∃ l₁ a l₂ as bs r source, l = l₁ ++ a :: l₂ ∧ es = as ++ bs ∧
      c.ActsAll (l₁.map step) p as (some (.ok (), r)) ∧
      c.Acts (step a) r bs (some (.error source, q)) := by
  obtain ⟨before, s, after, as, bs, r, source, hl, rfl, hbefore, hs, -⟩ := h.failed
  obtain ⟨l₁, rest, rfl, rfl, hrest⟩ := List.map_eq_append_iff.1 hl
  obtain ⟨a, l₂, rfl, rfl, -⟩ := List.map_eq_cons_iff.1 hrest
  exact ⟨l₁, a, l₂, as, bs, r, source, rfl, rfl, hbefore, hs⟩

end ApplyContext

end Converge
