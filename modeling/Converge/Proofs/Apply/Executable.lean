import Converge.Proofs.Apply.Failures
import Converge.Proofs.Apply.Script
import Converge.Proofs.Plan.Applications
import Converge.Simulation.Stub
/-!
# A plan can be carried out with its configuration

A step looks up what it needs, in the configuration by a name or in its action by an identifier,
and raises a failure when that is not there.  A plan that was made for the configuration gives each
step what it needs.  One case is left: the owner of a new load balancer may be neither configured
nor live, and then it can only be hoped that it is there when its turn comes.

`FailedBy` lists the failures that are possible.  It is proved by inverting what a step raises
(`ApplyContext.Raises`) with what the planner puts into an action.  The owner that is looked up is
not configured, because configured groups that do not live are created in an earlier stage
(`Plan.uncreated_of_lookup`).

Main statement: `planned_apply_fails_by`.
-/

namespace Converge

/-! ## 1. Groups that were created -/

/-- The name under which a request has created a group. -/
def Event.createdGroup? : Event → Option String
  | .request (.createGroup _ body) (.ok _) => some body.name
  | _ => none

/-- The names under which groups were created, in their order. -/
def createdGroups (es : List Event) : List String := es.filterMap (·.createdGroup?)

/-- The name under which a request has created a group, and its identifier. -/
def Event.newGroup? : Event → Option (String × Uuid)
  | .request (.createGroup _ body) (.ok id) => some (body.name, id)
  | _ => none

/-- The groups that were created, in their order. -/
def newGroups (es : List Event) : List (String × Uuid) := es.filterMap (·.newGroup?)

theorem createdGroups_eq (es : List Event) : createdGroups es = (newGroups es).map (·.1) := by
  rw [createdGroups, newGroups, List.map_filterMap]
  refine List.filterMap_congr fun e _ => ?_
  obtain ⟨call, reply⟩ | _ | _ := e
  · cases call <;> first | rfl | cases reply <;> rfl
  · rfl
  · rfl

theorem newGroups_append (es fs : List Event) :
    newGroups (es ++ fs) = newGroups es ++ newGroups fs := List.filterMap_append

theorem newGroups_of_reads {es : List Event} (h : ∀ e ∈ es, e.reads) : newGroups es = [] := by
  refine List.filterMap_eq_nil_iff.2 fun e he => ?_
  have := h e he
  obtain ⟨call, reply⟩ | _ | _ := e
  · cases call <;> first | rfl | nomatch this
  · rfl
  · rfl

theorem createdGroups_append (es fs : List Event) :
    createdGroups (es ++ fs) = createdGroups es ++ createdGroups fs := List.filterMap_append

theorem createdGroups_of_reads {es : List Event} (h : ∀ e ∈ es, e.reads) :
    createdGroups es = [] := by
  rw [createdGroups_eq, newGroups_of_reads h, List.map_nil]

theorem not_mem_of_lookup {l : List (String × α)} {k : String} (h : l.lookup k = none) :
    k ∉ l.map (·.1) := by
  intro hk
  obtain ⟨x, hx, rfl⟩ := List.mem_map.1 hk
  exact absurd (List.lookup_eq_none_iff.1 h x hx) (by simp)

namespace ApplyContext

variable {c : ApplyContext} {p q : Progress} {es : List Event} {r : Except Failure Unit}

theorem Targets.creates_no_group {a : ApplicationAction}
    {r : Except Failure (Uuid × Option ApplicationVersion)}
    (h : c.Targets a p es (some (r, q))) : q.created = p.created ∧ newGroups es = [] := by
  generalize ho : some (r, q) = out at h
  cases h with
  | created _ => cases ho; exact ⟨rfl, rfl⟩
  | refused _ => cases ho; exact ⟨rfl, rfl⟩
  | unidentified _ _ => cases ho; exact ⟨rfl, rfl⟩
  | @based id _ o _ _ hb =>
    obtain _ | _ := o <;> cases ho
    exact ⟨rfl, newGroups_of_reads ((Observe.reads_latestVersion _ _).only _ _ hb)⟩

/-- **A step remembers the groups that it has created**, and no others. -/
theorem Acts.remembers {s : ApplyStep} (h : c.Acts s p es (some (r, q))) :
    q.created = (newGroups es).reverse ++ p.created := by
  have same : ∀ {es : List Event} {q : Progress}, q.created = p.created → newGroups es = [] →
      q.created = (newGroups es).reverse ++ p.created := by
    intro es q hc he
    rw [hc, he]
    rfl
  have waited : ∀ {call : Call} {rest : List Event} {reply : Except Failure call.Reply},
      (Event.request call reply).newGroup? = none → (∀ e ∈ rest, e.reads) →
      newGroups (.request call reply :: rest) = [] := by
    intro call rest reply hc hr
    exact (List.filterMap_cons_none hc).trans (newGroups_of_reads hr)
  generalize ho : some (r, q) = out at h
  cases h with
  | settingsMissing _ => cases ho; exact same rfl rfl
  | settings _ reply => obtain _ | _ := reply <;> cases ho <;> exact same rfl rfl
  | balancerUnidentified _ => cases ho; exact same rfl rfl
  | balancerRefused _ _ => cases ho; exact same rfl rfl
  | @balancerDeleted _ _ _ _ _ o _ _ hw =>
    have reads := (Deletion.reads_wait _ _ _ _ (Session.reads_call rfl)).only _ _ hw
    obtain _ | _ | _ := o <;> cases ho <;> exact same rfl (waited rfl reads)
  | groupUnidentified _ => cases ho; exact same rfl rfl
  | groupRefused _ => cases ho; exact same rfl rfl
  | @groupDeleted _ _ _ _ o _ hw =>
    have reads := (Deletion.reads_wait _ _ _ _ (Session.reads_call rfl)).only _ _ hw
    obtain _ | _ | _ := o <;> cases ho <;> exact same rfl (waited rfl reads)
  | groupUnknown _ => cases ho; exact same rfl rfl
  | @groupCreated a _ g hg reply =>
    obtain _ | id := reply <;> cases ho
    · exact same rfl rfl
    · obtain ⟨-, hn⟩ := find?_key_eq_some hg
      show (a.name, id) :: p.created = [(g.name, id)] ++ p.created
      rw [hn]
      rfl
  | balancerUnknown _ => cases ho; exact same rfl rfl
  | @balancerOwnerless _ _ _ _ o _ hown _ =>
    obtain _ | _ | _ := o <;> cases ho <;> exact same rfl (newGroups_of_reads hown.reads.1)
  | balancerCreated _ hown reply =>
    have none : ∀ last : Event, last.newGroup? = none → newGroups (_ ++ [last]) = [] :=
      fun last hl => by
        rw [newGroups_append, newGroups_of_reads hown.reads.1]
        exact List.filterMap_cons_none hl
    obtain _ | _ := reply <;> cases ho <;> exact same rfl (none _ rfl)
  | applicationUnknown _ => cases ho; exact same rfl rfl
  | @applicationUntargeted _ _ _ _ o _ ht _ =>
    obtain _ | ⟨_, _⟩ := o <;> cases ho
    exact same ht.creates_no_group.1 ht.creates_no_group.2
  | versionRefused _ ht =>
    cases ho
    exact same ht.creates_no_group.1 (by rw [newGroups_append, ht.creates_no_group.2]; rfl)
  | versionKept _ ht _ =>
    cases ho
    exact same ht.creates_no_group.1 (by rw [newGroups_append, ht.creates_no_group.2]; rfl)
  | versionActivated _ ht _ reply =>
    obtain _ | _ := reply <;> cases ho <;>
      exact same ht.creates_no_group.1 (by rw [newGroups_append, ht.creates_no_group.2]; rfl)

/-- The groups that were created in a run are those that are remembered, by induction over the
steps. -/
theorem ActsAll.remembers {steps : List ApplyStep} (h : c.ActsAll steps p es (some (r, q))) :
    q.created = (newGroups es).reverse ++ p.created := by
  generalize ho : some (r, q) = out at h
  induction h with
  | nil => cases ho; rfl
  | cons h _ ih => rw [ih ho, h.remembers, newGroups_append, List.reverse_append,
      List.append_assoc]
  | stopped h => cases ho; exact h.remembers
  | unfinished _ => nomatch ho

theorem ActsAll.created {steps : List ApplyStep} (h : c.ActsAll steps p es (some (r, q))) :
    q.created.map (·.1) = (createdGroups es).reverse ++ p.created.map (·.1) := by
  rw [h.remembers, createdGroups_eq, List.map_append, List.map_reverse]

/-- A step that creates a group has done so when it succeeds. -/
theorem Acts.creates {a : GroupAction} {u : Unit}
    (h : c.Acts (.createGroup a) p es (some (.ok u, q))) : a.name ∈ createdGroups es := by
  generalize ho : some (Except.ok u, q) = out at h
  cases h with
  | groupUnknown _ => nomatch ho
  | @groupCreated _ _ g hg reply =>
    obtain _ | id := reply <;> cases ho
    obtain ⟨-, hn⟩ := find?_key_eq_some hg
    exact List.mem_singleton.2 hn.symm

theorem ActsAll.creates {a : GroupAction} : ∀ {steps : List ApplyStep} {p : Progress}
    {es : List Event} {u : Unit}, c.ActsAll steps p es (some (.ok u, q)) →
    .createGroup a ∈ steps → a.name ∈ createdGroups es
  | s :: rest, p, es, u, h, ha => by
    cases h with
    | cons h hr =>
      rw [createdGroups_append]
      rcases List.mem_cons.1 ha with rfl | ha
      · exact List.mem_append_left _ h.creates
      · exact List.mem_append_right _ (hr.creates ha)

end ApplyContext

/-! ## 2. Groups come before load balancers -/

/-- When the turn of a load balancer comes, every group that is created has had its turn. -/
theorem Plan.groups_before {p : Plan} {a : BalancerAction} {before after : List ApplyStep}
    (h : p.script = before ++ .createBalancer a :: after) {b : GroupAction}
    (hb : b ∈ p.groupActions) (hc : b.action.creates) : .createGroup b ∈ before := by
  have split : p.script = ((if p.clusterAction.action = .update then [.updateSettings] else [])
      ++ (p.balancerActions.filter (·.action.deletes)).map .deleteBalancer
      ++ (p.groupActions.filter (·.action.deletes)).map .deleteGroup
      ++ (p.groupActions.filter (·.action.creates)).map .createGroup)
      ++ ((p.balancerActions.filter (·.action.creates)).map .createBalancer
        ++ (p.applicationActions.filter (·.action.writesVersion)).map .application) :=
    List.append_assoc ..
  rw [split] at h
  refine subset_of_append_eq h ?_ ?_
  · split <;> simp
  · exact List.mem_append_right _ (List.mem_map_of_mem (List.mem_filter.2 ⟨hb, hc⟩))

/-! ## 3. How an apply of a plan can fail -/

/-- The owner of a load balancer is nowhere: it was not there when the plan was made and it is not
configured, it was not created in the apply, and a complete listing in the apply lacks it. -/
structure Ownerless (c : ApplyContext) (live : LiveState) (es : List Event) (a : BalancerAction) :
    Prop where
  planned : a.action = .create
  absent : live.group? a.groupName = none
  undeclared : c.desired.group? a.groupName = none
  uncreated : a.groupName ∉ createdGroups es
  unlisted : ∃ before listing after groups, es = before ++ listing ++ after ∧
    (Observe.listGroups c.limit c.cluster.id).Course listing (some (.ok groups)) ∧
    ∀ g ∈ groups, g.name ≠ a.groupName

/-- The failures that an apply of a plan can come to: a stage was stopped by a failure that was
replied, or saving failed, or a deletion took too long, or the owner of a load balancer has a
property. -/
inductive FailedBy (p : Plan) (es : List Event) (unowned : BalancerAction → Prop) :
    Failure → Prop where
  | replied {s r f e} (he : e ∈ es) (hf : e.failure? = some f) :
      FailedBy p es unowned (.stage s r f)
  | unsaved {l f} (h : .saved l (.error f) ∈ es) : FailedBy p es unowned f
  | balancerStays {a elapsed} (ha : a ∈ p.balancerActions) :
      FailedBy p es unowned (.stage .deleteLoadBalancers a.label
        (.apply (.deletionTimeout "load balancer" a.name elapsed)))
  | groupStays {a elapsed} (ha : a ∈ p.groupActions) :
      FailedBy p es unowned (.stage .deleteGroups a.name
        (.apply (.deletionTimeout "auto-scaling group" a.name elapsed)))
  | ownerless {a} (ha : a ∈ p.balancerActions) (h : unowned a) :
      FailedBy p es unowned (.stage .createLoadBalancers a.label
        (.apply (.missingIdentifier "create" "load balancer" a.name
          ("auto-scaling group " ++ a.groupName ++ " does not exist"))))

section

variable {desired : ClusterConfig} {live : LiveState} {known : SecretLedger} {p : Plan}
  {c : ApplyContext}

open Planner

/-- When the turn of a load balancer comes and its owner is not remembered, no group of that name
is to be created. -/
theorem Plan.uncreated_of_lookup {a : BalancerAction} {taken rest : List ApplyStep} {q r : Progress}
    {es : List Event}
    (script : p.script = taken ++ .createBalancer a :: rest)
    (ran : c.ActsAll taken q es (some (.ok (), r))) {name : String}
    (forgotten : r.created.lookup name = none) :
    ∀ b ∈ p.groupActions, b.action.creates → b.name ≠ name := by
  rintro b hb hc rfl
  refine not_mem_of_lookup forgotten ?_
  rw [ran.created]
  exact List.mem_append_left _
    (List.mem_reverse.2 (ran.creates (Plan.groups_before script hb hc)))

/-- A group that does not live is configured only where one of its name is created. -/
theorem Plan.MadeFrom.undeclared_of_uncreated (made : p.MadeFrom desired live known) {name : String}
    (uncreated : ∀ b ∈ p.groupActions, b.action.creates → b.name ≠ name)
    (absent : live.group? name = none) : desired.group? name = none := by
  refine Option.eq_none_iff_forall_ne_some.2 fun w found => ?_
  obtain ⟨hw, rfl⟩ := find?_key_eq_some found
  have mem := made.groupActions ▸ groupAction_mem live hw
  rw [groupAction_of_missing absent] at mem
  exact uncreated _ mem rfl rfl

/-- When the owner of a new load balancer is neither remembered nor planned nor listed, it is
nowhere. -/
theorem Plan.MadeFrom.ownerless (made : p.MadeFrom c.desired live known) {a : BalancerAction}
    (ha : a ∈ p.balancerActions) (hcr : a.action.creates) {before after : List ApplyStep}
    (script : p.script = before ++ .createBalancer a :: after) {q r : Progress}
    {as bs : List Event} (ran : c.ActsAll before q as (some (.ok (), r)))
    (forgotten : r.created.lookup a.groupName = none) (unplanned : a.groupId = none)
    {groups : List Group}
    (listed : (Observe.listGroups c.limit c.cluster.id).Course bs (some (.ok groups)))
    (lacks : ∀ g ∈ groups, g.name ≠ a.groupName) : Ownerless c live (as ++ bs) a := by
  have absent : a.action = .create ∧ live.group? a.groupName = none := by
    rw [made.balancerActions] at ha
    obtain ⟨w, -, hw⟩ := mem_balancerActions ha (ActionType.ne_skip_of_creates hcr)
    cases hw with
    | ownerless h => exact ⟨rfl, h⟩
    | missing _ _ => nomatch unplanned
    | same _ _ _ _ => nomatch unplanned
    | differs _ _ _ => nomatch unplanned
  have uncreated : a.groupName ∉ createdGroups (as ++ bs) := by
    rw [createdGroups_append,
      createdGroups_of_reads ((Observe.reads_listGroups _ _).only _ _ listed), List.append_nil]
    have names := not_mem_of_lookup forgotten
    rw [ran.created] at names
    exact fun h => names (List.mem_append_left _ (List.mem_reverse.2 h))
  exact {
    planned := absent.1
    absent := absent.2
    undeclared :=
      made.undeclared_of_uncreated (Plan.uncreated_of_lookup script ran forgotten) absent.2
    uncreated := uncreated
    unlisted := ⟨as, bs, [], groups, (List.append_nil _).symm, listed, lacks⟩ }

/-- A step of a planned script that raises a failure by itself has waited too long for a deletion,
or it is to create a load balancer whose owner is not live and not configured. -/
theorem Plan.MadeFrom.raises (made : p.MadeFrom c.desired live known) {s : ApplyStep}
    {before after : List ApplyStep} (script : p.script = before ++ s :: after)
    {q r : Progress} {as bs : List Event} (ran : c.ActsAll before q as (some (.ok (), r)))
    {e : ApplyError} (raised : c.Raises r bs s e) :
    FailedBy p (as ++ bs) (Ownerless c live (as ++ bs))
      (.stage s.stage (s.resource c.cluster.name) (.apply e)) := by
  have ordered : p.Orders s :=
    Plan.mem_script_iff.1 (script ▸ List.mem_append_right _ List.mem_cons_self)
  cases raised with
  | noSettings h => exact absurd h (made.settings ordered)
  | @noBalancerId a h =>
    obtain ⟨ha, hd⟩ := ordered
    rw [made.balancerActions] at ha
    obtain ⟨w, -, g, b, changes, -, -, -, rfl⟩ := exists_balancer_of_deletes ha hd
    rcases h with h | h <;> nomatch h
  | balancerStays => exact .balancerStays ordered.1
  | @noGroupId a h =>
    obtain ⟨ha, hd⟩ := ordered
    rw [made.groupActions] at ha
    obtain ⟨w, -, g, -, -, rfl⟩ := exists_group_of_deletes ha hd
    nomatch h
  | groupStays => exact .groupStays ordered.1
  | @noGroup a h =>
    obtain ⟨ha, hc⟩ := ordered
    rw [made.groupActions] at ha
    obtain ⟨w, hw, hp⟩ := mem_groupActions ha (ActionType.ne_skip_of_creates hc)
    have configured := find?_key_isSome hw hp.name.symm
    exact absurd h (Option.isSome_iff_ne_none.1 configured)
  | @noBalancer a h =>
    obtain ⟨ha, hc⟩ := ordered
    rw [made.balancerActions] at ha
    obtain ⟨w, hw, hp⟩ := mem_balancerActions ha (ActionType.ne_skip_of_creates hc)
    obtain ⟨hg, hn⟩ := Prod.mk.inj hp.label
    exact absurd (hg ▸ hn ▸ h) (ClusterConfig.balancer?_ne_none hw)
  | @noOwner a groups hc hp hl hg =>
    obtain ⟨ha, hcr⟩ := ordered
    exact .ownerless ha (made.ownerless ha hcr script ran hc hp hl hg)
  | @noApplication a h =>
    obtain ⟨w, hw, hp⟩ := made.application ordered.1
    have configured := find?_key_isSome hw hp.name.symm
    exact absurd h (Option.isSome_iff_ne_none.1 configured)
  | @noApplicationId a h hi =>
    obtain ⟨w, -, hp⟩ := made.application ordered.1
    obtain ⟨id, hid⟩ := hp.identified h
    rw [hi] at hid
    nomatch hid

theorem FailedBy.mono {es fs : List Event} {unowned unowned' : BalancerAction → Prop}
    {f : Failure} (h : FailedBy p es unowned f) (sub : ∀ e ∈ es, e ∈ fs)
    (imp : ∀ a ∈ p.balancerActions, unowned a → unowned' a) : FailedBy p fs unowned' f := by
  cases h with
  | replied he hf => exact .replied (sub _ he) hf
  | unsaved h => exact .unsaved (sub _ h)
  | balancerStays ha => exact .balancerStays ha
  | groupStays ha => exact .groupStays ha
  | ownerless ha h => exact .ownerless ha (imp _ ha h)

/-- Saving the ledger creates no group. -/
theorem Ownerless.saves {a : BalancerAction} {as bs : List Event} {q : Progress}
    {saved : Except Failure Unit} (h : Ownerless c live as a) (hs : Saves q bs saved) :
    Ownerless c live (as ++ bs) a := by
  obtain ⟨before, listing, after, groups, rfl, listed, lacks⟩ := h.unlisted
  refine ⟨h.planned, h.absent, h.undeclared, ?_, before, listing, after ++ bs, groups,
    List.append_assoc .., listed, lacks⟩
  have none : createdGroups bs = [] := by cases hs <;> rfl
  rw [createdGroups_append, none, List.append_nil]
  exact h.uncreated

/-- An owner that is nowhere is not configured, although the load balancer is. -/
theorem Plan.MadeFrom.undeclared (made : p.MadeFrom desired live known) {a : BalancerAction}
    (ha : a ∈ p.balancerActions) (hc : a.action = .create) (hn : desired.group? a.groupName = none) :
    ∃ b ∈ desired.balancers, desired.group? b.groupName = none := by
  rw [made.balancerActions] at ha
  obtain ⟨w, hw, hp⟩ := mem_balancerActions ha (by simp [hc])
  obtain ⟨hg, -⟩ := Prod.mk.inj hp.label
  exact ⟨w, hw, hg ▸ hn⟩

/-- **A plan can be carried out with the configuration that it was made for.**  However everything
replies, an apply fails only with what was replied, with a deletion that took too long, or because
the owner of a load balancer is nowhere: it raises neither that a configuration is missing nor that
an identifier is, that last case apart.  If the configuration has the owner of each of its load
balancers, that case cannot occur either. -/
theorem planned_apply_fails_by {now : Timestamp} {options : ApplyOptions} {ledger : SecretLedger}
    {es : List Event} {f : Failure} (planned : plan desired live known now = .ok p)
    (applied : (execute options desired p ledger).Course es (some (.error f))) :
    FailedBy p es (Ownerless (p.context options desired) live es) f ∧
      ((∀ b ∈ desired.balancers, (desired.group? b.groupName).isSome) →
        FailedBy p es (fun _ => False) f) := by
  have made := Plan.madeFrom planned
  have possible : FailedBy p es (Ownerless (p.context options desired) live es) f := by
    rcases execute_cases applied with ⟨-, ho⟩ | ⟨as, bs, r, q, saved, rfl, ran, hs, ho⟩
    · nomatch ho
    have ho := Option.some.inj ho
    cases r with
    | error g =>
      obtain rfl := Except.error.inj ho
      obtain ⟨before, s, after, cs, ds, q', source, script, rfl, hb, hstep, rfl⟩ := ran.failed
      have failed : FailedBy p (cs ++ ds) (Ownerless (p.context options desired) live (cs ++ ds))
          (.stage s.stage (s.resource p.cluster.name) source) := by
        rcases hstep.raises with ⟨e, he, hf⟩ | ⟨e, rfl, raised⟩
        · exact .replied (List.mem_append_right _ he) hf
        · exact made.raises script hb raised
      exact failed.mono (fun _ he => List.mem_append_left _ he) fun _ _ h => h.saves hs
    | ok u =>
      cases hs with
      | unchanged hm => nomatch ho
      | changed hm =>
        obtain g | v := saved
        · obtain rfl := Except.error.inj ho
          exact .unsaved (List.mem_append_right _ (List.mem_singleton.2 rfl))
        · nomatch ho
  refine ⟨possible, fun declared => possible.mono (fun _ he => he) fun a ha h => ?_⟩
  obtain ⟨b, hb, hn⟩ := made.undeclared ha h.planned h.undeclared
  have := declared b hb
  rw [hn] at this
  nomatch this

end

/-! ## 4. A load balancer without an owner -/

namespace Stray

/-- A load balancer of a group that is not configured. -/
def desired : ClusterConfig where
  clusterName := "prod"
  cluster := none
  groups := []
  balancers := [⟨"front", "web", "cloud/lb", [], []⟩]
  applications := []

/-- A cluster in which nothing lives. -/
def live : LiveState where
  cluster := ⟨"prod", .ofNat 1⟩
  detail := ⟨.ofNat 1, "prod", "", false⟩
  groups := []
  balancers := .empty
  applications := []

/-- The plan that follows. -/
def plan : Plan where
  cluster := live.cluster
  clusterAction := .noop
  groupActions := []
  balancerActions := Planner.balancerActions desired live []
  applicationActions := []
  warnings := []
  createdAt := .epoch

/-- Answers listings with an empty page and nothing else. -/
def answer : (q : Question) → Stub Unit → q.Reply × Stub Unit :=
  Stub.answer fun c s =>
    match c with
    | .listGroups _ _ => (.ok ⟨[], none⟩, s)
    | _ => (.error .cancelled, s)

def applying : List Event := (execute ⟨⟨0, 0⟩, false, 1⟩ desired plan .empty).events answer ⟨(), []⟩

/-- The owner is looked up and not found. -/
def failure : Failure :=
  .stage .createLoadBalancers "web/front" (.apply (.missingIdentifier "create" "load balancer"
    "front" "auto-scaling group web does not exist"))

/-- Every request is answered, and the apply fails for the owner. -/
theorem fails_by_owner : FailedBy plan applying
    (Ownerless (plan.context ⟨⟨0, 0⟩, false, 1⟩ desired) live applying) failure := by
  have planned : Converge.plan desired live .empty .epoch = .ok plan := by rfl
  have applied : (execute ⟨⟨0, 0⟩, false, 1⟩ desired plan .empty).Course applying
      (some (.error failure)) := by
    have outcome : (execute ⟨⟨0, 0⟩, false, 1⟩ desired plan .empty).result answer ⟨(), []⟩ =
        some (.error failure) := by decide +kernel
    exact outcome ▸ Session.course_of_run answer _ _
  exact (planned_apply_fails_by planned applied).1

end Stray

end Converge
