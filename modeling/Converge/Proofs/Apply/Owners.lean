import Converge.Proofs.Apply.Executable
import Converge.Proofs.Cluster.Paging
import Converge.Simulation.Stub
/-!
# The owner of a new load balancer

A load balancer is created under the identifier of its owner, and there are three places from which
that identifier may come: the groups that this apply has created, the plan, and a listing.  The
plan has the identifier that the owner had when the plan was made, also where the owner is about to
be recreated under a new one; so the order of the three is what keeps a load balancer from being
created under a group that is gone.

The argument links the plan to what the apply remembers.  A group is deleted because it is
recreated, all groups are created before the first load balancer, and so an owner whose planned
identifier is deleted is found among the groups that were created.

Main statement: `created_under_owner`.
-/

namespace Converge

open Planner

/-! ## 1. A request and the step that sends it -/

namespace ApplyContext

variable {c : ApplyContext} {p : Progress} {es before after : List Event} {e : Event}
  {out : Option (Except Failure Unit × Progress)}

/-- **Every event of a run belongs to a step**, and the steps before that one have been taken, by
induction over the steps. -/
theorem ActsAll.located {steps : List ApplyStep} (h : c.ActsAll steps p es out)
    (split : es = before ++ e :: after) :
    ∃ done s rest as bs cs ds q o, steps = done ++ s :: rest ∧ before = as ++ bs ∧
      after = cs ++ ds ∧ c.ActsAll done p as (some (.ok (), q)) ∧
      c.Acts s q (bs ++ e :: cs) o := by
  induction h generalizing before with
  | nil => exact absurd split (by simp)
  | @cons s rest p q as bs out h hr ih =>
    rcases located_of_append_eq split with ⟨cs, rfl, rfl⟩ | ⟨front, rfl, later⟩
    · exact ⟨[], s, rest, [], before, cs, bs, p, _, rfl, rfl, rfl, .nil, h⟩
    · obtain ⟨done, s', rest', as', bs', cs, ds, r, o, rfl, rfl, rfl, hdone, hs⟩ := ih later
      exact ⟨s :: done, s', rest', as ++ as', bs', cs, ds, r, o, rfl,
        (List.append_assoc ..).symm, rfl, .cons h hdone, hs⟩
  | @stopped s rest p q es f h =>
    exact ⟨[], s, rest, [], before, after, [], p, _, rfl, rfl, (List.append_nil _).symm, .nil,
      split ▸ h⟩
  | @unfinished s rest p es h =>
    exact ⟨[], s, rest, [], before, after, [], p, _, rfl, rfl, (List.append_nil _).symm, .nil,
      split ▸ h⟩

/-- What a run requests only reads, or one of its steps asks for it. -/
theorem ActsAll.asked_by {steps : List ApplyStep} (h : c.ActsAll steps p es out) :
    ∀ e ∈ es, e.reads ∨ ∃ m, m.step ∈ steps ∧ c.Asks m e := by
  intro e he
  rcases h.asked e he with reads | ⟨m, hm, asks⟩
  · exact .inl reads
  · obtain ⟨s, hs, hm⟩ := List.mem_flatMap.1 hm
    exact .inr ⟨m, ApplyStep.eq_of_mem_mutations hm ▸ hs, asks⟩

/-- The step that creates a load balancer has found the owner before. -/
theorem Acts.owned {s : ApplyStep} {cluster owner : Uuid} {body : CreateBalancerRequest}
    {reply : Except Failure Uuid}
    (h : c.Acts s p (before ++ .request (.createBalancer cluster owner body) reply :: after) out) :
    ∃ a w, s = .createBalancer a ∧ c.desired.balancer? a.groupName a.name = some w ∧
      body = w.request ∧ c.Owns a p before (some (.ok owner)) := by
  have writes : ¬ (Event.request (.createBalancer cluster owner body) reply).reads := by
    exact Bool.false_ne_true
  have asked : ∃ a, s = .createBalancer a := by
    rcases h.asked _ (List.mem_append_right _ List.mem_cons_self) with reads | ⟨m, hs, asks⟩
    · exact absurd reads writes
    · cases asks
      exact ⟨_, hs⟩
  obtain ⟨a, rfl⟩ := asked
  generalize hes : before ++ .request (.createBalancer cluster owner body) reply :: after = es at h
  cases h with
  | balancerUnknown _ => exact absurd hes (by simp)
  | balancerOwnerless _ ho _ =>
    refine absurd (ho.reads.1 _ ?_) writes
    rw [← hes]
    exact List.mem_append_right _ List.mem_cons_self
  | @balancerCreated _ _ w as owner' hw ho reply' =>
    obtain ⟨rfl, he⟩ := last_of_append_eq hes.symm fun hm => writes (ho.reads.1 _ hm)
    cases he
    exact ⟨a, w, rfl, hw, rfl, ho⟩

end ApplyContext

/-! ## 2. Where an owner comes from -/

/-- Whether it was asked for a group to be deleted, whatever was replied. -/
def DeletionAsked (es : List Event) (id : Uuid) : Prop :=
  ∃ cluster reply, .request (.deleteGroup cluster id) reply ∈ es

/-- Where the identifier comes from under which a load balancer is created, when an apply that lives
through the events `es` has lived through `before`: the owner was created before, or it has lived
since the plan was made, or it was listed before.  In the first two cases it is not deleted; the
third is for an owner that is not configured, and so it is none for a valid configuration. -/
inductive OwnedBy (desired : ClusterConfig) (live : LiveState) (before es : List Event)
    (name : String) (owner : Uuid) : Prop where
  | created (h : (name, owner) ∈ newGroups before) (stays : ¬ DeletionAsked es owner)
  | live {g} (h : live.group? name = some g) (hi : g.id = owner) (stays : ¬ DeletionAsked es owner)
  | listed {cluster cursor page g} (undeclared : desired.group? name = none)
      (absent : live.group? name = none) (uncreated : name ∉ createdGroups es)
      (listed : .request (.listGroups cluster cursor) (.ok page) ∈ before) (hg : g ∈ page.items)
      (hn : g.name = name) (hi : g.id = owner)

theorem exists_of_mem_createdGroups {es : List Event} {name : String}
    (h : name ∈ createdGroups es) : ∃ cluster body id,
      .request (.createGroup cluster body) (.ok id) ∈ es ∧ body.name = name := by
  obtain ⟨e, he, hn⟩ := List.mem_filterMap.1 h
  obtain ⟨call, reply⟩ | _ | _ := e
  · cases call with
    | createGroup cluster body =>
      obtain _ | id := reply
      · nomatch hn
      · exact ⟨cluster, body, id, he, Option.some.inj hn⟩
    | _ => nomatch hn
  · nomatch hn
  · nomatch hn

/-- A group that is listed stands on a page of the listing. -/
theorem Observe.mem_page_of_course_listGroups {limit : Nat} {cluster : Uuid} {es : List Event}
    {groups : List Group} {g : Group}
    (h : (Observe.listGroups limit cluster).Course es (some (.ok groups))) (hg : g ∈ groups) :
    ∃ cursor page, .request (.listGroups cluster cursor) (.ok page) ∈ es ∧ g ∈ page.items := by
  obtain ⟨cursor, page, as, hc, hsub, hm⟩ := mem_page_of_course_collectFrom h hg
  obtain ⟨reply, rfl, hr⟩ := Session.course_call.1 hc
  obtain rfl := Option.some.inj hr
  exact ⟨cursor, page, hsub (List.mem_singleton.2 rfl), hm⟩

section

variable {desired : ClusterConfig} {live : LiveState} {known ledger : SecretLedger} {p : Plan}
  {c : ApplyContext} {es before after : List Event} {q : Progress}
  {out : Option (Except Failure Unit × Progress)}

/-- A group that is asked to be deleted is one that the plan recreates. -/
theorem Plan.MadeFrom.deleted (made : p.MadeFrom desired live known)
    (ran : c.ActsAll p.script q es out) {id : Uuid} (h : DeletionAsked es id) :
    ∃ a ∈ p.groupActions, a.action.creates ∧ ∃ g, live.group? a.name = some g ∧ g.id = id := by
  obtain ⟨cluster, reply, he⟩ := h
  rcases ran.asked_by _ he with reads | ⟨m, hm, asks⟩
  · exact absurd reads Bool.false_ne_true
  · cases asks with
    | @deleteGroup a _ hi _ =>
      obtain ⟨ha, hd⟩ := Plan.mem_script_iff.1 hm
      refine ⟨a, ha, ?_⟩
      rw [made.groupActions] at ha
      obtain ⟨w, -, g, hg, -, rfl⟩ := exists_group_of_deletes ha hd
      exact ⟨rfl, g, hg, Option.some.inj hi⟩

/-- A group that is created is one that the plan creates. -/
theorem Plan.creates_of_created (ran : c.ActsAll p.script q es out) {name : String}
    (h : name ∈ createdGroups es) :
    ∃ a ∈ p.groupActions, a.action.creates ∧ a.name = name := by
  obtain ⟨cluster, body, id, he, rfl⟩ := exists_of_mem_createdGroups h
  rcases ran.asked_by _ he with reads | ⟨m, hm, asks⟩
  · exact absurd reads Bool.false_ne_true
  · cases asks with
    | @createGroup a g hg _ =>
      obtain ⟨ha, hc⟩ := Plan.mem_script_iff.1 hm
      exact ⟨a, ha, hc, (find?_key_eq_some hg).2.symm⟩

/-- A group that lives is deleted only where one of its name is created. -/
theorem Plan.MadeFrom.stays (made : p.MadeFrom desired live known)
    (ids : (live.groups.map (·.id)).Nodup) (ran : c.ActsAll p.script q es out) {name : String}
    (uncreated : ∀ b ∈ p.groupActions, b.action.creates → b.name ≠ name) {g : Group}
    (hg : live.group? name = some g) : ¬ DeletionAsked es g.id := by
  intro asked
  obtain ⟨b, hb, hc, g', hg', hi⟩ := made.deleted ran asked
  obtain ⟨hm, hn⟩ := find?_key_eq_some hg
  obtain ⟨hm', hn'⟩ := find?_key_eq_some hg'
  obtain rfl := List.inj_on_of_nodup_map ids hm' hm hi
  exact uncreated b hb hc (hn'.symm.trans hn)

/-- **Where the owner of a load balancer comes from**, for the steps of a plan. -/
theorem Plan.MadeFrom.owned (made : p.MadeFrom c.desired live known)
    (ids : (live.groups.map (·.id)).Nodup)
    (ran : c.ActsAll p.script (.start ledger) es out)
    (fresh : ∀ x ∈ newGroups es, x.2 ∉ live.groups.map (·.id))
    {cluster owner : Uuid} {body : CreateBalancerRequest} {reply : Except Failure Uuid}
    (split : es = before ++ .request (.createBalancer cluster owner body) reply :: after) :
    ∃ w ∈ c.desired.balancers, body = w.request ∧
      OwnedBy c.desired live before es w.groupName owner := by
  obtain ⟨done, s, rest, as, bs, cs, ds, r, o, script, hb, rfl, taken, step⟩ := ran.located split
  obtain ⟨a, w, rfl, found, rfl, owns⟩ := step.owned
  obtain ⟨hw, hg, -⟩ := ClusterConfig.balancer?_eq_some found
  obtain ⟨ha, hc⟩ : p.Orders (.createBalancer a) :=
    Plan.mem_script_iff.1 (script ▸ List.mem_append_right _ List.mem_cons_self)
  have planned := groupId_of_mem (made.balancerActions ▸ ha)
  refine ⟨w, hw, rfl, hg ▸ ?_⟩
  cases owns with
  | created hl =>
    obtain ⟨l₁, l₂, hsplit, -⟩ := List.lookup_eq_some_iff.1 hl
    have remembered : (a.groupName, owner) ∈ r.created := by simp [hsplit]
    rw [taken.remembers, Progress.start, List.append_nil, List.mem_reverse] at remembered
    have made_before : (a.groupName, owner) ∈ newGroups before := by
      rw [hb, newGroups_append]
      exact List.mem_append_left _ remembered
    refine .created made_before fun asked => ?_
    -- what is deleted lived before, and the new identifier is none of those
    obtain ⟨b, -, -, g, hlive, rfl⟩ := made.deleted ran asked
    refine fresh (a.groupName, g.id) ?_ (List.mem_map_of_mem (find?_key_eq_some hlive).1)
    rw [split, newGroups_append]
    exact List.mem_append_left _ made_before
  | planned hnone hid =>
    have uncreated := Plan.uncreated_of_lookup script taken hnone
    rw [hid] at planned
    obtain ⟨g, hlive, rfl⟩ := Option.map_eq_some_iff.1 planned.symm
    exact .live hlive rfl (made.stays ids ran uncreated hlive)
  | @found _ groups g hnone hid hl hf =>
    have uncreated := Plan.uncreated_of_lookup script taken hnone
    rw [hid] at planned
    have absent : live.group? a.groupName = none := Option.map_eq_none_iff.1 planned.symm
    obtain ⟨hm, hn⟩ := find?_key_eq_some hf
    obtain ⟨cursor, page, listed, hp⟩ := Observe.mem_page_of_course_listGroups hl hm
    refine .listed (made.undeclared_of_uncreated uncreated absent) absent (fun hcreated => ?_)
      (hb ▸ List.mem_append_right _ listed) hp hn rfl
    obtain ⟨b, hb, hbc, hbn⟩ := Plan.creates_of_created ran hcreated
    exact uncreated b hb hbc hbn

/-- Saving the ledger deletes and creates nothing. -/
theorem OwnedBy.saves {bs : List Event} {saved : Except Failure Unit} {name : String}
    {owner : Uuid} (h : OwnedBy desired live before es name owner) (hs : Saves q bs saved) :
    OwnedBy desired live before (es ++ bs) name owner := by
  have still {id : Uuid} (stays : ¬ DeletionAsked es id) : ¬ DeletionAsked (es ++ bs) id := by
    rintro ⟨cluster, reply, he⟩
    rcases List.mem_append.1 he with he | he
    · exact stays ⟨cluster, reply, he⟩
    · cases hs with
      | unchanged _ => nomatch he
      | changed _ _ => nomatch List.mem_singleton.1 he
  cases h with
  | created h stays => exact .created h (still stays)
  | live h hi stays => exact .live h hi (still stays)
  | listed undeclared absent uncreated listed hg hn hi =>
    refine .listed undeclared absent ?_ listed hg hn hi
    have quiet : createdGroups bs = [] := by cases hs <;> rfl
    rwa [createdGroups_append, quiet, List.append_nil]

end

/-- **No load balancer is created under a group that is gone.**  The groups of the snapshot differ
by their identifiers, and the identifiers that are given out to new groups are none of theirs;
otherwise everything may reply as it likes, and the apply may stop anywhere.  Then each request for
a load balancer is one for a configured load balancer, under its owner, who was created in this
apply, or has lived since the plan was made, or was listed in this apply while no such group is
configured, was in the snapshot or was created. -/
theorem created_under_owner {desired : ClusterConfig} {live : LiveState}
    {known ledger : SecretLedger} {now : Timestamp} {options : ApplyOptions} {p : Plan}
    {es before after : List Event} {out : Option (Except Failure ExecutionResult)}
    {cluster owner : Uuid} {body : CreateBalancerRequest} {reply : Except Failure Uuid}
    (ids : (live.groups.map (·.id)).Nodup) (planned : plan desired live known now = .ok p)
    (applied : (execute options desired p ledger).Course es out)
    (fresh : ∀ x ∈ newGroups es, x.2 ∉ live.groups.map (·.id))
    (split : es = before ++ .request (.createBalancer cluster owner body) reply :: after) :
    ∃ w ∈ desired.balancers, body = w.request ∧
      OwnedBy desired live before es w.groupName owner := by
  have made := Plan.madeFrom planned
  rcases execute_cases applied with ⟨ran, -⟩ | ⟨as, bs, r, q, saved, rfl, ran, hs, -⟩
  · exact made.owned ids ran fresh split
  · have unsaved : .request (.createBalancer cluster owner body) reply ∉ bs := by
      cases hs <;> simp
    obtain ⟨rest, hrest⟩ := first_of_append_eq split unsaved
    have fresh : ∀ x ∈ newGroups as, x.2 ∉ live.groups.map (·.id) := fun x hx =>
      fresh x (newGroups_append as bs ▸ List.mem_append_left _ hx)
    obtain ⟨w, hw, hbody, owned⟩ := made.owned ids ran fresh hrest
    exact ⟨w, hw, hbody, owned.saves hs⟩

/-! ## 3. Three owners -/

namespace Handover

/-- The owners of the three load balancers: one group lives with other bounds, one lives as
configured, and one is not configured. -/
def desired : ClusterConfig where
  clusterName := "prod"
  cluster := none
  groups := [⟨"web", "is1a", "cloud/1core", 2, 4, [], []⟩,
    ⟨"mail", "is1a", "cloud/1core", 1, 1, [], []⟩]
  balancers := [⟨"front", "web", "cloud/lb", [], []⟩, ⟨"inbox", "mail", "cloud/lb", [], []⟩,
    ⟨"side", "old", "cloud/lb", [], []⟩]
  applications := []

/-- What is seen when the plan is made. -/
def live : LiveState where
  cluster := ⟨"prod", .ofNat 1⟩
  detail := ⟨.ofNat 1, "prod", "", false⟩
  groups := [⟨.ofNat 2, "web", "is1a", "cloud/1core", 1, 4, [], []⟩,
    ⟨.ofNat 3, "mail", "is1a", "cloud/1core", 1, 1, [], []⟩]
  balancers := .empty
  applications := []

/-- The plan that follows. -/
def plan : Plan where
  cluster := live.cluster
  clusterAction := .noop
  groupActions := Planner.groupActions desired live
  balancerActions := Planner.balancerActions desired live (Planner.groupActions desired live)
  applicationActions := []
  warnings := lossWarnings desired live (Planner.groupActions desired live)
  createdAt := .epoch

/-- A control plane in which somebody has created the third group since. -/
def controlPlane : Simulation where
  pageSize := 10
  linger := 0
  clusters := [⟨.ofNat 1, "prod"⟩]
  details := [live.detail]
  groups := live.groups ++ [⟨.ofNat 4, "old", "is1b", "cloud/1core", 1, 1, [], []⟩]
  balancers := []
  applications := []
  versions := []
  summaries := []
  pending := []
  issued := 0
  outages := []

/-- How the control plane answers. -/
def answer : (q : Question) → Stub Simulation → q.Reply × Stub Simulation :=
  Stub.answer fun c s => s.answer c

def applying : List Event :=
  (execute ⟨⟨0, 0⟩, false, 2⟩ desired plan .empty).events answer ⟨controlPlane, []⟩

/-- The first owner has a new identifier, though the plan has the old one; the second has lived on,
and the third is looked up. -/
theorem owners_of_three :
    (∃ w ∈ desired.balancers, ⟨"front", "cloud/lb", [], []⟩ = w.request ∧
      OwnedBy desired live (applying.take 3) applying w.groupName
        (.ofNat 0xf0000000000000000000000000000001)) ∧
    (∃ w ∈ desired.balancers, ⟨"inbox", "cloud/lb", [], []⟩ = w.request ∧
      OwnedBy desired live (applying.take 4) applying w.groupName (.ofNat 3)) ∧
    ∃ w ∈ desired.balancers, ⟨"side", "cloud/lb", [], []⟩ = w.request ∧
      OwnedBy desired live (applying.take 6) applying w.groupName (.ofNat 4) := by
  have ids : (live.groups.map (·.id)).Nodup := by decide +kernel
  have planned : Converge.plan desired live .empty .epoch = .ok plan := by rfl
  have applied : (execute ⟨⟨0, 0⟩, false, 2⟩ desired plan .empty).Course applying _ :=
    Session.course_of_run answer _ _
  have fresh : ∀ x ∈ newGroups applying, x.2 ∉ live.groups.map (·.id) := by decide +kernel
  have split {n : Nat} {e : Event} (h : applying[n]? = some e) :
      applying = applying.take n ++ e :: applying.drop (n + 1) := by
    obtain ⟨hn, rfl⟩ := List.getElem?_eq_some_iff.1 h
    rw [List.getElem_cons_drop, List.take_append_drop]
  have front : applying[3]? = some (.request (.createBalancer (.ofNat 1)
      (.ofNat 0xf0000000000000000000000000000001) ⟨"front", "cloud/lb", [], []⟩)
      (.ok (.ofNat 0xf0000000000000000000000000000002))) := by rfl
  have inbox : applying[4]? = some (.request (.createBalancer (.ofNat 1) (.ofNat 3)
      ⟨"inbox", "cloud/lb", [], []⟩) (.ok (.ofNat 0xf0000000000000000000000000000003))) := by
    rfl
  have side : applying[6]? = some (.request (.createBalancer (.ofNat 1) (.ofNat 4)
      ⟨"side", "cloud/lb", [], []⟩) (.ok (.ofNat 0xf0000000000000000000000000000004))) := by
    rfl
  exact ⟨created_under_owner ids planned applied fresh (split front),
    created_under_owner ids planned applied fresh (split inbox),
    created_under_owner ids planned applied fresh (split side)⟩

end Handover

end Converge
