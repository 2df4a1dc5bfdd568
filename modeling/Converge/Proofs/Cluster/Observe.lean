import Converge.Proofs.Apply.Steps
import Converge.Proofs.Cluster.Site
import Converge.Proofs.Data.Keyed
import Mathlib.Data.List.Forall2
import Mathlib.Data.List.Perm.Subperm
/-!
# What a snapshot shows

A snapshot is taken with many requests, page by page and load balancer by load balancer.  Taken of
a control plane that behaves like a store it shows exactly what is there: each group, and under
its name each of its load balancers, in some order.  That no two groups have the same name is
needed for this; without it, what is found in a snapshot is still there.

Main statements: `Observe.shows` and `Observe.seenIn`.
-/

namespace Converge

/-- Whether a snapshot shows an infrastructure. -/
structure LiveState.Shows (live : LiveState) (sites : List Site) : Prop where
  groups : live.groups.Perm (sites.map (·.group))
  balancers : ∀ s ∈ sites, ∃ bs, live.balancers.get? s.name = some bs ∧ bs.Perm s.balancers

/-- Whether all that is found in a snapshot is there; not all that is there need be found. -/
structure LiveState.SeenIn (live : LiveState) (sites : List Site) : Prop where
  group : ∀ n g, live.group? n = some g → ∃ s ∈ sites, s.name = n ∧ s.group = g
  balancer : ∀ n m b, live.balancer? n m = some b →
    ∃ s ∈ sites, s.name = n ∧ b ∈ s.balancers ∧ b.name = m

/-! ## 1. Lists of requests -/

/-- What a session that goes through a list and succeeds comes to, entry by entry. -/
theorem Session.forall₂_of_course_mapM {f : α → Session β} {served : Event → Prop}
    {R : α → β → Prop}
    (hf : ∀ a es b, (f a).Course es (some (.ok b)) → (∀ e ∈ es, served e) → R a b) :
    ∀ {l : List α} {es : List Event} {bs : List β}, (l.mapM f).Course es (some (.ok bs)) →
      (∀ e ∈ es, served e) → List.Forall₂ R l bs
  | [], es, bs, h, _ => by
    rw [List.mapM_nil] at h
    obtain ⟨-, hr⟩ := Session.course_pure.1 h
    obtain rfl := Except.ok.inj (Option.some.inj hr)
    exact .nil
  | a :: rest, es, bs, h, hs => by
    rw [List.mapM_cons] at h
    obtain ⟨as, cs, b, rfl, ha, h⟩ := Session.course_bind_ok.1 h
    obtain ⟨ds, fs, bs', rfl, hrest, h⟩ := Session.course_bind_ok.1 h
    obtain ⟨-, hr⟩ := Session.course_pure.1 h
    obtain rfl := Except.ok.inj (Option.some.inj hr)
    refine .cons (hf a as b ha fun e he => hs e (List.mem_append_left _ he)) ?_
    exact forall₂_of_course_mapM hf hrest fun e he =>
      hs e (List.mem_append_right _ (List.mem_append_left _ he))

/-- Whether a session comes to a value with some of the events. -/
def Session.Yields (s : Session α) (es : List Event) (a : α) : Prop :=
  ∃ as, (∀ e ∈ as, e ∈ es) ∧ s.Course as (some (.ok a))

namespace Observe

variable {limit : Nat} {paging : Paging} {cluster : Uuid} {sites : List Site} {es : List Event}

/-! ## 2. Groups and load balancers -/

theorem listGroups_perm {found : List Group}
    (h : (listGroups limit cluster).Course es (some (.ok found)))
    (hs : ∀ e ∈ es, (Part.infrastructure paging cluster).admits sites e) :
    found.Perm (sites.map (·.group)) := by
  refine paging.collected_perm (fun cursor fs page hc hp => ?_) h hs
  obtain ⟨reply, rfl, hr⟩ := Session.course_call.1 hc
  obtain rfl := Option.some.inj hr
  simpa [Part.infrastructure, Event.stale, Event.agrees] using hp _ (List.mem_singleton.2 rfl)

/-- The load balancers of a group are listed and then read one by one, each by its identifier. -/
theorem listBalancers_read {group : Uuid} {found : List Balancer}
    (h : (listBalancers limit cluster group).Course es (some (.ok found)))
    (hs : ∀ e ∈ es, (Part.infrastructure paging cluster).admits sites e) :
    ∃ listed, listed.Perm (summaries sites group) ∧
      List.Forall₂ (fun (l : BalancerSummary) (b : Balancer) =>
        (∃ s ∈ sites, s.id = group ∧ b ∈ s.balancers) ∧ b.id = l.id) listed found := by
  obtain ⟨as, bs, listed, rfl, hl, hr⟩ := Session.course_bind_ok.1 h
  have perm : listed.Perm (summaries sites group) := by
    refine paging.collected_perm (fun cursor fs page hc hp => ?_) hl fun e he =>
      hs e (List.mem_append_left _ he)
    obtain ⟨reply, rfl, hr⟩ := Session.course_call.1 hc
    obtain rfl := Option.some.inj hr
    simpa [Part.infrastructure, Event.stale, Event.agrees] using hp _ (List.mem_singleton.2 rfl)
  have read : List.Forall₂ (fun (l : BalancerSummary) (b : Balancer) =>
      (Part.infrastructure paging cluster).admits sites
        (.request (.getBalancer cluster group l.id) (.ok b))) listed found := by
    refine Session.forall₂_of_course_mapM (fun l fs b hc hp => ?_) hr fun e he =>
      hs e (List.mem_append_right _ he)
    obtain ⟨reply, rfl, hr⟩ := Session.course_call.1 hc
    obtain rfl := Option.some.inj hr
    exact hp _ (List.mem_singleton.2 rfl)
  -- What is listed is there, so that what is read cannot be stale.
  have there : ∀ l ∈ listed, ∃ s ∈ sites, s.id = group ∧ l.id ∈ s.balancers.map (·.id) := by
    intro l hm
    obtain ⟨s, hs, hl⟩ := List.mem_flatMap.1 (perm.mem_iff.1 hm)
    obtain ⟨hs, hid⟩ := List.mem_filter.1 hs
    obtain ⟨b, hb, rfl⟩ := List.mem_map.1 hl
    exact ⟨s, hs, of_decide_eq_true hid, List.mem_map_of_mem hb⟩
  refine ⟨listed, perm, ((List.forall₂_and_left _ _).2 ⟨there, read⟩).imp ?_⟩
  rintro l b ⟨⟨s, hs, hid, hm⟩, hb⟩
  rcases Bool.or_eq_true_iff.1 hb with stale | agrees
  · exact absurd hm ((of_decide_eq_true stale) s hs hid)
  · obtain ⟨t, ht, htid, hbt, hbid⟩ := (of_decide_eq_true agrees) rfl
    exact ⟨⟨t, ht, htid, hbt⟩, hbid⟩

theorem summaries_of_mem (hd : Distinct sites) {s : Site} (hm : s ∈ sites) :
    summaries sites s.id = s.balancers.map fun b => ⟨b.id, b.name⟩ := by
  rw [summaries, filter_key_eq_singleton hd.ids hm rfl, List.flatMap_singleton]

/-- So exactly those are found that are there. -/
theorem listBalancers_perm (hd : Distinct sites) {s : Site} (hm : s ∈ sites)
    {found : List Balancer} (h : (listBalancers limit cluster s.id).Course es (some (.ok found)))
    (hs : ∀ e ∈ es, (Part.infrastructure paging cluster).admits sites e) :
    found.Perm s.balancers := by
  obtain ⟨listed, listed_perm, read⟩ := listBalancers_read h hs
  rw [summaries_of_mem hd hm] at listed_perm
  obtain ⟨there, same⟩ := (List.forall₂_and_left _ _).1 read.flip
  have subset : found ⊆ s.balancers := by
    intro b hb
    obtain ⟨t, ht, hid, hbt⟩ := there b hb
    rwa [List.inj_on_of_nodup_map hd.ids ht hm hid] at hbt
  have ids : found.map (·.id) = listed.map (·.id) :=
    List.forall₂_eq_eq_eq ▸ List.forall₂_map_left_iff.2 (List.forall₂_map_right_iff.2 same)
  have ids_perm : (found.map (·.id)).Perm (s.balancers.map (·.id)) := by
    have := listed_perm.map (·.id)
    rwa [← ids, List.map_map] at this
  have nodup : found.Nodup := .of_map _ (ids_perm.nodup_iff.2 (hd.balancerIds s hm))
  refine (List.subperm_of_subset nodup subset).perm_of_length_le ?_
  simpa using Nat.le_of_eq ids_perm.length_eq.symm

/-- Each group's load balancers are kept under its name. -/
theorem get?_of_course_balancersByGroup {served : Event → Prop} :
    ∀ {groups : List Group} {found m : SortedMap (List Balancer)} {es : List Event},
      (groups.map (·.name)).Nodup →
      (groups.foldlM (fun (found : SortedMap (List Balancer)) (g : Group) => do
        let bs ← listBalancers limit cluster g.id
        pure (found.insert g.name bs)) found).Course es (some (.ok m)) → (∀ e ∈ es, served e) →
      (∀ g ∈ groups, ∃ bs as, m.get? g.name = some bs ∧
        (listBalancers limit cluster g.id).Course as (some (.ok bs)) ∧ ∀ e ∈ as, served e) ∧
      ∀ n ∉ groups.map (·.name), m.get? n = found.get? n
  | [], found, m, es, _, h, _ => by
    obtain ⟨-, hr⟩ := Session.course_pure.1 h
    obtain rfl := Except.ok.inj (Option.some.inj hr)
    exact ⟨fun _ => List.not_mem_nil.elim, fun _ _ => rfl⟩
  | g :: rest, found, m, es, hn, h, hs => by
    rw [List.foldlM_cons] at h
    obtain ⟨hg, hrest⟩ := List.nodup_cons.1 hn
    obtain ⟨as, bs, next, rfl, hstep, h⟩ := Session.course_bind_ok.1 h
    obtain ⟨cs, ds, listed, rfl, hl, hp⟩ := Session.course_bind_ok.1 hstep
    obtain ⟨rfl, hr⟩ := Session.course_pure.1 hp
    obtain rfl := Except.ok.inj (Option.some.inj hr)
    obtain ⟨later, other⟩ := get?_of_course_balancersByGroup hrest h fun e he =>
      hs e (List.mem_append_right _ he)
    refine ⟨fun g' hg' => ?_, fun n hn => ?_⟩
    · rcases List.mem_cons.1 hg' with rfl | hg'
      · refine ⟨listed, cs, ?_, hl, fun e he => hs e ?_⟩
        · rw [other _ hg, SortedMap.get?_insert, if_pos rfl]
        · exact List.mem_append_left _ (List.mem_append_left _ he)
      · exact later g' hg'
    · rw [List.map_cons, List.mem_cons, not_or] at hn
      rw [other n hn.2, SortedMap.get?_insert, if_neg hn.1]

/-- What is kept under a name are the load balancers of a group with this name. -/
theorem mem_of_course_balancersByGroup {served : Event → Prop} {n : String} {bs : List Balancer} :
    ∀ {groups : List Group} {found m : SortedMap (List Balancer)} {es : List Event},
      (groups.foldlM (fun (found : SortedMap (List Balancer)) (g : Group) => do
        let bs ← listBalancers limit cluster g.id
        pure (found.insert g.name bs)) found).Course es (some (.ok m)) → (∀ e ∈ es, served e) →
      m.get? n = some bs → found.get? n = some bs ∨ ∃ g ∈ groups, g.name = n ∧
        ∃ as, (listBalancers limit cluster g.id).Course as (some (.ok bs)) ∧ ∀ e ∈ as, served e
  | [], found, m, es, h, _, hget => by
    obtain ⟨-, hr⟩ := Session.course_pure.1 h
    obtain rfl := Except.ok.inj (Option.some.inj hr)
    exact .inl hget
  | g :: rest, found, m, es, h, hs, hget => by
    rw [List.foldlM_cons] at h
    obtain ⟨as, cs, next, rfl, hstep, h⟩ := Session.course_bind_ok.1 h
    obtain ⟨ds, fs, listed, rfl, hl, hp⟩ := Session.course_bind_ok.1 hstep
    obtain ⟨rfl, hr⟩ := Session.course_pure.1 hp
    obtain rfl := Except.ok.inj (Option.some.inj hr)
    rcases mem_of_course_balancersByGroup h (fun e he => hs e (List.mem_append_right _ he)) hget with
      hfound | ⟨g', hg', later⟩
    · rw [SortedMap.get?_insert] at hfound
      split at hfound
      next hn =>
        obtain rfl := Option.some.inj hfound
        exact .inr ⟨g, List.mem_cons_self, hn.symm, ds, hl, fun e he =>
          hs e (List.mem_append_left _ (List.mem_append_left _ he))⟩
      next => exact .inl hfound
    · exact .inr ⟨g', List.mem_cons_of_mem _ hg', later⟩

/-! ## 3. The snapshot -/

theorem only_reads_resolveCluster (name : String) :
    (resolveCluster limit name).Only fun e => e.reads := by
  refine Session.only_bind ?_ fun clusters => ?_
  · exact (reads_collectFrom (fun _ => Session.reads_call rfl) limit [] none).only
  · cases clusters.find? (·.name = name) with
    | none => exact Session.only_throw _
    | some c => exact Session.only_pure _

theorem only_reads_listBalancers (group : Uuid) :
    (listBalancers limit cluster group).Only fun e => e.reads := by
  refine Session.only_bind ?_ fun listed => ?_
  · exact (reads_collectFrom (fun _ => Session.reads_call rfl) limit [] none).only
  · refine Session.only_mapM (fun _ => ?_) listed
    exact Session.only_call fun _ => rfl

theorem only_reads_balancersByGroup (groups : List Group) :
    (balancersByGroup limit cluster groups).Only fun e => e.reads :=
  Session.only_foldlM
    (fun _ _ => Session.only_bind (only_reads_listBalancers _) fun _ => Session.only_pure _) _ _

theorem only_reads_withLatest (applications : List Application) :
    (withLatest limit applications).Only fun e => e.reads :=
  Session.only_mapM
    (fun _ => Session.only_bind (reads_latestVersion _ _).only fun _ => Session.only_pure _) _

/-- Taking a snapshot only reads. -/
theorem only_reads_cluster (name : String) :
    (Observe.cluster limit name).Only fun e => e.reads := by
  refine Session.only_bind (Session.only_log _ _) fun _ => ?_
  refine Session.only_bind (only_reads_resolveCluster name) fun identity => ?_
  refine Session.only_bind (Session.only_call fun _ => rfl) fun _ => ?_
  refine Session.only_bind (reads_listGroups _ _).only fun groups => ?_
  refine Session.only_bind (only_reads_balancersByGroup groups) fun _ => ?_
  refine Session.only_bind ?_ fun applications => ?_
  · exact (reads_collectFrom (fun _ => Session.reads_call rfl) limit [] none).only
  refine Session.only_bind (only_reads_withLatest applications) fun _ => ?_
  exact Session.only_bind (Session.only_log _ _) fun _ => Session.only_pure _

/-- Where the parts of a snapshot come from: each was yielded by some of the events. -/
structure Taken (limit : Nat) (name : String) (es : List Event) (live : LiveState) : Prop where
  identity : (resolveCluster limit name).Yields es live.cluster
  detail : (Session.call (.getCluster live.cluster.id)).Yields es live.detail
  groups : (listGroups limit live.cluster.id).Yields es live.groups
  balancers : (balancersByGroup limit live.cluster.id live.groups).Yields es live.balancers
  applications : ∃ listed, (listApplications limit live.cluster.id).Yields es listed ∧
    (withLatest limit listed).Yields es live.applications

theorem taken_of_course {name : String} {live : LiveState}
    (h : (Observe.cluster limit name).Course es (some (.ok live))) : Taken limit name es live := by
  have h := Session.course_log_bind.1 h
  obtain ⟨e₁, r₁, identity, rfl, hi, h⟩ := Session.course_bind_ok.1 h
  obtain ⟨e₂, r₂, detail, rfl, hd, h⟩ := Session.course_bind_ok.1 h
  obtain ⟨e₃, r₃, groups, rfl, hg, h⟩ := Session.course_bind_ok.1 h
  obtain ⟨e₄, r₄, balancers, rfl, hb, h⟩ := Session.course_bind_ok.1 h
  obtain ⟨e₅, r₅, listed, rfl, ha, h⟩ := Session.course_bind_ok.1 h
  obtain ⟨e₆, r₆, latest, rfl, hl, h⟩ := Session.course_bind_ok.1 h
  obtain ⟨-, hr⟩ := Session.course_log_pure.1 h
  obtain rfl := Except.ok.inj (Option.some.inj hr)
  exact ⟨⟨e₁, by simp +contextual, hi⟩, ⟨e₂, by simp +contextual, hd⟩,
    ⟨e₃, by simp +contextual, hg⟩, ⟨e₄, by simp +contextual, hb⟩,
    listed, ⟨e₅, by simp +contextual, ha⟩, ⟨e₆, by simp +contextual, hl⟩⟩

/-- **A snapshot shows what is there.** -/
theorem shows {name : String} {live : LiveState} (hd : Distinct sites)
    (h : (Observe.cluster limit name).Course es (some (.ok live)))
    (hs : (Part.infrastructure paging live.cluster.id).Serves sites es) :
    live.Shows sites ∧ effects live.cluster.id sites es = sites := by
  have reads := only_reads_cluster name es _ h
  have agree := Part.serves_of_reads reads hs
  have taken := taken_of_course h
  obtain ⟨as, has, hg⟩ := taken.groups
  obtain ⟨bs, hbs, hb⟩ := taken.balancers
  have groups := listGroups_perm hg fun e he => agree e (has e he)
  have names : (live.groups.map (·.name)).Nodup := by
    rw [(groups.map (·.name)).nodup_iff, List.map_map]
    exact hd.names
  obtain ⟨found, -⟩ := get?_of_course_balancersByGroup names hb fun e he => agree e (hbs e he)
  refine ⟨⟨groups, fun s hm => ?_⟩, effects_of_reads reads⟩
  obtain ⟨balancers, cs, hget, hl, hcs⟩ :=
    found s.group (groups.mem_iff.2 (List.mem_map_of_mem hm))
  exact ⟨balancers, hget, listBalancers_perm hd hm hl hcs⟩

/-- **What is found in a snapshot is there**, whatever names there are. -/
theorem seenIn {name : String} {live : LiveState} (ids : (sites.map (·.id)).Nodup)
    (h : (Observe.cluster limit name).Course es (some (.ok live)))
    (hs : (Part.infrastructure paging live.cluster.id).Serves sites es) : live.SeenIn sites := by
  have agree := Part.serves_of_reads (only_reads_cluster name es _ h) hs
  have taken := taken_of_course h
  obtain ⟨as, has, hg⟩ := taken.groups
  obtain ⟨bs, hbs, hb⟩ := taken.balancers
  have groups := listGroups_perm hg fun e he => agree e (has e he)
  have site {g : Group} (hm : g ∈ live.groups) : ∃ s ∈ sites, s.group = g :=
    List.mem_map.1 (groups.mem_iff.1 hm)
  constructor
  · intro n g hfound
    obtain ⟨hm, hn⟩ := find?_key_eq_some hfound
    obtain ⟨s, hs, rfl⟩ := site hm
    exact ⟨s, hs, hn, rfl⟩
  · intro n m b hfound
    obtain ⟨listed, hget, hfind⟩ := Option.bind_eq_some_iff.1 hfound
    obtain ⟨hm, hn⟩ := find?_key_eq_some hfind
    rcases mem_of_course_balancersByGroup hb (fun e he => agree e (hbs e he)) hget with
      hnone | ⟨g, hg, hgn, cs, hl, hcs⟩
    · rw [SortedMap.get?_empty] at hnone
      nomatch hnone
    · obtain ⟨s, hs, rfl⟩ := site hg
      obtain ⟨_, -, read⟩ := listBalancers_read hl hcs
      obtain ⟨_, -, ⟨t, ht, hid, hbt⟩, -⟩ := exists_left_of_forall₂ read b hm
      obtain rfl := List.inj_on_of_nodup_map ids ht hs hid
      exact ⟨t, ht, hgn, hbt, hn⟩

end Observe

/-! ## 4. Looking things up in a snapshot -/

namespace LiveState.Shows

variable {live : LiveState} {sites : List Site}

/-- A group is found in a snapshot where it is found in the infrastructure. -/
theorem group?_eq_some_iff (h : live.Shows sites) (hd : Distinct sites) {name : String}
    {g : Group} : live.group? name = some g ↔ ∃ s ∈ sites, s.name = name ∧ s.group = g := by
  have names : (live.groups.map (·.name)).Nodup := by
    rw [(h.groups.map (·.name)).nodup_iff, List.map_map]
    exact hd.names
  rw [LiveState.group?, find?_key_eq_some_iff names, h.groups.mem_iff, List.mem_map]
  constructor
  · rintro ⟨⟨s, hs, rfl⟩, hn⟩
    exact ⟨s, hs, hn, rfl⟩
  · rintro ⟨s, hs, hn, rfl⟩
    exact ⟨⟨s, hs, rfl⟩, hn⟩

/-- So is a load balancer of a group. -/
theorem balancer?_eq_some_iff (h : live.Shows sites) (hd : Distinct sites) {s : Site}
    (hs : s ∈ sites) {name : String} {b : Balancer} :
    live.balancer? s.name name = some b ↔ b ∈ s.balancers ∧ b.name = name := by
  obtain ⟨bs, hget, hperm⟩ := h.balancers s hs
  have names : (bs.map (·.name)).Nodup :=
    ((hperm.map (·.name)).nodup_iff).2 (hd.balancerNames s hs)
  rw [LiveState.balancer?, hget, Option.bind_some, find?_key_eq_some_iff names, hperm.mem_iff]

end LiveState.Shows

theorem LiveState.SeenIn.mono {live : LiveState} {sites fewer : List Site} (h : live.SeenIn fewer)
    (sub : Shrunk sites fewer) : live.SeenIn sites := by
  constructor
  · intro n g hg
    obtain ⟨t, ht, hn, rfl⟩ := h.group n g hg
    obtain ⟨s, hs, same, -⟩ := sub t ht
    exact ⟨s, hs, by rwa [Site.name, same], same⟩
  · intro n m b hb
    obtain ⟨t, ht, hn, hbt, hm⟩ := h.balancer n m b hb
    obtain ⟨s, hs, same, subset⟩ := sub t ht
    exact ⟨s, hs, by rwa [Site.name, same], subset hbt, hm⟩

end Converge
