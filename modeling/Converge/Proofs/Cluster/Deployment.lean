import Converge.Proofs.Cluster.Observe
/-!
# Applications on a control plane that behaves like a store

The applications of a cluster are a list of deployments: an application with all its versions.
`Part.applications` says what becomes of them with a request and its reply, and which replies a
store gives: a new application gets a new identifier, a new version the highest number, and what is
listed and read is what is there.  A snapshot shows each of them with its latest version.

Main statements: `greatest_eq_some_iff`, `portsDistinct_deployed` and
`Observe.shows_applications`.
-/

namespace Converge

/-! ## 1. The greatest of some numbers -/

theorem foldl_greatest : ∀ (rest : List Int32) (n : Int32),
    let m := rest.foldl (fun m k => if m ≤ k then k else m) n
    m ∈ n :: rest ∧ ∀ k ∈ n :: rest, k ≤ m
  | [], n => by simp
  | k :: rest, n => by
    obtain ⟨hm, hmax⟩ := foldl_greatest rest (if n ≤ k then k else n)
    dsimp only [List.foldl_cons] at hm hmax ⊢
    generalize rest.foldl _ _ = m at hm hmax ⊢
    obtain ⟨hhead, hrest⟩ := List.forall_mem_cons.1 hmax
    split at hm
    next hle =>
      rw [if_pos hle] at hhead
      refine ⟨List.mem_cons_of_mem _ hm, ?_⟩
      exact List.forall_mem_cons.2 ⟨Int32.le_trans hle hhead, List.forall_mem_cons.2 ⟨hhead, hrest⟩⟩
    next hle =>
      rw [if_neg hle] at hhead
      have hlt : k ≤ n := (Int32.le_total n k).resolve_left hle
      refine ⟨?_, List.forall_mem_cons.2
        ⟨hhead, List.forall_mem_cons.2 ⟨Int32.le_trans hlt hhead, hrest⟩⟩⟩
      rcases List.mem_cons.1 hm with rfl | hm
      · exact List.mem_cons_self
      · exact List.mem_cons_of_mem _ (List.mem_cons_of_mem _ hm)

/-- The greatest number is there, and none is greater. -/
theorem greatest_eq_some_iff {l : List Int32} {m : Int32} :
    greatest l = some m ↔ m ∈ l ∧ ∀ k ∈ l, k ≤ m := by
  cases l with
  | nil => simp [greatest]
  | cons n rest =>
    obtain ⟨hm, hmax⟩ := foldl_greatest rest n
    constructor
    · intro h
      obtain rfl := Option.some.inj h
      exact ⟨hm, hmax⟩
    · rintro ⟨hm', hmax'⟩
      exact congrArg some (Int32.le_antisymm (hmax' _ hm) (hmax _ hm'))

/-- It does not depend on the order. -/
theorem greatest_perm {l m : List Int32} (h : l.Perm m) : greatest l = greatest m := by
  refine Option.ext fun n => ?_
  rw [greatest_eq_some_iff, greatest_eq_some_iff, h.mem_iff]
  simp only [h.mem_iff]

theorem greatest_append_singleton {l : List Int32} {n : Int32} (h : ∀ k ∈ l, k < n) :
    greatest (l ++ [n]) = some n := by
  refine greatest_eq_some_iff.2 ⟨by simp, fun k hk => ?_⟩
  rcases List.mem_append.1 hk with hk | hk
  · exact Int32.le_of_lt (h k hk)
  · rw [List.mem_singleton.1 hk]
    exact Int32.le_refl n

/-! ## 2. Deployments -/

/-- An application with all its versions. -/
structure Deployment where
  application : Application
  versions : List ApplicationVersion
  deriving DecidableEq, Repr

namespace Deployment

def name (d : Deployment) : String := d.application.name

def id (d : Deployment) : Uuid := d.application.id

/-- The version with the highest number. -/
def latest (d : Deployment) : Option ApplicationVersion :=
  (greatest (d.versions.map (·.version))).bind fun n => d.versions.find? (·.version = n)

/-- The deployment as a snapshot shows it. -/
def live (d : Deployment) : LiveApplication := ⟨d.application, d.latest⟩

/-- A deployment with a further version. -/
def adding (number : Int32) (r : CreateVersionRequest) (d : Deployment) : Deployment :=
  { d with versions := d.versions ++ [Simulation.stored number r] }

/-- A deployment of which a version serves. -/
def serving (version : Option Int32) (d : Deployment) : Deployment :=
  { d with application := { d.application with activeVersion := version } }

/-- A deployment without versions. -/
def fresh (id : Uuid) (name : String) (cluster : Uuid) : Deployment :=
  ⟨⟨id, name, cluster, none⟩, []⟩

/-- The latest version is the one that was added last. -/
theorem latest_adding {d : Deployment} {number : Int32} {r : CreateVersionRequest}
    (h : ∀ v ∈ d.versions, v.version < number) :
    (d.adding number r).latest = some (Simulation.stored number r) := by
  have last : greatest ((d.versions ++ [Simulation.stored number r]).map (·.version)) =
      some number := by
    rw [List.map_append]
    refine greatest_append_singleton fun k hk => ?_
    obtain ⟨v, hv, rfl⟩ := List.mem_map.1 hk
    exact h v hv
  have others : d.versions.find? (·.version = number) = none := by
    refine List.find?_eq_none.2 fun v hv hn => ?_
    exact Int32.ne_of_lt (h v hv) (of_decide_eq_true hn)
  rw [latest, adding, last, Option.bind_some, List.find?_append, others]
  simp [Simulation.stored]

/-- Changes the deployments with an identifier. -/
def change (id : Uuid) (f : Deployment → Deployment) (ds : List Deployment) : List Deployment :=
  ds.map fun d => if d.id = id then f d else d

/-- The deployments with a name. -/
def named (n : String) (ds : List Deployment) : List Deployment := ds.filter (·.name = n)

end Deployment

namespace Event

/-- What becomes of the applications of a cluster with a request and its reply. -/
def deploy (cluster : Uuid) (ds : List Deployment) : Event → List Deployment
  | .request (.createApplication r) (.ok id) =>
    if r.clusterId = cluster then ds ++ [.fresh id r.name r.clusterId] else ds
  | .request (.createVersion a r) (.ok number) => Deployment.change a (·.adding number r) ds
  | .request (.updateApplication a r) (.ok _) => Deployment.change a (·.serving r.activeVersion) ds
  | _ => ds

/-- Whether the reply to a request is one that a store with these applications gives. -/
def agreesOn (paging : Paging) (cluster : Uuid) (ds : List Deployment) : Event → Bool
  | .request (.createApplication r) (.ok id) => r.clusterId = cluster → id ∉ ds.map (·.id)
  | .request (.createVersion a _) (.ok number) =>
    ∀ d ∈ ds, d.id = a → ∀ v ∈ d.versions, v.version < number
  | .request (.listApplications c cursor) (.ok page) => c = cluster →
    page = paging.page (ds.map (·.application)) cursor
  | .request (.listVersions a cursor) (.ok page) => ∀ d ∈ ds, d.id = a →
    page.map (·.version) = paging.page (d.versions.map (·.version)) cursor
  | .request (.getVersion a number) (.ok v) => ∀ d ∈ ds, d.id = a →
    d.versions.find? (·.version = number) = some v
  | _ => true

/-- A request that only reads changes nothing. -/
theorem deploy_of_reads {e : Event} (h : e.reads) (cluster : Uuid) (ds : List Deployment) :
    e.deploy cluster ds = ds := by
  obtain ⟨c, reply⟩ | _ | _ := e
  · cases c <;> first | rfl | nomatch h
  · rfl
  · rfl

/-- Everything that can become of the applications with an event. -/
inductive Deploys (cluster : Uuid) (ds : List Deployment) : Event → List Deployment → Prop where
  | nothing {e} : Deploys cluster ds e ds
  | created {r id} (h : r.clusterId = cluster) :
      Deploys cluster ds (.request (.createApplication r) (.ok id))
        (ds ++ [.fresh id r.name r.clusterId])
  | versioned {a r number} : Deploys cluster ds (.request (.createVersion a r) (.ok number))
      (Deployment.change a (·.adding number r) ds)
  | served {a r u} : Deploys cluster ds (.request (.updateApplication a r) (.ok u))
      (Deployment.change a (·.serving r.activeVersion) ds)

theorem deploys (e : Event) (cluster : Uuid) (ds : List Deployment) :
    Deploys cluster ds e (e.deploy cluster ds) := by
  unfold deploy
  split
  · split
    next h => exact .created h
    next => exact .nothing
  · exact .versioned
  · exact .served
  · exact .nothing

end Event

/-- The applications of a cluster. -/
def Part.applications (paging : Paging) (cluster : Uuid) : Part (List Deployment) where
  effect := Event.deploy cluster
  admits := Event.agreesOn paging cluster
  still h ds := Event.deploy_of_reads h cluster ds

/-- The applications after some events. -/
def deployed (cluster : Uuid) (ds : List Deployment) (es : List Event) : List Deployment :=
  (Part.applications .single cluster).after ds es

section

variable {paging : Paging} {cluster : Uuid} {ds : List Deployment} {es fs : List Event}

@[simp] theorem deployed_nil : deployed cluster ds [] = ds := rfl

@[simp] theorem deployed_cons (e : Event) :
    deployed cluster ds (e :: es) = deployed cluster (e.deploy cluster ds) es := rfl

@[simp] theorem deployed_append :
    deployed cluster ds (es ++ fs) = deployed cluster (deployed cluster ds es) fs :=
  Part.after_append

theorem serves_deployed : (Part.applications paging cluster).Serves ds (es ++ fs) ↔
    (Part.applications paging cluster).Serves ds es ∧
      (Part.applications paging cluster).Serves (deployed cluster ds es) fs :=
  Part.serves_append

theorem deployed_of_reads (h : ∀ e ∈ es, e.reads) : deployed cluster ds es = ds :=
  Part.after_of_reads h

/-! ## 3. What requests leave alone -/

namespace Deployment

/-- The identifiers of deployments with their names. -/
def keys (ds : List Deployment) : List (Uuid × String) := ds.map fun d => (d.id, d.name)

theorem mem_keys_iff {id : Uuid} {n : String} :
    (id, n) ∈ keys ds ↔ ∃ d ∈ ds, d.id = id ∧ d.name = n := by
  simp [keys]

/-- A change that keeps identifiers and names. -/
def Keeps (f : Deployment → Deployment) : Prop := ∀ d, (f d).id = d.id ∧ (f d).name = d.name

theorem keeps_adding (number : Int32) (r : CreateVersionRequest) : Keeps (·.adding number r) :=
  fun _ => ⟨rfl, rfl⟩

theorem keeps_serving (version : Option Int32) : Keeps (·.serving version) := fun _ => ⟨rfl, rfl⟩

theorem keys_change {f : Deployment → Deployment} (hf : Keeps f) (id : Uuid) :
    keys (change id f ds) = keys ds := by
  rw [keys, change, List.map_map]
  refine List.map_congr_left fun d _ => ?_
  by_cases hid : d.id = id
  · simp [hid, hf d]
  · simp [hid]

/-- Those that have a name still have it after a change. -/
theorem named_change_comm {f : Deployment → Deployment} (hf : Keeps f) (id : Uuid) (n : String) :
    named n (change id f ds) = change id f (named n ds) := by
  rw [named, change, List.filter_map]
  refine congrArg (List.map _) (List.filter_congr fun d _ => ?_)
  by_cases hid : d.id = id
  · simp [hid, (hf d).2]
  · simp [hid]

/-- A change to deployments that do not have a name leaves those alone that have it. -/
theorem named_change {f : Deployment → Deployment} (hf : Keeps f) {id : Uuid} {n : String}
    (other : ∀ d ∈ ds, d.id = id → d.name ≠ n) : named n (change id f ds) = named n ds := by
  rw [named_change_comm hf]
  refine (List.map_congr_left fun d hd => ?_).trans (List.map_id _)
  obtain ⟨hd, hn⟩ := List.mem_filter.1 hd
  exact if_neg fun hid => other d hd hid (of_decide_eq_true hn)

/-- The only deployment with a name is there, and has it. -/
theorem mem_of_named_eq {n : String} {d : Deployment} (only : named n ds = [d]) :
    d ∈ ds ∧ d.name = n := by
  have hd : d ∈ named n ds := only ▸ List.mem_singleton.2 rfl
  exact ⟨(List.mem_filter.1 hd).1, of_decide_eq_true (List.mem_filter.1 hd).2⟩

/-- A change to the only deployment with a name. -/
theorem named_change_singleton {f : Deployment → Deployment} (hf : Keeps f) {n : String}
    {d : Deployment} (only : named n ds = [d]) : named n (change d.id f ds) = [f d] := by
  rw [named_change_comm hf, only, change, List.map_singleton, if_pos rfl]

end Deployment

open Deployment

/-- No application loses its identifier or its name. -/
theorem Event.keys_deploy (e : Event) (cluster : Uuid) (ds : List Deployment) :
    keys ds <+: keys (e.deploy cluster ds) := by
  have h := e.deploys cluster ds
  generalize e.deploy cluster ds = after at h
  cases h with
  | nothing => exact List.prefix_rfl
  | created _ =>
    rw [keys, keys, List.map_append]
    exact List.prefix_append _ _
  | @versioned a r number =>
    have same : keys (change a _ ds) = keys ds := keys_change (keeps_adding number r) a
    exact same ▸ List.prefix_rfl
  | @served a r u =>
    have same : keys (change a _ ds) = keys ds := keys_change (keeps_serving r.activeVersion) a
    exact same ▸ List.prefix_rfl

theorem keys_deployed (es : List Event) (cluster : Uuid) (ds : List Deployment) :
    keys ds <+: keys (deployed cluster ds es) := by
  induction es generalizing ds with
  | nil => exact List.prefix_rfl
  | cons e rest ih => exact (e.keys_deploy cluster ds).trans (ih _)

/-- A store gives no two applications the same identifier. -/
theorem ids_nodup_deployed (h : (ds.map (·.id)).Nodup)
    (hs : (Part.applications paging cluster).Serves ds es) :
    ((deployed cluster ds es).map (·.id)).Nodup := by
  refine Part.after_induction (P := Part.applications paging cluster)
    (motive := fun ds => (ds.map (·.id)).Nodup) h hs fun ds h e _ ha => ?_
  have ids : ∀ ds : List Deployment, ds.map (·.id) = (keys ds).map (·.1) := fun ds => by
    rw [keys, List.map_map]
    rfl
  have becomes := e.deploys cluster ds
  change ((e.deploy cluster ds).map (·.id)).Nodup
  generalize e.deploy cluster ds = after at becomes
  cases becomes with
  | nothing => exact h
  | @created r id hc =>
    have new : id ∉ ds.map (·.id) := of_decide_eq_true ha hc
    rw [List.map_append, List.map_singleton, List.nodup_append]
    refine ⟨h, List.pairwise_singleton _ _, fun a hm b hb => ?_⟩
    obtain rfl := List.mem_singleton.1 hb
    rintro rfl
    exact new hm
  | @versioned a r number => rwa [ids, keys_change (keeps_adding number r), ← ids]
  | @served a r u => rwa [ids, keys_change (keeps_serving r.activeVersion), ← ids]

/-- Whether the latest versions of the applications with some names list no port twice. -/
def PortsDistinct (names : List String) (ds : List Deployment) : Prop :=
  ∀ d ∈ ds, d.name ∈ names → ∀ v, d.latest = some v →
    (v.exposedPorts.map (·.targetPort)).Nodup

/-- It stays so where no version is written that lists a port twice. -/
theorem portsDistinct_deployed {names : List String} (h : PortsDistinct names ds)
    (hs : (Part.applications paging cluster).Serves ds es)
    (written : ∀ id r reply, .request (.createVersion id r) reply ∈ es →
      (r.exposedPorts.map (·.targetPort)).Nodup) :
    PortsDistinct names (deployed cluster ds es) := by
  refine Part.after_induction (P := Part.applications paging cluster)
    (motive := PortsDistinct names) h hs fun ds h e he ha => ?_
  have becomes := e.deploys cluster ds
  change PortsDistinct names (e.deploy cluster ds)
  generalize e.deploy cluster ds = after at becomes
  cases becomes with
  | nothing => exact h
  | created _ =>
    intro d hd
    rcases List.mem_append.1 hd with hd | hd
    · exact h d hd
    · obtain rfl := List.mem_singleton.1 hd
      exact fun _ v hv => nomatch hv
  | @versioned a r number =>
    intro d' hd'
    obtain ⟨d, hd, rfl⟩ := List.mem_map.1 hd'
    by_cases hid : d.id = a
    · rw [if_pos hid]
      intro _ v hv
      have numbers : ∀ v ∈ d.versions, v.version < number := of_decide_eq_true ha d hd hid
      rw [latest_adding numbers] at hv
      obtain rfl := Option.some.inj hv
      exact written a r _ he
    · rw [if_neg hid]
      exact h d hd
  | @served a r u =>
    intro d' hd'
    obtain ⟨d, hd, rfl⟩ := List.mem_map.1 hd'
    split
    · exact h d hd
    · exact h d hd

end

/-! ## 4. What a snapshot shows -/

/-- Whether a snapshot shows some applications. -/
def LiveState.ShowsApplications (live : LiveState) (ds : List Deployment) : Prop :=
  ∀ l, l ∈ live.applications ↔ ∃ d ∈ ds, d.live = l

namespace Observe

variable {limit : Nat} {paging : Paging} {cluster : Uuid} {ds : List Deployment} {es : List Event}

theorem listApplications_perm {found : List Application}
    (h : (listApplications limit cluster).Course es (some (.ok found)))
    (hs : ∀ e ∈ es, (Part.applications paging cluster).admits ds e) :
    found.Perm (ds.map (·.application)) := by
  refine paging.collected_perm (fun cursor fs page hc hp => ?_) h hs
  obtain ⟨reply, rfl, hr⟩ := Session.course_call.1 hc
  obtain rfl := Option.some.inj hr
  simpa [Part.applications, Event.agreesOn] using hp _ (List.mem_singleton.2 rfl)

/-- The latest version that is found of a deployment is its latest one. -/
theorem latestVersion_eq {d : Deployment} (hd : d ∈ ds) {found : Option ApplicationVersion}
    (h : (latestVersion limit d.id).Course es (some (.ok found)))
    (hs : ∀ e ∈ es, (Part.applications paging cluster).admits ds e) : found = d.latest := by
  obtain ⟨as, bs, listed, rfl, hl, h⟩ := Session.course_bind_ok.1 h
  obtain ⟨numbers, perm, collected⟩ :=
    paging.collected (β := VersionSummary) (d.versions.map (·.version))
  have same : listed.map (·.version) = numbers := by
    refine collected (fun cursor fs page hc hp => ?_) hl fun e he =>
      hs e (List.mem_append_left _ he)
    obtain ⟨reply, rfl, hr⟩ := Session.course_call.1 hc
    obtain rfl := Option.some.inj hr
    have := hp _ (List.mem_singleton.2 rfl)
    simp only [Part.applications, Event.agreesOn, decide_eq_true_eq] at this
    exact this d hd rfl
  rw [same, greatest_perm perm] at h
  rw [Deployment.latest]
  cases hg : greatest (d.versions.map (·.version)) with
  | none =>
    rw [hg] at h
    obtain ⟨-, hr⟩ := Session.course_pure.1 h
    exact Except.ok.inj (Option.some.inj hr)
  | some number =>
    rw [hg] at h
    obtain ⟨cs, es', v, rfl, hv, hlast⟩ := Session.course_bind_ok.1 h
    obtain ⟨reply, rfl, hreply⟩ := Session.course_call.1 hv
    obtain rfl := Option.some.inj hreply
    obtain ⟨-, hr⟩ := Session.course_pure.1 hlast
    obtain rfl := Except.ok.inj (Option.some.inj hr)
    have read := hs (.request (.getVersion d.id number) (.ok v)) (by simp)
    simp only [Part.applications, Event.agreesOn, decide_eq_true_eq] at read
    exact (read d hd rfl).symm

/-- **A snapshot shows the applications that are there, each with its latest version.** -/
theorem shows_applications {name : String} {live : LiveState}
    (h : (Observe.cluster limit name).Course es (some (.ok live)))
    (hs : (Part.applications paging live.cluster.id).Serves ds es) :
    live.ShowsApplications ds := by
  have agree := Part.serves_of_reads (only_reads_cluster name es _ h) hs
  obtain ⟨listed, ⟨as, has, ha⟩, bs, hbs, hl⟩ := (taken_of_course h).applications
  have perm := listApplications_perm ha fun e he => agree e (has e he)
  have found : List.Forall₂ (fun (a : Application) (l : LiveApplication) => l.application = a ∧
      ∀ d ∈ ds, d.id = a.id → l.latestVersion = d.latest) listed live.applications := by
    refine Session.forall₂_of_course_mapM (fun a fs l hc hp => ?_) hl fun e he =>
      agree e (hbs e he)
    obtain ⟨cs, es', latest, rfl, hv, hr⟩ := Session.course_bind_ok.1 hc
    obtain ⟨-, hr⟩ := Session.course_pure.1 hr
    obtain rfl := Except.ok.inj (Option.some.inj hr)
    refine ⟨rfl, fun d hd hid => ?_⟩
    rw [← hid] at hv
    exact latestVersion_eq hd hv fun e he => hp e (List.mem_append_left _ he)
  intro l
  constructor
  · intro hm
    obtain ⟨a, ha, hla, hlatest⟩ := exists_left_of_forall₂ found l hm
    obtain ⟨d, hd, rfl⟩ := List.mem_map.1 (perm.mem_iff.1 ha)
    refine ⟨d, hd, ?_⟩
    rw [Deployment.live, ← hlatest d hd rfl, ← hla]
  · rintro ⟨d, hd, rfl⟩
    obtain ⟨l, hm, hla, hlatest⟩ :=
      exists_right_of_forall₂ found d.application (perm.mem_iff.2 (List.mem_map_of_mem hd))
    have same : l = d.live := by
      rw [Deployment.live, ← hlatest d hd rfl, ← hla]
    exact same ▸ hm

end Observe

namespace LiveState.ShowsApplications

variable {live : LiveState} {ds : List Deployment} {n : String}

/-- An application that is found by its name is one of those that have it. -/
theorem named_of_eq_some (h : live.ShowsApplications ds) {l : LiveApplication}
    (hl : live.application? n = some l) : ∃ d ∈ Deployment.named n ds, d.live = l := by
  obtain ⟨hm, hn⟩ := find?_key_eq_some hl
  obtain ⟨d, hd, rfl⟩ := (h l).1 (List.mem_reverse.1 hm)
  exact ⟨d, List.mem_filter.2 ⟨hd, decide_eq_true hn⟩, rfl⟩

theorem named_eq_nil_iff (h : live.ShowsApplications ds) :
    live.application? n = none ↔ Deployment.named n ds = [] := by
  constructor
  · intro hnone
    refine List.filter_eq_nil_iff.2 fun d hd hn => ?_
    have shown : d.live ∈ live.applications := (h d.live).2 ⟨d, hd, rfl⟩
    exact List.find?_eq_none.1 hnone _ (List.mem_reverse.2 shown) hn
  · intro hnil
    cases hl : live.application? n with
    | none => rfl
    | some l =>
      obtain ⟨d, hd, -⟩ := h.named_of_eq_some hl
      rw [hnil] at hd
      nomatch hd

end LiveState.ShowsApplications

end Converge
