import Converge.Proofs.Cluster.Deployment
/-!
# Everything that a control plane keeps of a cluster

A `World` is the list of clusters, and of one of them its settings, its infrastructure and its
applications.  The parts do not depend on each other: what a request does to one of them is the
same whatever the others are, so that a world behaves like a store when each of its parts does.

Main statements: `Observe.cluster_of_directory` (a name stands for the same cluster whenever it is
looked up) and `World.serves_append`.
-/

namespace Converge

namespace Event

/-- What becomes of the settings of a cluster with a request and its reply. -/
def configure (cluster : Uuid) (detail : ClusterDetail) : Event → ClusterDetail
  | .request (.updateCluster c r) (.ok _) =>
    if c = cluster then
      { detail with servicePrincipalId := r.servicePrincipalId,
                    hasLetsEncryptEmail := r.letsEncryptEmail.isSome }
    else detail
  | _ => detail

theorem configure_of_reads {e : Event} (h : e.reads) (cluster : Uuid) (detail : ClusterDetail) :
    e.configure cluster detail = detail := by
  obtain ⟨c, reply⟩ | _ | _ := e
  · cases c <;> first | rfl | nomatch h
  · rfl
  · rfl

end Event

/-- The settings of a cluster. -/
def Part.settings (cluster : Uuid) : Part ClusterDetail where
  effect := Event.configure cluster
  admits detail
    | .request (.getCluster c) (.ok found) => c = cluster → found = detail
    | _ => true
  still h detail := Event.configure_of_reads h cluster detail

/-- The clusters that there are; nothing is done to them. -/
def Part.directory (paging : Paging) : Part (List ClusterSummary) where
  effect clusters _ := clusters
  admits clusters
    | .request (.listClusters cursor) (.ok page) => page = paging.page clusters cursor
    | _ => true
  still _ _ := rfl

/-- Everything that a control plane keeps of a cluster. -/
structure World where
  directory : List ClusterSummary
  detail : ClusterDetail
  sites : List Site
  deployments : List Deployment
  deriving DecidableEq, Repr

namespace World

/-- The world after some events. -/
def after (cluster : Uuid) (w : World) (es : List Event) : World where
  directory := w.directory
  detail := (Part.settings cluster).after w.detail es
  sites := effects cluster w.sites es
  deployments := deployed cluster w.deployments es

/-- Whether the control plane has behaved like a store throughout some events. -/
structure Serves (paging : Paging) (cluster : Uuid) (w : World) (es : List Event) : Prop where
  directory : (Part.directory paging).Serves w.directory es
  detail : (Part.settings cluster).Serves w.detail es
  sites : (Part.infrastructure paging cluster).Serves w.sites es
  deployments : (Part.applications paging cluster).Serves w.deployments es

instance (paging : Paging) (cluster : Uuid) (w : World) (es : List Event) :
    Decidable (w.Serves paging cluster es) :=
  decidable_of_iff ((Part.directory paging).Serves w.directory es ∧
    (Part.settings cluster).Serves w.detail es ∧
    (Part.infrastructure paging cluster).Serves w.sites es ∧
    (Part.applications paging cluster).Serves w.deployments es)
    ⟨fun ⟨a, b, c, d⟩ => ⟨a, b, c, d⟩, fun ⟨a, b, c, d⟩ => ⟨a, b, c, d⟩⟩

/-- In a world nothing is there twice. -/
structure Distinct (w : World) : Prop where
  sites : Converge.Distinct w.sites
  applicationNames : (w.deployments.map (·.name)).Nodup
  applicationIds : (w.deployments.map (·.id)).Nodup

variable {paging : Paging} {cluster : Uuid} {w : World} {es fs : List Event}

theorem serves_append : w.Serves paging cluster (es ++ fs) ↔
    w.Serves paging cluster es ∧ (w.after cluster es).Serves paging cluster fs := by
  have directory : (Part.directory paging).after w.directory es = w.directory := by
    induction es with
    | nil => rfl
    | cons e rest ih => exact ih
  constructor
  · rintro ⟨hdirectory, hdetail, hsites, hdeployments⟩
    rw [Part.serves_append, directory] at hdirectory
    rw [Part.serves_append] at hdetail hdeployments
    rw [Converge.serves_append] at hsites
    exact ⟨⟨hdirectory.1, hdetail.1, hsites.1, hdeployments.1⟩,
      ⟨hdirectory.2, hdetail.2, hsites.2, hdeployments.2⟩⟩
  · rintro ⟨⟨hdirectory, hdetail, hsites, hdeployments⟩, hdirectory', hdetail', hsites',
      hdeployments'⟩
    refine ⟨Part.serves_append.2 ⟨hdirectory, ?_⟩, Part.serves_append.2 ⟨hdetail, hdetail'⟩,
      Converge.serves_append.2 ⟨hsites, hsites'⟩,
      Part.serves_append.2 ⟨hdeployments, hdeployments'⟩⟩
    rw [directory]
    exact hdirectory'

theorem after_append : w.after cluster (es ++ fs) = (w.after cluster es).after cluster fs := by
  simp only [after, Part.after_append, effects_append, deployed_append]

/-- What only reads changes nothing. -/
theorem after_of_reads (h : ∀ e ∈ es, e.reads) : w.after cluster es = w := by
  rw [after, Part.after_of_reads h, effects_of_reads h, deployed_of_reads h]

end World

namespace Observe

/-- **A name stands for the same cluster whenever it is looked up.** -/
theorem cluster_of_directory (paging : Paging) (clusters : List ClusterSummary) (name : String) :
    ∃ found : Option ClusterIdentity, ∀ {limit : Nat} {es : List Event} {live : LiveState},
      (Observe.cluster limit name).Course es (some (.ok live)) →
      (Part.directory paging).Serves clusters es → found = some live.cluster := by
  obtain ⟨items, -, collected⟩ := paging.collected (β := ClusterSummary) clusters
  refine ⟨(items.find? (·.name = name)).map fun c => ⟨c.name, c.id⟩, fun {limit es live} h hs => ?_⟩
  have agree := Part.serves_of_reads (only_reads_cluster name es _ h) hs
  obtain ⟨as, has, hi⟩ := (taken_of_course h).identity
  obtain ⟨cs, ds, listed, rfl, hl, hi⟩ := Session.course_bind_ok.1 hi
  have same : listed.map id = items := by
    refine collected (fun cursor fs page hc hp => ?_) hl fun e he =>
      agree e (has e (List.mem_append_left _ he))
    obtain ⟨reply, rfl, hr⟩ := Session.course_call.1 hc
    obtain rfl := Option.some.inj hr
    simpa [Part.directory] using hp _ (List.mem_singleton.2 rfl)
  rw [List.map_id] at same
  subst same
  cases hf : listed.find? (·.name = name) with
  | none =>
    rw [hf] at hi
    cases (Session.course_throw.1 hi).2
  | some c =>
    rw [hf] at hi
    obtain ⟨-, hr⟩ := Session.course_pure.1 hi
    exact congrArg some (Except.ok.inj (Option.some.inj hr)).symm

/-- A snapshot shows the settings as they are. -/
theorem shows_detail {limit : Nat} {name : String} {es : List Event} {live : LiveState}
    {detail : ClusterDetail} (h : (Observe.cluster limit name).Course es (some (.ok live)))
    (hs : (Part.settings live.cluster.id).Serves detail es) : live.detail = detail := by
  have agree := Part.serves_of_reads (only_reads_cluster name es _ h) hs
  obtain ⟨as, has, hd⟩ := (taken_of_course h).detail
  obtain ⟨reply, rfl, hr⟩ := Session.course_call.1 hd
  obtain rfl := Option.some.inj hr
  have := agree _ (has _ (List.mem_singleton.2 rfl))
  simpa [Part.settings] using this

end Observe

end Converge
