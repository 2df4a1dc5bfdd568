import Converge.Proofs.Cluster.Paging
import Converge.Simulation.Basic
/-!
# A control plane that behaves like a store

The infrastructure of a cluster is a list of sites: a group with the load balancers that it owns.
`Event.effect` says what becomes of it with a request and its reply, and `Event.agrees` says that
the reply is one that a store gives: an identifier that is given out is new, what is read is there,
and a listing shows everything there is.  Any request may also fail, and has no effect then.  In
particular what was deleted can no longer be read.

`Serves` says that a control plane has behaved like a store throughout some events, and `effects`
says what the infrastructure is after them.  Most of what follows needs less: where deletions take
their time, a resource that is gone from the listings may still be read by its identifier
(`Event.stale`).  `Part.infrastructure` is the control plane that is allowed this; other parts of
what a control plane keeps are described in the same way.

Main statements: `Part.after_of_reads` (what only reads changes nothing), `Part.serves_of_reads`
(all that is read at one time agrees with one state) and `Part.serves_of_serves`.
-/

namespace Converge

/-- A group with its load balancers. -/
structure Site where
  group : Group
  balancers : List Balancer
  deriving DecidableEq, Repr

namespace Site

def name (s : Site) : String := s.group.name

def id (s : Site) : Uuid := s.group.id

/-- A site without some load balancers, each given by the identifiers of its owner and itself. -/
def without (gone : List (Uuid × Uuid)) (s : Site) : Site :=
  { s with balancers := s.balancers.filter fun b => (s.id, b.id) ∉ gone }

/-- A site with further load balancers, of those given with the identifiers of their owners. -/
def adding (new : List (Uuid × Balancer)) (s : Site) : Site :=
  { s with balancers := s.balancers ++ (new.filter (·.1 = s.id)).map (·.2) }

@[simp] theorem without_nil (s : Site) : s.without [] = s := by
  have all : s.balancers.filter (fun b => (s.id, b.id) ∉ ([] : List (Uuid × Uuid))) =
      s.balancers := List.filter_eq_self.2 fun b _ => by simp
  rw [without, all]

@[simp] theorem adding_nil (s : Site) : s.adding [] = s := by
  rw [adding, List.filter_nil, List.map_nil, List.append_nil]

theorem without_without (gone more : List (Uuid × Uuid)) (s : Site) :
    (s.without gone).without more = s.without (gone ++ more) := by
  simp only [without, id, List.filter_filter, List.mem_append, not_or, Bool.decide_and,
    Bool.and_comm]
  rfl

theorem adding_adding (new more : List (Uuid × Balancer)) (s : Site) :
    (s.adding new).adding more = s.adding (new ++ more) := by
  simp only [adding, id, List.filter_append, List.map_append, List.append_assoc]
  rfl

end Site

/-- In an infrastructure nothing is there twice: groups differ by their names and by their
identifiers, and so do the load balancers of one group. -/
structure Distinct (sites : List Site) : Prop where
  names : (sites.map (·.name)).Nodup
  ids : (sites.map (·.id)).Nodup
  balancerNames : ∀ s ∈ sites, (s.balancers.map (·.name)).Nodup
  balancerIds : ∀ s ∈ sites, (s.balancers.map (·.id)).Nodup

/-- The load balancers of the group with an identifier, as a listing shows them. -/
def summaries (sites : List Site) (group : Uuid) : List BalancerSummary :=
  (sites.filter (·.id = group)).flatMap fun s => s.balancers.map fun b => ⟨b.id, b.name⟩

namespace Event

/-- What becomes of the infrastructure of a cluster with a request and its reply.  A group is
deleted together with its load balancers. -/
def effect (cluster : Uuid) (sites : List Site) : Event → List Site
  | .request (.createGroup c r) (.ok id) =>
    if c = cluster then sites ++ [⟨Simulation.storedGroup id r, []⟩] else sites
  | .request (.deleteGroup c g) (.ok _) =>
    if c = cluster then sites.filter (·.id ≠ g) else sites
  | .request (.createBalancer c g r) (.ok id) =>
    if c = cluster then sites.map (·.adding [(g, Simulation.storedBalancer id r)]) else sites
  | .request (.deleteBalancer c g b) (.ok _) =>
    if c = cluster then sites.map (·.without [(g, b)]) else sites
  | _ => sites

/-- Whether the reply to a request is one that a store with this infrastructure gives. -/
def agrees (paging : Paging) (cluster : Uuid) (sites : List Site) : Event → Bool
  | .request (.createGroup c _) (.ok id) => c = cluster → id ∉ sites.map (·.id)
  | .request (.createBalancer c g _) (.ok id) => c = cluster →
    g ∈ sites.map (·.id) ∧ ∀ s ∈ sites, id ∉ s.balancers.map (·.id)
  | .request (.getGroup c g) (.ok found) => c = cluster →
    found ∈ sites.map (·.group) ∧ found.id = g
  | .request (.getBalancer c g b) (.ok found) => c = cluster →
    ∃ s ∈ sites, s.id = g ∧ found ∈ s.balancers ∧ found.id = b
  | .request (.listGroups c cursor) (.ok page) => c = cluster →
    page = paging.page (sites.map (·.group)) cursor
  | .request (.listBalancers c g cursor) (.ok page) => c = cluster →
    page = paging.page (summaries sites g) cursor
  | _ => true

/-- A request that only reads changes nothing. -/
theorem effect_of_reads {e : Event} (h : e.reads) (cluster : Uuid) (sites : List Site) :
    e.effect cluster sites = sites := by
  obtain ⟨c, reply⟩ | _ | _ := e
  · cases c <;> first | rfl | nomatch h
  · rfl
  · rfl

end Event

/-- The infrastructure after some events. -/
def effects (cluster : Uuid) (sites : List Site) (es : List Event) : List Site :=
  es.foldl (Event.effect cluster) sites

/-- Whether the control plane has behaved like a store throughout some events. -/
def Serves (paging : Paging) (cluster : Uuid) : List Site → List Event → Bool
  | _, [] => true
  | sites, e :: rest =>
    e.agrees paging cluster sites && Serves paging cluster (e.effect cluster sites) rest

/-! ## 1. A part of what a control plane keeps -/

/-- A part of what a control plane keeps: what becomes of it with a request and its reply, and
whether the reply is one that a store gives. -/
structure Part (σ : Type) where
  effect : σ → Event → σ
  admits : σ → Event → Bool
  still : ∀ {e : Event}, e.reads → ∀ s, effect s e = s

namespace Part

variable {σ : Type} (P : Part σ)

/-- What is kept after some events. -/
def after (s : σ) (es : List Event) : σ := es.foldl P.effect s

/-- Whether the control plane has behaved like a store throughout some events. -/
def Serves : σ → List Event → Bool
  | _, [] => true
  | s, e :: rest => P.admits s e && Serves (P.effect s e) rest

variable {P} {s : σ} {es fs : List Event}

@[simp] theorem after_nil : P.after s [] = s := rfl

@[simp] theorem after_cons (e : Event) : P.after s (e :: es) = P.after (P.effect s e) es := rfl

@[simp] theorem after_append : P.after s (es ++ fs) = P.after (P.after s es) fs :=
  List.foldl_append

theorem serves_append :
    P.Serves s (es ++ fs) ↔ P.Serves s es ∧ P.Serves (P.after s es) fs := by
  induction es generalizing s with
  | nil => simp [Serves]
  | cons e rest ih => simp [Serves, ih, and_assoc]

/-- **What only reads changes nothing.** -/
theorem after_of_reads (h : ∀ e ∈ es, e.reads) : P.after s es = s := by
  induction es with
  | nil => rfl
  | cons e rest ih =>
    obtain ⟨he, hrest⟩ := List.forall_mem_cons.1 h
    rw [after_cons, P.still he, ih hrest]

/-- **All that is read at one time agrees with one state.** -/
theorem serves_of_reads (h : ∀ e ∈ es, e.reads) (hs : P.Serves s es) :
    ∀ e ∈ es, P.admits s e := by
  induction es with
  | nil => exact fun _ => List.not_mem_nil.elim
  | cons e rest ih =>
    obtain ⟨he, hrest⟩ := List.forall_mem_cons.1 h
    rw [Serves, P.still he, Bool.and_eq_true] at hs
    exact List.forall_mem_cons.2 ⟨hs.1, ih hrest hs.2⟩

/-- What each event preserves is there after all of them. -/
theorem after_induction {motive : σ → Prop} (init : motive s) (hs : P.Serves s es)
    (step : ∀ s, motive s → ∀ e ∈ es, P.admits s e → motive (P.effect s e)) :
    motive (P.after s es) := by
  induction es generalizing s with
  | nil => exact init
  | cons e rest ih =>
    rw [Serves, Bool.and_eq_true] at hs
    exact ih (step s init e List.mem_cons_self hs.1) hs.2 fun s hm e he =>
      step s hm e (List.mem_cons_of_mem _ he)

end Part

/-! ## 2. The infrastructure -/

/-- Whether a resource is read by its identifier that is not there. -/
def Event.stale (sites : List Site) : Event → Bool
  | .request (.getGroup _ g) _ => g ∉ sites.map (·.id)
  | .request (.getBalancer _ g b) _ => ∀ s ∈ sites, s.id = g → b ∉ s.balancers.map (·.id)
  | _ => false

/-- The infrastructure of a cluster, on a control plane where what was deleted may still be read
for a while. -/
def Part.infrastructure (paging : Paging) (cluster : Uuid) : Part (List Site) where
  effect := Event.effect cluster
  admits sites e := e.stale sites || e.agrees paging cluster sites
  still h sites := Event.effect_of_reads h cluster sites

variable {paging : Paging} {cluster : Uuid} {sites : List Site} {es fs : List Event}

@[simp] theorem effects_nil : effects cluster sites [] = sites := rfl

@[simp] theorem effects_cons (e : Event) :
    effects cluster sites (e :: es) = effects cluster (e.effect cluster sites) es := rfl

@[simp] theorem effects_append :
    effects cluster sites (es ++ fs) = effects cluster (effects cluster sites es) fs :=
  List.foldl_append

theorem effects_of_reads (h : ∀ e ∈ es, e.reads) : effects cluster sites es = sites :=
  Part.after_of_reads (P := Part.infrastructure .single cluster) h

/-- A control plane on which nothing lingers is one on which it may. -/
theorem Part.serves_of_serves (h : Converge.Serves paging cluster sites es) :
    (Part.infrastructure paging cluster).Serves sites es := by
  induction es generalizing sites with
  | nil => rfl
  | cons e rest ih =>
    rw [Converge.Serves, Bool.and_eq_true] at h
    rw [Part.Serves, Bool.and_eq_true]
    exact ⟨Bool.or_eq_true_iff.2 (.inr h.1), ih h.2⟩

theorem serves_append : (Part.infrastructure paging cluster).Serves sites (es ++ fs) ↔
    (Part.infrastructure paging cluster).Serves sites es ∧
      (Part.infrastructure paging cluster).Serves (effects cluster sites es) fs :=
  Part.serves_append

theorem map_group_adding (new : List (Uuid × Balancer)) (sites : List Site) :
    (sites.map (·.adding new)).map (·.group) = sites.map (·.group) := by
  rw [List.map_map]
  rfl

/-- A store gives no two groups the same identifier. -/
theorem Event.ids_nodup {e : Event} (h : (sites.map (·.id)).Nodup)
    (ha : (Part.infrastructure paging cluster).admits sites e) :
    ((e.effect cluster sites).map (·.id)).Nodup := by
  unfold Event.effect
  split
  next c r id =>
    split
    next hc =>
      have fresh : id ∉ sites.map (·.id) := by
        simpa [Part.infrastructure, Event.stale, Event.agrees, hc] using ha
      rw [List.map_append, List.map_singleton, List.nodup_append]
      refine ⟨h, List.pairwise_singleton _ _, fun a hm b hb => ?_⟩
      obtain rfl := List.mem_singleton.1 hb
      rintro rfl
      exact fresh hm
    next => exact h
  next =>
    split
    next => exact h.sublist (List.filter_sublist.map _)
    next => exact h
  next c g r id =>
    split
    next => rwa [List.map_map]
    next => exact h
  next c g b id =>
    split
    next => rwa [List.map_map]
    next => exact h
  next => exact h

/-- Whether an infrastructure has only groups and load balancers of another one. -/
def Shrunk (sites fewer : List Site) : Prop :=
  ∀ t ∈ fewer, ∃ s ∈ sites, s.group = t.group ∧ t.balancers ⊆ s.balancers

/-- Whether a request asks for a group or a load balancer. -/
def Event.createsSite : Event → Bool
  | .request (.createGroup _ _) _ | .request (.createBalancer _ _ _) _ => true
  | _ => false

theorem Event.shrinks {e : Event} (h : e.createsSite = false) (cluster : Uuid)
    (sites : List Site) : Shrunk sites (e.effect cluster sites) := by
  have same : Shrunk sites sites := fun t ht => ⟨t, ht, rfl, List.Subset.refl _⟩
  unfold Event.effect
  split
  next => nomatch h
  next =>
    split
    next => exact fun t ht => same t (List.mem_filter.1 ht).1
    next => exact same
  next => nomatch h
  next =>
    split
    next =>
      intro t ht
      obtain ⟨s, hs, rfl⟩ := List.mem_map.1 ht
      exact ⟨s, hs, rfl, List.filter_sublist.subset⟩
    next => exact same
  next => exact same

/-- Where nothing is created the infrastructure shrinks. -/
theorem shrunk_effects (h : ∀ e ∈ es, e.createsSite = false) :
    Shrunk sites (effects cluster sites es) := by
  induction es generalizing sites with
  | nil => exact fun t ht => ⟨t, ht, rfl, List.Subset.refl _⟩
  | cons e rest ih =>
    obtain ⟨he, hrest⟩ := List.forall_mem_cons.1 h
    intro t ht
    obtain ⟨s, hs, hst, hsub⟩ := ih hrest t ht
    obtain ⟨r, hr, hrs, hsub'⟩ := e.shrinks he cluster sites s hs
    exact ⟨r, hr, hrs.trans hst, List.Subset.trans hsub hsub'⟩

theorem ids_nodup_effects (h : (sites.map (·.id)).Nodup)
    (hs : (Part.infrastructure paging cluster).Serves sites es) :
    ((effects cluster sites es).map (·.id)).Nodup :=
  Part.after_induction (P := Part.infrastructure paging cluster) h hs
    fun _ h _ _ ha => Event.ids_nodup h ha

end Converge
