import Converge.Proofs.Apply.Images
import Converge.Proofs.Apply.Owners
import Converge.Proofs.Apply.Relisted
import Converge.Proofs.Cluster.Untouched
import Mathlib.Data.List.Sort
/-!
# The latest version

Listing versions, comparing them, activating one and writing a new one in an apply each look for the
latest version in their own way: the first of a sorted list, the greatest of some numbers, the
version that is observed.  They all find the same, the version with the greatest number, and nothing
that they come to depends on the order in which the control plane lists the versions or on where its
pages end.

Main statement: `latest_version_agreed`.
-/

namespace Converge

/-- Whether a number is that of the latest of some versions; there is none without versions. -/
def VersionSummary.IsLatest (summaries : List VersionSummary) : Option Int32 → Prop
  | none => summaries = []
  | some number => number ∈ summaries.map (·.version) ∧ ∀ s ∈ summaries, s.version ≤ number

/-- Whether a list shows the versions of an application, newest first. -/
structure VersionList.Lists (l : VersionList) (a : Application) (summaries : List VersionSummary)
    (latest : Option Int32) : Prop where
  name : l.applicationName = a.name
  id : l.applicationId = a.id
  entries : l.versions.Perm (summaries.map (Versions.info a))
  descending : l.versions.Pairwise fun v w => w.version < v.version
  latest : l.latestVersion = latest
  active : l.activeVersion = a.activeVersion
  isActive : ∀ v ∈ l.versions, v.isActive ↔ a.activeVersion = some v.version

variable {summaries : List VersionSummary} {limit : Nat} {latest : Option Int32}

theorem VersionSummary.greatest_of_isLatest (h : IsLatest summaries latest) :
    greatest (summaries.map (·.version)) = latest := by
  cases latest with
  | none =>
    obtain rfl := h
    rfl
  | some number =>
    obtain ⟨mem, most⟩ := h
    refine greatest_eq_some_iff.2 ⟨mem, fun k hk => ?_⟩
    obtain ⟨s, hs, rfl⟩ := List.mem_map.1 hk
    exact most s hs

namespace Versions

variable {a : Application} {l m : List VersionSummary}

/-! ## 1. Orders -/

/-- Sorted by their numbers, the versions of an application descend when no two have one number. -/
theorem descending_listing (distinct : (l.map (·.version)).Nodup) :
    (listing a l).versions.Pairwise fun v w => w.version < v.version := by
  have sorted : (listing a l).versions.Pairwise fun v w => w.version ≤ v.version := by
    refine (List.pairwise_mergeSort (fun u v w h h' => ?_) (fun v w => ?_) _).imp
      of_decide_eq_true
    · exact decide_eq_true (Int32.le_trans (of_decide_eq_true h') (of_decide_eq_true h))
    · simpa using Int32.le_total w.version v.version
  have apart : (listing a l).versions.Pairwise fun v w => v.version ≠ w.version := by
    refine List.pairwise_map.1 (?_ : ((listing a l).versions.map (·.version)).Nodup)
    refine ((List.mergeSort_perm _ _).map _).nodup_iff.2 ?_
    rwa [List.map_map]
  refine (sorted.and apart).imp fun ⟨le, ne⟩ => ?_
  exact Int32.lt_of_le_of_ne le (Ne.symm ne)

/-- The first of the sorted versions is the latest. -/
theorem latest_listing (distinct : (l.map (·.version)).Nodup) :
    (listing a l).latestVersion = greatest (l.map (·.version)) := by
  have perm : (listing a l).versions.Perm (l.map (info a)) := List.mergeSort_perm _ _
  have numbers : ((listing a l).versions.map (·.version)).Perm (l.map (·.version)) := by
    have := perm.map (·.version)
    rwa [List.map_map] at this
  change (listing a l).versions.head?.map (·.version) = _
  rw [← greatest_perm numbers]
  have descending := descending_listing (a := a) distinct
  cases hv : (listing a l).versions with
  | nil => rfl
  | cons v rest =>
    rw [hv] at descending
    refine (greatest_eq_some_iff.2 ⟨List.mem_cons_self, ?_⟩).symm
    refine List.forall_mem_cons.2 ⟨Int32.le_refl _, fun k hk => ?_⟩
    obtain ⟨w, hw, rfl⟩ := List.mem_map.1 hk
    exact Int32.le_of_lt (List.rel_of_pairwise_cons descending hw)

/-- The list does not depend on the order. -/
theorem listing_perm (perm : l.Perm m) (distinct : (l.map (·.version)).Nodup) :
    listing a l = listing a m := by
  have distinct' := (perm.map (·.version)).nodup_iff.1 distinct
  have versions : (listing a l).versions = (listing a m).versions := by
    refine List.Perm.eq_of_pairwise (fun v w _ _ h h' => ?_) (descending_listing distinct)
      (descending_listing distinct') ?_
    · exact absurd (Int32.lt_trans h h') Int32.lt_irrefl
    · exact (List.mergeSort_perm _ _).trans
        ((perm.map (info a)).trans (List.mergeSort_perm _ _).symm)
  have same (l : List VersionSummary) : listing a l = ⟨a.name, a.id, (listing a l).versions,
    a.activeVersion, (listing a l).versions.head?.map (·.version)⟩ := rfl
  rw [same l, same m, versions]

/-- **The list shows what there is**, newest first. -/
theorem lists_listing (perm : l.Perm summaries) (distinct : (summaries.map (·.version)).Nodup)
    (top : VersionSummary.IsLatest summaries latest) : (listing a l).Lists a summaries latest := by
  rw [listing_perm perm ((perm.map (·.version)).nodup_iff.2 distinct)]
  have entries : (listing a summaries).versions.Perm (summaries.map (info a)) :=
    List.mergeSort_perm _ _
  refine ⟨rfl, rfl, entries, descending_listing distinct, ?_, rfl, fun v hv => ?_⟩
  · rw [latest_listing distinct, VersionSummary.greatest_of_isLatest top]
  · obtain ⟨s, -, rfl⟩ := List.mem_map.1 (entries.mem_iff.1 hv)
    exact decide_eq_true_iff

theorem fetch_perm (perm : l.Perm m) :
    fetch a (l.map (·.version)) = fetch a (m.map (·.version)) := by
  funext number
  simp only [fetch, (perm.map (·.version)).mem_iff]

theorem chosen_perm (perm : l.Perm m) (version : Option Int32) :
    chosen a (l.map (·.version)) version = chosen a (m.map (·.version)) version := by
  cases version with
  | some number => simp only [chosen, (perm.map (·.version)).mem_iff]
  | none => simp only [chosen, greatest_perm (perm.map (·.version))]

/-! ## 2. Operations -/

theorem elsewhere_resolve (id : Uuid) (cluster application : String) :
    (resolve limit cluster application).Asks (Question.Elsewhere id) := by
  have pages {α : Type} {fetch : Option String → Session (Page α)}
      (hf : ∀ cursor, (fetch cursor).Asks (Question.Elsewhere id)) :
      (collectPages limit fetch).Asks (Question.Elsewhere id) :=
    asks_collectFrom (fun _ _ => trivial) hf _ _ _
  refine Session.asks_bind (Session.asks_bind (pages fun _ => Session.asks_call trivial)
    fun clusters => ?_) fun c => Session.asks_bind (pages fun _ => Session.asks_call trivial)
    fun applications => ?_
  · split
    · exact Session.asks_pure _
    · exact Session.asks_throw _
  · split
    · exact Session.asks_pure _
    · exact Session.asks_throw _

theorem elsewhere_fetch (id : Uuid) (a : Application) (numbers : List Int32) (version : Int32) :
    (fetch a numbers version).Asks (Question.Elsewhere id) := by
  unfold fetch
  split
  · exact Session.asks_call trivial
  · exact Session.asks_throw _

variable {σ : Type} (v w : VersionPages summaries limit) (id : Uuid)
  (answer : (q : Question) → σ → q.Reply × σ)

theorem sameUnder_list (distinct : (summaries.map (·.version)).Nodup)
    (cluster application : String) :
    (list limit cluster application).SameUnder (v.serve id answer) (w.serve id answer) := by
  have moved := v.perm.trans w.perm.symm
  have distinct := (v.perm.map (·.version)).nodup_iff.2 distinct
  refine Session.sameUnder_bind
    (v.sameUnder_of_asks w id answer (elsewhere_resolve id cluster application)) fun a => ?_
  refine v.sameUnder_listVersions_bind w id answer (fun _ => ?_) fun l => Session.asks_pure _
  rw [listing_perm moved distinct]

theorem sameUnder_diff (cluster application : String) (older newer : Option Int32) :
    (diff limit cluster application older newer).SameUnder (v.serve id answer)
      (w.serve id answer) := by
  refine Session.sameUnder_bind
    (v.sameUnder_of_asks w id answer (elsewhere_resolve id cluster application)) fun a => ?_
  refine v.sameUnder_listVersions_bind w id answer (fun _ => ?_) fun l => ?_
  · dsimp only
    rw [v.greatest_items, w.greatest_items, fetch_perm (v.perm.trans w.perm.symm)]
  · refine Session.asks_bind (asks_found _ _) fun older => ?_
    refine Session.asks_bind (asks_found _ _) fun newer => ?_
    refine Session.asks_bind (elsewhere_fetch id a _ older) fun before => ?_
    exact Session.asks_bind (elsewhere_fetch id a _ newer) fun after => trivial

theorem sameUnder_activate (cluster application : String) (version : Option Int32) :
    (activate limit cluster application version).SameUnder (v.serve id answer)
      (w.serve id answer) := by
  rw [activate_eq]
  refine Session.sameUnder_bind
    (v.sameUnder_of_asks w id answer (elsewhere_resolve id cluster application)) fun a => ?_
  refine v.sameUnder_listVersions_bind w id answer (fun _ => ?_) fun l => ?_
  · rw [chosen_perm (v.perm.trans w.perm.symm)]
  · split
    · exact Session.asks_throw _
    · refine Session.asks_bind (Session.asks_bind (Session.asks_log trivial) fun _ => ?_) fun _ =>
        Session.asks_pure _
      exact Session.asks_call trivial

/-! ## 3. What they come to -/

/-- What a comparison comes to where there is nothing to compare with. -/
def unversioned (a : Application) (name : String) (older : Option Int32) :
    Option (Except Failure VersionDiff) :=
  some (.error (.resolve ((older.or a.activeVersion).elim (.noActiveVersion name) fun _ =>
    .noVersions name)))

/-- Activates a version of an application. -/
def activating (a : Application) (number : Int32) : Session Int32 := do
  ApplyContext.activateVersion a.id a.name number
  pure number

section

variable {id answer} {cluster name : String} {a : Application} {t t' : σ}
  (resolved : (resolve limit cluster name).ran (v.serve id answer) t = (some (.ok a), t'))
  (ha : a.id = id)

include resolved ha

/-- What follows the two things that are looked up first. -/
theorem ran_versions {α : Type} (f : Application → List VersionSummary → Session α) :
    Session.ran (v.serve id answer) (do
      let a ← resolve limit cluster name
      let l ← Observe.listVersions limit a.id
      f a l) t = (f a v.items).ran (v.serve id answer) t' := by
  subst ha
  refine (Session.ran_bind_ok resolved).trans ?_
  exact Session.ran_bind_ok (v.ran_listVersions a.id answer t')

theorem ran_diff (older : Option Int32) :
    (diff limit cluster name older none).ran (v.serve id answer) t =
      (greatest (summaries.map (·.version))).elim (unversioned a name older, t') fun number =>
        (diff limit cluster name older (some number)).ran (v.serve id answer) t := by
  have same := v.greatest_items
  refine (ran_versions v resolved ha _).trans ?_
  generalize greatest (summaries.map (·.version)) = latest at same
  cases latest with
  | some number =>
    refine Eq.trans ?_ (ran_versions v resolved ha _).symm
    dsimp only
    rw [same]
    rfl
  | none =>
    dsimp only
    rw [same, Option.elim_none, unversioned]
    cases older.or a.activeVersion <;> rfl

theorem ran_activate :
    (activate limit cluster name none).ran (v.serve id answer) t =
      (greatest (summaries.map (·.version))).elim
        (some (.error (.resolve (.noVersions a.name))), t')
        fun number => (activating a number).ran (v.serve id answer) t' := by
  rw [activate_eq]
  refine (ran_versions v resolved ha _).trans ?_
  rw [chosen, v.greatest_items]
  cases greatest (summaries.map (·.version)) <;> rfl

end

theorem ran_latestVersion (t : σ) :
    (Observe.latestVersion limit id).ran (v.serve id answer) t =
      (greatest (summaries.map (·.version))).elim (some (.ok none), t) fun number =>
        (some <$> Session.call (.getVersion id number)).ran (v.serve id answer) t := by
  refine (Session.ran_bind_ok (v.ran_listVersions id answer t)).trans ?_
  rw [v.greatest_items]
  cases greatest (summaries.map (·.version)) <;> rfl

end Versions

/-! ## 4. What a new version is laid over -/

/-- Whether a list of versions that is asked for comes on given pages. -/
def Event.ListedOn (id : Uuid) (page : Option String → Page VersionSummary) : Event → Prop
  | .request (.listVersions a cursor) reply => a = id → reply = .ok (page cursor)
  | _ => True

variable {σ : Type} (v : VersionPages summaries limit) {application : Uuid} {es : List Event}

theorem VersionPages.listedOn_events {α : Type} (answer : (q : Question) → σ → q.Reply × σ)
    (s : Session α) (t : σ) :
    ∀ e ∈ s.events (v.serve application answer) t, e.ListedOn application v.page := by
  intro e he
  obtain ⟨⟨q, reply⟩, hx, hxe⟩ := List.mem_filterMap.1 he
  obtain ⟨t', ht⟩ := Program.exists_answer_of_mem_transcript hx
  cases q with
  | call c =>
    obtain rfl := Option.some.inj hxe
    cases c with
    | listVersions a cursor =>
      rintro rfl
      exact ht.trans (congrArg Prod.fst (v.serve_listVersions a answer cursor t'))
    | _ => trivial
  | loadLedger | saveLedger _ =>
    obtain rfl := Option.some.inj hxe
    trivial
  | _ => nomatch hxe

/-- Whether a version was read by a number; without a number there is none. -/
def ReadAs (application : Uuid) (es : List Event) :
    Option Int32 → Option ApplicationVersion → Prop :=
  Option.Rel fun number version => .request (.getVersion application number) (.ok version) ∈ es

theorem ReadAs.mono {fs : List Event} (sub : es ⊆ fs) {number : Option Int32}
    {version : Option ApplicationVersion} (h : ReadAs application es number version) :
    ReadAs application fs number version := by
  cases h with
  | some h => exact .some (sub h)
  | none => exact .none

/-- The version that is found as the latest was read by the greatest number. -/
theorem VersionPages.readAs_of_course {found : Option ApplicationVersion}
    (h : (Observe.latestVersion limit application).Course es (some (.ok found)))
    (hs : ∀ e ∈ es, e.ListedOn application v.page) :
    ReadAs application es (greatest (summaries.map (·.version))) found := by
  obtain ⟨as, bs, listed, rfl, hl, h⟩ := Session.course_bind_ok.1 h
  have collected : listed.map id = v.items := by
    refine v.pages.collected (fun cursor fs page hc hp => ?_) (fun _ => List.not_mem_nil.elim) hl
      fun e he => hs e (List.mem_append_left _ he)
    obtain ⟨reply, rfl, hr⟩ := Session.course_call.1 hc
    obtain rfl := Option.some.inj hr
    rw [Page.map_id]
    exact Except.ok.inj (hp _ (List.mem_singleton.2 rfl) rfl)
  rw [List.map_id] at collected
  rw [collected, v.greatest_items] at h
  cases hg : greatest (summaries.map (·.version)) with
  | none =>
    rw [hg] at h
    obtain ⟨-, hr⟩ := Session.course_pure.1 h
    obtain rfl := Except.ok.inj (Option.some.inj hr)
    exact .none
  | some number =>
    rw [hg] at h
    obtain ⟨cs, ds, version, rfl, hv, hlast⟩ := Session.course_bind_ok.1 h
    obtain ⟨reply, rfl, hreply⟩ := Session.course_call.1 hv
    obtain rfl := Option.some.inj hreply
    obtain ⟨-, hr⟩ := Session.course_pure.1 hlast
    obtain rfl := Except.ok.inj (Option.some.inj hr)
    exact .some (by simp)

/-- Whether an application is created by an action, or updated over the latest version; what is
known of that version was read. -/
inductive ApplicationAction.Continued (a : ApplicationAction) (application : Uuid)
    (es : List Event) (latest : Option Int32) : Option ApplicationVersion → Prop where
  | created (h : a.action = .create) : Continued a application es latest none
  | updated {base} (h : a.action ≠ .create) (hi : a.applicationId = some application)
      (hr : ReadAs application es latest base) : Continued a application es latest base

/-- **A version that an apply writes is laid over the latest one**, unless the application was
created in this apply. -/
theorem ApplyContext.ActsAll.laid_over {c : ApplyContext} {steps : List ApplyStep} {p : Progress}
    {out : Option (Except Failure Unit × Progress)} {r : CreateVersionRequest}
    {reply : Except Failure Int32} (v : VersionPages summaries c.limit)
    (h : c.ActsAll steps p es out) (hs : ∀ e ∈ es, e.ListedOn application v.page)
    (he : .request (.createVersion application r) reply ∈ es) :
    ∃ a, .application a ∈ steps ∧ ∃ w base, c.desired.application? a.name = some w ∧
      r = w.spec.request base ∧
      a.Continued application es (greatest (summaries.map (·.version))) base := by
  obtain ⟨before, after, split⟩ := List.append_of_mem he
  obtain ⟨done, s, rest, as, bs, cs, ds, q, o, rfl, rfl, rfl, -, step⟩ := h.located split
  obtain ⟨a, w, fs, gs, base, q', rfl, parts, hw, rfl, ht⟩ :=
    step.versioned (List.mem_append_right bs List.mem_cons_self)
  -- what was read to find the target is part of what the steps went through
  have within : fs ⊆ es := by
    intro e hf
    have here := parts ▸ List.mem_append_left gs hf
    rw [split]
    simp only [List.mem_append, List.mem_cons] at here ⊢
    tauto
  refine ⟨a, List.mem_append_right _ List.mem_cons_self, w, base, hw, rfl, ?_⟩
  generalize ho : some (Except.ok (application, base), q') = found at ht
  cases ht with
  | created hc =>
    cases ho
    exact .created hc
  | refused _ => cases ho
  | unidentified _ _ => cases ho
  | @based _ _ o hc hi hb =>
    obtain _ | _ | _ := o <;> cases ho
    have read := v.readAs_of_course hb fun e hf => hs e (within hf)
    exact .updated hc hi (read.mono within)

/-- And so it is with an apply, which does nothing after its steps but save. -/
theorem laid_over_of_execute {options : ApplyOptions} {desired : ClusterConfig} {plan : Plan}
    {ledger : SecretLedger} {out : Option (Except Failure ExecutionResult)}
    {r : CreateVersionRequest} {reply : Except Failure Int32}
    (v : VersionPages summaries options.limit)
    (h : (execute options desired plan ledger).Course es out)
    (hs : ∀ e ∈ es, e.ListedOn application v.page)
    (he : .request (.createVersion application r) reply ∈ es) :
    ∃ a ∈ plan.applicationActions, ∃ w base, desired.application? a.name = some w ∧
      r = w.spec.request base ∧
      a.Continued application es (greatest (summaries.map (·.version))) base := by
  rcases execute_cases h with ⟨taken, -⟩ | ⟨as, bs, res, p, saved, rfl, taken, saves, -⟩
  · obtain ⟨a, ha, w, base, hw, hr, continued⟩ := taken.laid_over v hs he
    exact ⟨a, (Plan.mem_script_iff.1 ha).1, w, base, hw, hr, continued⟩
  · have here : .request (.createVersion application r) reply ∈ as := by
      refine (List.mem_append.1 he).resolve_right fun hb => ?_
      have written : .request (.createVersion application r) reply ∈ mutating bs :=
        List.mem_filter.2 ⟨hb, rfl⟩
      rw [saves.mutating_eq_nil] at written
      nomatch written
    obtain ⟨a, ha, w, base, hw, hr, continued⟩ :=
      taken.laid_over v (fun e he => hs e (List.mem_append_left _ he)) here
    refine ⟨a, (Plan.mem_script_iff.1 ha).1, w, base, hw, hr, ?_⟩
    cases continued with
    | created hc => exact .created hc
    | updated hc hi read => exact .updated hc hi (read.mono (List.subset_append_left as bs))

/-! ## 5. All operations -/

/-- What the operations make of the versions of an application, where `latest` is the number of the
latest one. -/
structure Versions.Agree (limit : Nat) (answer : (q : Question) → σ → q.Reply × σ)
    (application : Uuid) (summaries : List VersionSummary) (latest : Option Int32) : Prop where
  listed : ∀ {cluster name t a t'},
    (resolve limit cluster name).ran answer t = (some (.ok a), t') → a.id = application →
    ∃ l, (list limit cluster name).ran answer t = (some (.ok l), t') ∧ l.Lists a summaries latest
  /-- Without a newer version to compare with, it is as if the latest one were given. -/
  compared : ∀ {cluster name older t a t'},
    (resolve limit cluster name).ran answer t = (some (.ok a), t') → a.id = application →
    (diff limit cluster name older none).ran answer t =
      latest.elim (unversioned a name older, t') fun number =>
        (diff limit cluster name older (some number)).ran answer t
  /-- Without a version to activate, the latest one is. -/
  activated : ∀ {cluster name t a t'},
    (resolve limit cluster name).ran answer t = (some (.ok a), t') → a.id = application →
    (activate limit cluster name none).ran answer t =
      latest.elim (some (.error (.resolve (.noVersions a.name))), t') fun number =>
        (activating a number).ran answer t'
  observed : ∀ t, (Observe.latestVersion limit application).ran answer t =
    latest.elim (some (.ok none), t) fun number =>
      (some <$> Session.call (.getVersion application number)).ran answer t
  /-- A version that an apply writes is laid over the latest one. -/
  applied : ∀ {options desired plan ledger t r reply}, options.limit = limit →
    let es := (execute options desired plan ledger).events answer t
    .request (.createVersion application r) reply ∈ es →
    ∃ a ∈ plan.applicationActions, ∃ w base, desired.application? a.name = some w ∧
      r = w.spec.request base ∧ a.Continued application es latest base

/-- Whether the operations come to the same with two control planes, failures included, and leave
them in the same state. -/
structure Versions.SameUnder (limit : Nat) (answer answer' : (q : Question) → σ → q.Reply × σ) :
    Prop where
  list : ∀ cluster name t,
    (list limit cluster name).ran answer t = (Versions.list limit cluster name).ran answer' t
  diff : ∀ cluster name older newer t, (diff limit cluster name older newer).ran answer t =
    (Versions.diff limit cluster name older newer).ran answer' t
  activate : ∀ cluster name version t, (activate limit cluster name version).ran answer t =
    (Versions.activate limit cluster name version).ran answer' t
  execute : ∀ options desired plan ledger t, options.limit = limit →
    (execute options desired plan ledger).ran answer t =
      (Converge.execute options desired plan ledger).ran answer' t

/-- **All operations agree on which version is the latest.**  The versions of an application have
numbers of their own, and the control plane lists them in an order of its own and on pages of its
own.  Then listing them, comparing them, activating one and applying a plan all take the greatest
number for the latest; and what they come to, and do to the control plane, is the same for any
other order and any other pages. -/
theorem latest_version_agreed (distinct : (summaries.map (·.version)).Nodup)
    (top : VersionSummary.IsLatest summaries latest) (v : VersionPages summaries limit)
    (application : Uuid) (answer : (q : Question) → σ → q.Reply × σ) :
    Versions.Agree limit (v.serve application answer) application summaries latest ∧
      ∀ w : VersionPages summaries limit,
        Versions.SameUnder limit (v.serve application answer) (w.serve application answer) := by
  have greatest_eq := VersionSummary.greatest_of_isLatest top
  refine ⟨⟨fun {cluster name t a t'} resolved ha => ?_, fun resolved ha => ?_,
    fun resolved ha => ?_, fun t => ?_, ?_⟩, fun w => ⟨fun cluster name => ?_,
    fun cluster name older newer => ?_, fun cluster name version => ?_, ?_⟩⟩
  · refine ⟨_, Versions.ran_versions v resolved ha fun a l => pure (Versions.listing a l), ?_⟩
    exact Versions.lists_listing v.perm distinct top
  · rw [Versions.ran_diff v resolved ha, greatest_eq]
  · rw [Versions.ran_activate v resolved ha, greatest_eq]
  · rw [Versions.ran_latestVersion v, greatest_eq]
  · rintro options desired plan ledger t r reply rfl es he
    rw [← greatest_eq]
    exact laid_over_of_execute v (Session.course_of_run _ _ t) (v.listedOn_events answer _ t) he
  · exact Versions.sameUnder_list v w application answer distinct cluster name
  · exact Versions.sameUnder_diff v w application answer cluster name older newer
  · exact Versions.sameUnder_activate v w application answer cluster name version
  · rintro options desired plan ledger t rfl
    exact sameUnder_execute options desired plan ledger v w application answer t

namespace Unordered

def three : List VersionSummary :=
  [⟨1, "nginx:1", 100, 0⟩, ⟨3, "nginx:3", 300, 1⟩, ⟨2, "nginx:2", 200, 0⟩]

def page : Option String → Page VersionSummary
  | none => ⟨[⟨1, "nginx:1", 100, 0⟩], some "rest"⟩
  | some _ => ⟨[⟨3, "nginx:3", 300, 1⟩, ⟨2, "nginx:2", 200, 0⟩], none⟩

/-- The first one on a page of its own. -/
def paged : VersionPages three 3 where
  page := page
  items := (page none).items ++ (page (some "rest")).items
  later := 0 + 1
  pages := .next rfl (.last rfl)
  fits := by decide
  perm := .refl _

/-- The other way round and on one page. -/
def reversed : VersionPages three 3 where
  page _ := ⟨three.reverse, none⟩
  items := three.reverse
  later := 0
  pages := .last rfl
  fits := by decide
  perm := List.reverse_perm _

def replies : (c : Call) → Except Failure c.Reply
  | .listClusters _ => .ok ⟨[⟨.ofNat 1, "prod"⟩], none⟩
  | .listApplications _ _ => .ok ⟨[⟨.ofNat 7, "web", .ofNat 1, some 2⟩], none⟩
  | .updateApplication _ _ => .ok ()
  | _ => .error (.notFound "resource")

abbrev answer := paged.serve (.ofNat 7) (Question.answerBy replies)

/-- The third version is the latest, though the first and the second are listed around it. -/
theorem latest_in_the_middle :
    (three.map (·.version)).Nodup ∧ VersionSummary.IsLatest three (some 3) ∧
    ((Versions.activate 3 "prod" "web" none).ran answer ()).1 = some (.ok 3) ∧
    Versions.Agree 3 answer (.ofNat 7) three (some 3) ∧
    Versions.SameUnder 3 answer (reversed.serve (.ofNat 7) (Question.answerBy replies)) := by
  have distinct : (three.map (·.version)).Nodup := by decide +kernel
  have top : VersionSummary.IsLatest three (some 3) :=
    ⟨by decide +kernel, by decide +kernel⟩
  have agreed := latest_version_agreed distinct top paged (.ofNat 7) (Question.answerBy replies)
  exact ⟨distinct, top, by decide +kernel, agreed.1, agreed.2 reversed⟩

end Unordered

end Converge
