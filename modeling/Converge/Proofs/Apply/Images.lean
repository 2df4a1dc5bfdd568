import Converge.Proofs.Apply.Applications
import Converge.Proofs.Apply.Asked
import Converge.Proofs.Apply.SameRun
import Converge.Proofs.Plan.Unseen
/-!
# The image of an application that lives

A version that is written over another one takes over its image; the configured image is that of a
first version only.  So two configurations that differ in nothing but the images of applications
that have a version are planned alike, and a control plane that still has those versions lives
through the same when the one is applied and when the other is.

Both applies are answered by one handler, so what follows a result has to be looked at only where
the handler leads there (`Program.SameRun.bind`).  That is needed: an apply that finds no version
where the plan was made for one would fall back on the configured image.  It finds one because the
steps before leave the latest version of each application its image (`LiveState.ImagesIn`), also
where they write one.

Main statement: `images_of_versions_unused`.
-/

namespace Converge

open Execution

/-! ## 1. Images that stay -/

/-- Whether an application with an identifier is there, and its latest version has some image. -/
def Carries (id : Uuid) (image : String) (ds : List Deployment) : Prop :=
  ∃ d ∈ ds, d.id = id ∧ d.latest.map (·.image) = some image

section

variable {paging : Paging} {cluster id : Uuid} {image : String} {ds : List Deployment}
  {es : List Event}

/-- It stays so where no version of it is written with another image. -/
theorem carries_deployed (h : Carries id image ds)
    (hs : (Part.applications paging cluster).Serves ds es)
    (written : ∀ r reply, .request (.createVersion id r) reply ∈ es → r.image = image) :
    Carries id image (deployed cluster ds es) := by
  refine Part.after_induction (P := Part.applications paging cluster)
    (motive := Carries id image) h hs fun ds h e he ha => ?_
  have becomes := e.deploys cluster ds
  change Carries id image (e.deploy cluster ds)
  generalize e.deploy cluster ds = after at becomes
  obtain ⟨d, hd, hid, hv⟩ := h
  cases becomes with
  | nothing => exact ⟨d, hd, hid, hv⟩
  | created _ => exact ⟨d, List.mem_append_left _ hd, hid, hv⟩
  | @versioned a r number =>
    refine ⟨_, List.mem_map_of_mem hd, ?_⟩
    by_cases ho : d.id = a
    · have numbers : ∀ v ∈ d.versions, v.version < number := of_decide_eq_true ha d hd ho
      obtain rfl := ho.symm.trans hid
      rw [if_pos ho, Deployment.latest_adding numbers]
      exact ⟨hid, congrArg some (written r _ he)⟩
    · rw [if_neg ho]
      exact ⟨hid, hv⟩
  | @served a r u =>
    refine ⟨_, List.mem_map_of_mem hd, ?_⟩
    split
    · exact ⟨hid, hv⟩
    · exact ⟨hid, hv⟩

end

/-- Whether the applications of a snapshot that have a version are there with its image. -/
def LiveState.ImagesIn (live : LiveState) (ds : List Deployment) : Prop :=
  ∀ l ∈ live.applications, ∀ v, l.latestVersion = some v → Carries l.application.id v.image ds

/-- Whether the applications of a snapshot are there with the versions that it shows. -/
def LiveState.LatestIn (live : LiveState) (ds : List Deployment) : Prop :=
  ∀ l ∈ live.applications, ∃ d ∈ ds, d.id = l.application.id ∧ d.latest = l.latestVersion

instance (live : LiveState) (ds : List Deployment) : Decidable (live.LatestIn ds) :=
  inferInstanceAs (Decidable (∀ l ∈ live.applications,
    ∃ d ∈ ds, d.id = l.application.id ∧ d.latest = l.latestVersion))

theorem LiveState.LatestIn.imagesIn {live : LiveState} {ds : List Deployment}
    (h : live.LatestIn ds) : live.ImagesIn ds := by
  intro l hl v hv
  obtain ⟨d, hd, hid, latest⟩ := h l hl
  exact ⟨d, hd, hid, by rw [latest, hv]; rfl⟩

namespace ApplyContext

variable {c : ApplyContext} {p q : Progress} {es : List Event} {ds : List Deployment}
  {paging : Paging} {a : ApplicationAction} {id : Uuid} {base : Option ApplicationVersion}
  {image : String}

/-- The version that a new one is laid over has the image of the latest one, for an application that
was there before. -/
theorem Targets.base_image (h : c.Targets a p es (some (.ok (id, base), q)))
    (carries : Carries id image ds)
    (hs : (Part.applications paging c.cluster.id).Serves ds es) :
    base.map (·.image) = some image := by
  obtain ⟨d, hd, rfl, hv⟩ := carries
  generalize ho : some (Except.ok (d.id, base), q) = out at h
  cases h with
  | created _ =>
    cases ho
    -- the identifier of what was created is new
    have new : d.id ∉ ds.map (·.id) := of_decide_eq_true (Bool.and_eq_true_iff.1 hs).1 rfl
    exact absurd (List.mem_map_of_mem hd) new
  | refused _ => cases ho
  | unidentified _ _ => cases ho
  | @based _ _ o _ _ hb =>
    obtain _ | _ | base' := o <;> cases ho
    have reads := (Observe.reads_latestVersion _ _).only _ _ hb
    rw [Observe.latestVersion_eq hd hb (Part.serves_of_reads reads hs), hv]

/-- Finding the target of an action writes no version. -/
theorem Targets.createVersion_notMem
    {out : Option (Except Failure (Uuid × Option ApplicationVersion) × Progress)}
    (h : c.Targets a p es out) (r : CreateVersionRequest) (reply : Except Failure Int32) :
    .request (.createVersion id r) reply ∉ es := by
  intro he
  cases h with
  | created _ => cases List.mem_singleton.1 he
  | refused _ => cases List.mem_singleton.1 he
  | unidentified _ _ => cases he
  | based _ _ hb => nomatch (Observe.reads_latestVersion _ _).only _ _ hb _ he

/-- The step that writes a version has found the application before, and the version that the new
one is laid over. -/
theorem Acts.versioned {s : ApplyStep} {out : Option (Except Failure Unit × Progress)}
    {r : CreateVersionRequest} {reply : Except Failure Int32} (h : c.Acts s p es out)
    (he : .request (.createVersion id r) reply ∈ es) :
    ∃ a, ∃ w : ApplicationConfig, ∃ fs gs base q, s = .application a ∧ es = fs ++ gs ∧
      c.desired.application? a.name = some w ∧ r = w.spec.request base ∧
      c.Targets a p fs (some (.ok (id, base), q)) := by
  have asked : ∃ a, s = .application a := by
    rcases h.asked _ he with reads | ⟨m, hs, asks⟩
    · nomatch reads
    · cases asks
      exact ⟨_, hs⟩
  obtain ⟨a, rfl⟩ := asked
  cases h with
  | applicationUnknown _ => cases he
  | applicationUntargeted _ ht _ => exact absurd he (ht.createVersion_notMem r reply)
  | @versionRefused _ _ w fs _ base q _ hw ht =>
    have he := (List.mem_append.1 he).resolve_left (ht.createVersion_notMem r reply)
    cases List.mem_singleton.1 he
    exact ⟨a, w, fs, _, base, q, rfl, rfl, hw, rfl, ht⟩
  | @versionKept _ _ w fs _ base q _ hw ht _ =>
    have he := (List.mem_append.1 he).resolve_left (ht.createVersion_notMem r reply)
    cases List.mem_singleton.1 he
    exact ⟨a, w, fs, _, base, q, rfl, rfl, hw, rfl, ht⟩
  | @versionActivated _ _ w fs _ base q _ hw ht _ _ =>
    have he := (List.mem_append.1 he).resolve_left (ht.createVersion_notMem r reply)
    rcases List.mem_cons.1 he with he | he
    · cases he
      exact ⟨a, w, fs, _, base, q, rfl, rfl, hw, rfl, ht⟩
    · cases List.mem_singleton.1 he

/-- **A step writes a version with the image of the latest one.** -/
theorem Acts.version_image {s : ApplyStep} {out : Option (Except Failure Unit × Progress)}
    (h : c.Acts s p es out) (carries : Carries id image ds)
    (hs : (Part.applications paging c.cluster.id).Serves ds es) (r : CreateVersionRequest)
    (reply : Except Failure Int32) (he : .request (.createVersion id r) reply ∈ es) :
    r.image = image := by
  obtain ⟨a, w, fs, gs, base, q, rfl, rfl, -, rfl, ht⟩ := h.versioned he
  have inherited := ht.base_image carries (serves_deployed.1 hs).1
  show (base.map (·.image)).getD w.spec.image = image
  rw [inherited]
  rfl

/-- **And so do all steps**, by induction over them: each leaves the latest version its image. -/
theorem ActsAll.version_image {steps : List ApplyStep}
    {out : Option (Except Failure Unit × Progress)}
    (h : c.ActsAll steps p es out) (carries : Carries id image ds)
    (hs : (Part.applications paging c.cluster.id).Serves ds es) (r : CreateVersionRequest)
    (reply : Except Failure Int32) (he : .request (.createVersion id r) reply ∈ es) :
    r.image = image := by
  induction h generalizing ds with
  | nil => cases he
  | cons h _ ih =>
    obtain ⟨hs, hsrest⟩ := serves_deployed.1 hs
    have written := h.version_image carries hs
    rcases List.mem_append.1 he with he | he
    · exact written r reply he
    · exact ih (carries_deployed carries hs written) hsrest he
  | stopped h => exact h.version_image carries hs r reply he
  | unfinished h => exact h.version_image carries hs r reply he

/-- A step leaves the applications their images. -/
theorem Acts.imagesIn {s : ApplyStep} {out : Option (Except Failure Unit × Progress)}
    {live : LiveState} (h : c.Acts s p es out) (images : live.ImagesIn ds)
    (hs : (Part.applications paging c.cluster.id).Serves ds es) :
    live.ImagesIn (deployed c.cluster.id ds es) := by
  intro l hl v hv
  have carries := images l hl v hv
  exact carries_deployed carries hs (h.version_image carries hs)

end ApplyContext

/-! ## 2. Two configurations -/

/-- Where two configurations differ only in images that do not count, so do the applications of a
name. -/
theorem ClusterConfig.application?_of_unimaged_eq {live : LiveState} {c d : ClusterConfig}
    (same : c.unimaged live = d.unimaged live) (n : String) :
    Option.Rel (fun w w' => w.unimaged live = w'.unimaged live) (c.application? n)
      (d.application? n) := by
  have found : (c.application? n).map (·.unimaged live) =
      (d.application? n).map (·.unimaged live) := by
    rw [← application?_mapApplications (ApplicationConfig.unimaged_name live),
      ← application?_mapApplications (ApplicationConfig.unimaged_name live)]
    exact congrArg (·.application? n) same
  generalize c.application? n = o, d.application? n = o' at found
  cases o with
  | none =>
    obtain rfl := Option.map_eq_none_iff.1 found.symm
    exact .none
  | some w =>
    obtain ⟨w', rfl, same⟩ := Option.map_eq_some_iff.1 found.symm
    exact .some same.symm

/-- Of an application without a version everything counts, and of one with a version everything but
the image. -/
theorem ApplicationConfig.eq_or_image {live : LiveState} {w w' : ApplicationConfig}
    (same : w.unimaged live = w'.unimaged live) :
    w = w' ∨ (live.latest? w.name).isSome ∧
      w'.spec = { w.spec with image := w'.spec.image } := by
  have name : w.name = w'.name := by rw [← w.unimaged_name live, same, unimaged_name]
  unfold unimaged at same
  rw [← name] at same
  split at same
  next versioned =>
    have specs := congrArg (fun w => { w.spec with image := w'.spec.image }) same
    exact .inr ⟨versioned, specs.symm⟩
  next => exact .inl same

/-- Whether an action is for the application that lives with its name, if that has a version. -/
def ApplicationAction.Continues (a : ApplicationAction) (live : LiveState) : Prop :=
  ∀ v, live.latest? a.name = some v → ∃ l ∈ live.applications, l.latestVersion = some v ∧
    a.action ≠ .create ∧ a.applicationId = some l.application.id

namespace ApplyContext

variable {c : ApplyContext} {other : ClusterConfig} {live : LiveState} {a : ApplicationAction}

/-- The image of the spec is not made use of where there is a version before. -/
theorem deliver_image (c : ApplyContext) (a : ApplicationAction) (spec : ApplicationSpec)
    (image : String) (id : Uuid) (base : ApplicationVersion) :
    c.deliver a { spec with image := image } (id, some base) = c.deliver a spec (id, some base) :=
  rfl

/-- What configured applications do not decide is done for both configurations alike. -/
theorem act_eq (c : ApplyContext) (same : c.desired.unimaged live = other.unimaged live)
    {s : ApplyStep} (hs : ∀ a, s ≠ .application a) :
    { c with desired := other }.act s = c.act s := by
  have cluster : c.desired.cluster = other.cluster := congrArg (·.cluster) same
  have groups : c.desired.groups = other.groups := congrArg (·.groups) same
  have balancers : c.desired.balancers = other.balancers := congrArg (·.balancers) same
  cases s with
  | updateSettings => simp only [act, updateSettings, cluster]
  | deleteBalancer _ => rfl
  | deleteGroup _ => rfl
  | createGroup _ => simp only [act, createGroup, ClusterConfig.group?, groups]
  | createBalancer _ =>
    simp only [act, createBalancer, ClusterConfig.balancer?, balancers]
    rfl
  | application a => exact absurd rfl (hs a)

variable {σ : Type} {answer : (q : Question) → σ → q.Reply × σ} {t : σ} {p q : Progress}
  {ds : List Deployment} {paging : Paging} {es : List Event} {id : Uuid}
  {base : Option ApplicationVersion}

/-- An application that is not created is the planned one. -/
theorem Targets.identified (h : c.Targets a p es (some (.ok (id, base), q)))
    (hc : a.action ≠ .create) : a.applicationId = some id := by
  generalize ho : some (Except.ok (id, base), q) = out at h
  cases h with
  | created ha => exact absurd ha hc
  | refused _ => cases ho
  | unidentified _ _ => cases ho
  | @based _ _ o _ hi _ =>
    obtain _ | _ | _ := o <;> cases ho
    exact hi

/-- What is written is the same for two specs that differ only in an image that does not count,
because a version is found where the plan was made for one. -/
theorem deliver_eq {w w' : ApplicationConfig} (same : w.unimaged live = w'.unimaged live)
    (name : w.name = a.name) (continues : a.Continues live) (images : live.ImagesIn ds)
    (found : c.Targets a p es (some (.ok (id, base), q)))
    (hs : (Part.applications paging c.cluster.id).Serves ds es) :
    c.deliver a w.spec (id, base) = c.deliver a w'.spec (id, base) := by
  rcases ApplicationConfig.eq_or_image same with rfl | ⟨versioned, image⟩
  · rfl
  obtain ⟨v, hv⟩ := Option.isSome_iff_exists.1 (name ▸ versioned)
  obtain ⟨l, hl, hlv, hc, hi⟩ := continues v hv
  obtain rfl := Option.some.inj (hi.symm.trans (found.identified hc))
  obtain ⟨b, rfl, -⟩ := Option.map_eq_some_iff.1 (found.base_image (images l hl v hlv) hs)
  rw [image]
  exact (c.deliver_image a w.spec w'.spec.image _ b).symm

/-- **The step for an application is the same with both configurations.** -/
theorem sameRun_application (same : c.desired.unimaged live = other.unimaged live)
    (continues : a.Continues live) (images : live.ImagesIn ds)
    (hs : (Part.applications paging c.cluster.id).Serves ds
      (Execution.events answer t p (c.application a))) :
    Execution.SameRun answer t p (c.application a) ({ c with desired := other }.application a) := by
  have found := ClusterConfig.application?_of_unimaged_eq same a.name
  rw [application_eq] at hs ⊢
  rw [application_eq]
  generalize hw : c.desired.application? a.name = o, other.application? a.name = o' at found hs
  cases found with
  | none => exact .refl ..
  | @some w w' same =>
    -- there is an application, and only its target and its spec matter
    change (Part.applications paging c.cluster.id).Serves ds
      (Execution.events answer t p (c.target a >>= c.deliver a w.spec)) at hs
    change Execution.SameRun answer t p (c.target a >>= c.deliver a w.spec)
      (c.target a >>= c.deliver a w'.spec)
    rw [Execution.events_bind] at hs
    refine sameRun_bind (.refl ..) ?_
    rintro ⟨id, base⟩ q t' ho
    have targets : c.Targets a p _ _ := targets_of_course (course_of_run answer t p (c.target a))
    rw [ho] at targets
    have name : w.name = a.name := (find?_key_eq_some hw).2
    rw [deliver_eq same name continues images targets (serves_deployed.1 hs).1]
    exact .refl ..

/-- Each step is the same with both configurations. -/
theorem sameRun_act (same : c.desired.unimaged live = other.unimaged live) {s : ApplyStep}
    (continues : ∀ a, s = .application a → a.Continues live) (images : live.ImagesIn ds)
    (hs : (Part.applications paging c.cluster.id).Serves ds
      (Execution.events answer t p (c.act s))) :
    Execution.SameRun answer t p (c.act s) ({ c with desired := other }.act s) := by
  by_cases happ : ∃ a, s = .application a
  · obtain ⟨a, rfl⟩ := happ
    exact sameRun_application same (continues a rfl) images hs
  · rw [c.act_eq same fun a ha => happ ⟨a, ha⟩]
    exact .refl ..

/-- **All steps are the same with both configurations**, by induction over them: each leaves the
applications the images that the next one relies on. -/
theorem sameRun_takeAll (same : c.desired.unimaged live = other.unimaged live) :
    ∀ {steps : List ApplyStep} {t : σ} {p : Progress} {ds : List Deployment},
      (∀ a, .application a ∈ steps → a.Continues live) → live.ImagesIn ds →
      (Part.applications paging c.cluster.id).Serves ds
        (Execution.events answer t p (c.takeAll steps)) →
      Execution.SameRun answer t p (c.takeAll steps) ({ c with desired := other }.takeAll steps)
  | [], _, _, _, _, _, _ => .refl ..
  | s :: rest, t, p, ds, continues, images, hs => by
    have taken : Execution.events answer t p (c.take s) = Execution.events answer t p (c.act s) :=
      events_inStage ..
    rw [takeAll, Execution.events_bind, taken] at hs
    obtain ⟨served, later⟩ := serves_deployed.1 hs
    have acts : c.Acts s p _ _ := acts_of_course (course_of_run answer t p (c.act s))
    have step := sameRun_act same (fun a ha => continues a (ha ▸ List.mem_cons_self)) images served
    refine sameRun_bind (sameRun_inStage _ _ step) fun u q t' ho => ?_
    rw [ho] at later
    exact sameRun_takeAll same (fun a ha => continues a (List.mem_cons_of_mem _ ha))
      (acts.imagesIn images served) later

end ApplyContext

/-- A plan continues what lives in the snapshot that it is made from. -/
theorem Plan.MadeFrom.continues {p : Plan} {desired : ClusterConfig} {live : LiveState}
    {ledger : SecretLedger} {a : ApplicationAction} (h : p.MadeFrom desired live ledger)
    (ha : a ∈ p.applicationActions) : a.Continues live := by
  intro v hv
  obtain ⟨w, -, planned⟩ := h.application ha
  rw [planned.name] at hv
  obtain ⟨l, hl, hlv⟩ := Option.bind_eq_some_iff.1 hv
  have listed : l ∈ live.applications := List.mem_reverse.1 (find?_key_eq_some hl).1
  cases planned with
  | missing h => rw [h] at hl; nomatch hl
  | unversioned h hn =>
    obtain rfl := Option.some.inj (h.symm.trans hl)
    rw [hn] at hlv
    nomatch hlv
  | same h _ _ =>
    obtain rfl := Option.some.inj (h.symm.trans hl)
    exact ⟨_, listed, hlv, nofun, rfl⟩
  | differs h _ _ _ =>
    obtain rfl := Option.some.inj (h.symm.trans hl)
    exact ⟨_, listed, hlv, nofun, rfl⟩

/-! ## 3. Planning and applying -/

section

variable {σ : Type} {answer : (q : Question) → σ → q.Reply × σ} {t : σ}
  {options : ApplyOptions} {desired other : ClusterConfig} {live : LiveState} {p : Plan}
  {known ledger : SecretLedger} {ds : List Deployment} {paging : Paging}

/-- **An apply is the same with both configurations** when the plan was made for one of them. -/
theorem sameRun_execute (same : desired.unimaged live = other.unimaged live)
    (made : p.MadeFrom desired live known) (images : live.ImagesIn ds)
    (hs : (Part.applications paging p.cluster.id).Serves ds
      ((execute options desired p ledger).events answer t)) :
    Program.SameRun (I := Session.interface) answer t (execute options desired p ledger).run
      (execute options other p ledger).run := by
  have continues : ∀ a, .application a ∈ p.script → a.Continues live := fun a ha =>
    made.continues (Plan.mem_script_iff.1 ha).1
  rw [execute_events_eq, Program.events_bind] at hs
  have steps : Program.SameRun (I := Session.interface) answer
      (answer (.log .info p.announcement) t).2 (p.steps options desired ledger)
      (p.steps options other ledger) :=
    ApplyContext.sameRun_takeAll (c := p.context options desired) same continues images
      (serves_deployed.1 hs).1
  rw [execute_run, execute_run]
  exact (steps.bind fun _ _ _ => .refl ..).ask

/-- An apply writes versions with the images of the latest ones. -/
theorem execute_version_image (images : live.ImagesIn ds)
    (hs : (Part.applications paging p.cluster.id).Serves ds
      ((execute options desired p ledger).events answer t)) {l : LiveApplication}
    (hl : l ∈ live.applications) {v : ApplicationVersion} (hv : l.latestVersion = some v)
    {r : CreateVersionRequest} {reply : Except Failure Int32}
    (he : .request (.createVersion l.application.id r) reply ∈
      (execute options desired p ledger).events answer t) : r.image = v.image := by
  rcases execute_cases (Session.course_of_run answer _ t) with ⟨ran, -⟩ |
    ⟨as, bs, _, _, _, split, ran, saves, -⟩
  · exact ran.version_image (c := p.context options desired) (images l hl v hv) hs r reply he
  · rw [split] at hs he
    rcases List.mem_append.1 he with he | he
    · exact ran.version_image (c := p.context options desired) (images l hl v hv)
        (serves_deployed.1 hs).1 r reply he
    · cases saves with
      | unchanged _ => cases he
      | changed _ _ => cases List.mem_singleton.1 he

end

/-- **The configured image of an application that has a version has no effect.**  Where two
configurations differ in nothing else, planning cannot tell them apart.  And when what was planned
is applied by a control plane that has kept the versions since, it lives through the same with both,
requests and what is sent with them included; each version that is written for an application that
had one has the image of its latest one. -/
theorem images_of_versions_unused {desired other : ClusterConfig} {live : LiveState}
    (same : desired.unimaged live = other.unimaged live) (known : SecretLedger) :
    SamePlanning live known desired other ∧
    ∀ (now later : Timestamp) (p q : Plan), plan desired live known now = .ok p →
      plan other live known later = .ok q →
      ∀ (options : ApplyOptions) (ledger : SecretLedger) (ds : List Deployment) (paging : Paging)
        (σ : Type) (answer : (q : Question) → σ → q.Reply × σ) (t : σ), live.LatestIn ds →
        (Part.applications paging live.cluster.id).Serves ds
          ((execute options desired p ledger).events answer t) →
        Program.SameRun (I := Session.interface) answer t (execute options desired p ledger).run
          (execute options other q ledger).run ∧
        ∀ l ∈ live.applications, ∀ v, l.latestVersion = some v → ∀ r reply,
          .request (.createVersion l.application.id r) reply ∈
            (execute options desired p ledger).events answer t → r.image = v.image := by
  have planning := samePlanning_of_unimaged_eq same known
  refine ⟨planning, fun now later p q hp hq options ledger ds paging σ answer t latest hs => ?_⟩
  have made := Plan.madeFrom hp
  rw [← made.cluster] at hs
  obtain rfl : p.madeAt later = q := by
    have again := planning.plan now later
    rw [hp, hq] at again
    exact Except.ok.inj again
  -- the time of the plan is not looked at
  have retimed : execute options other (p.madeAt later) ledger = execute options other p ledger :=
    rfl
  rw [retimed]
  refine ⟨sameRun_execute same made latest.imagesIn hs, fun l hl v hv r reply he => ?_⟩
  exact execute_version_image latest.imagesIn hs hl hv he

namespace Releasing

/-- The configuration with other images for the two applications that live. -/
def reimaged : ClusterConfig :=
  { desired with
    applications := [⟨"web", spec⟩, ⟨"api", { spec with image := "caddy" }⟩,
      ⟨"job", { spec with image := "httpd" }⟩] }

/-- The new version of the one that is updated has the image that it had, with either. -/
theorem same_with_both_images :
    desired ≠ reimaged ∧ SamePlanning live .empty desired reimaged ∧
    Program.SameRun (I := Session.interface) answer ⟨controlPlane, []⟩
      (execute ⟨⟨0, 0⟩, true, 2⟩ desired plan .empty).run
      (execute ⟨⟨0, 0⟩, true, 2⟩ reimaged plan .empty).run ∧
    ∀ l ∈ live.applications, ∀ v, l.latestVersion = some v → ∀ r reply,
      .request (.createVersion l.application.id r) reply ∈ applying → r.image = v.image := by
  have different : desired ≠ reimaged := by decide +kernel
  have same : desired.unimaged live = reimaged.unimaged live := by decide +kernel
  have planned : Converge.plan desired live .empty .epoch = .ok plan := by decide +kernel
  have planned' : Converge.plan reimaged live .empty .epoch = .ok plan := by decide +kernel
  have latest : live.LatestIn before := by decide +kernel
  have store : (Part.applications .single live.cluster.id).Serves before applying := by
    decide +kernel
  obtain ⟨planning, applied⟩ := images_of_versions_unused same .empty
  obtain ⟨run, images⟩ := applied .epoch .epoch plan plan planned planned' ⟨⟨0, 0⟩, true, 2⟩ .empty
    before .single _ answer ⟨controlPlane, []⟩ latest store
  exact ⟨different, planning, run, images⟩

end Releasing

end Converge
