import Converge.Proofs.Apply.Deploying
import Converge.Proofs.Apply.Failures
import Converge.Proofs.Apply.Infrastructure
import Converge.Proofs.Cluster.World
import Converge.Proofs.Plan.Applications
/-!
# What an apply that fails leaves undone

Wherever an apply of a plan stops, something that the plan asks for can be seen to be missing from
what the control plane keeps: the settings are as before, or a group or load balancer that was to be
deleted may still be there but nothing new is, or a group, load balancer, application or version
that was to be created is not there.  There is one exception.  A version is activated after it was
written, and whether it serves is not a part of what is compared; so when the last version of a
plan was written and could not be activated, everything is there.

`Plan.Interrupted` lists these cases.  Each stage gets one lemma, in the order of the script.

Main statement: `Plan.interrupted`.
-/

namespace Converge

open Deployment Planner

/-! ## 1. Deletions and settings -/

namespace ApplyContext

variable {c : ApplyContext} {plan : Plan} {p q : Progress} {es : List Event} {f : Failure}

theorem ActsAll.settings_failed
    (h : c.ActsAll (if plan.clusterAction.action = .update then [.updateSettings] else []) p es
      (some (.error f, q))) (detail : ClusterDetail) :
    plan.clusterAction.action = .update ∧
      (Part.settings c.cluster.id).after detail es = detail := by
  split at h
  next hu =>
    refine ⟨hu, ?_⟩
    cases h with
    | cons _ hr => nomatch hr
    | stopped h =>
      generalize ho : some (Except.error _, q) = out at h
      cases h with
      | settingsMissing _ => rfl
      | settings _ reply =>
        obtain _ | _ := reply
        · rfl
        · nomatch ho
  next => nomatch h

/-- The deletions and the settings create nothing. -/
theorem ActsAll.shrinks {out : Option (Except Failure Unit × Progress)}
    (h : c.ActsAll plan.clearing p es out) (sites : List Site) :
    Shrunk sites (effects c.cluster.id sites es) := by
  refine shrunk_effects fun e he => ?_
  rcases h.asked e he with reads | ⟨m, hm, asks⟩
  · obtain ⟨call, reply⟩ | _ | _ := e
    · cases call <;> first | rfl | nomatch reads
    · rfl
    · rfl
  · obtain ⟨s, hs, hm⟩ := List.mem_flatMap.1 hm
    have orders : s = .updateSettings ∨ (∃ a, s = .deleteBalancer a) ∨ ∃ a, s = .deleteGroup a := by
      rcases List.mem_append.1 hs with hs | hs
      · rcases List.mem_append.1 hs with hs | hs
        · split at hs
          · exact .inl (List.mem_singleton.1 hs)
          · nomatch hs
        · obtain ⟨a, -, rfl⟩ := List.mem_map.1 hs
          exact .inr (.inl ⟨a, rfl⟩)
      · obtain ⟨a, -, rfl⟩ := List.mem_map.1 hs
        exact .inr (.inr ⟨a, rfl⟩)
    obtain rfl | ⟨a, rfl⟩ | ⟨a, rfl⟩ := orders <;>
      obtain rfl := List.mem_singleton.1 hm <;> cases asks <;> rfl

/-- When the deletions fail, one of them was ordered. -/
theorem ActsAll.clearing_failed (h : c.ActsAll plan.clearing p es (some (.error f, q)))
    (detail : ClusterDetail) :
    (plan.clusterAction.action = .update ∧
      (Part.settings c.cluster.id).after detail es = detail) ∨
    (∃ a ∈ plan.balancerActions, a.action.deletes) ∨ ∃ a ∈ plan.groupActions, a.action.deletes := by
  rcases h.append_failed with h | ⟨_, _, _, -, -, h⟩
  · rcases h.append_failed with h | ⟨_, _, _, -, -, h⟩
    · exact .inl (h.settings_failed detail)
    · obtain ⟨l₁, a, l₂, _, _, _, _, hl, -⟩ := h.map_failed
      have ha : a ∈ plan.balancerActions.filter (·.action.deletes) := by simp [hl]
      exact .inr (.inl ⟨a, (List.mem_filter.1 ha).1, (List.mem_filter.1 ha).2⟩)
  · obtain ⟨l₁, a, l₂, _, _, _, _, hl, -⟩ := h.map_failed
    have ha : a ∈ plan.groupActions.filter (·.action.deletes) := by simp [hl]
    exact .inr (.inr ⟨a, (List.mem_filter.1 ha).1, (List.mem_filter.1 ha).2⟩)

/-! ## 2. Creating groups and load balancers -/

theorem Acts.createGroup_failed {a : GroupAction}
    (h : c.Acts (.createGroup a) p es (some (.error f, q))) (sites : List Site) :
    effects c.cluster.id sites es = sites := by
  generalize ho : some (Except.error f, q) = out at h
  cases h with
  | groupUnknown _ => rfl
  | groupCreated _ reply =>
    obtain _ | _ := reply
    · rfl
    · nomatch ho

theorem Acts.createBalancer_failed {a : BalancerAction}
    (h : c.Acts (.createBalancer a) p es (some (.error f, q))) (sites : List Site) :
    effects c.cluster.id sites es = sites := by
  generalize ho : some (Except.error f, q) = out at h
  cases h with
  | balancerUnknown _ => rfl
  | balancerOwnerless _ howns _ => exact effects_of_reads howns.reads.1
  | balancerCreated _ howns reply =>
    obtain _ | _ := reply
    · rw [effects_append, effects_of_reads howns.reads.1]
      rfl
    · nomatch ho

end ApplyContext

namespace Planned

variable {desired : ClusterConfig} {live : LiveState} {before newGroups : List Site} {plan : Plan}
  {c : ApplyContext} {p q : Progress} {es : List Event} {f : Failure} {paging : Paging}

/-- When creating the groups fails, there is no group of the name on which it fails: what lived
under it was deleted, and the groups that are new have other names. -/
theorem groups_failed (h : Planned desired live before plan)
    (ha : c.ActsAll ((plan.groupActions.filter (·.action.creates)).map .createGroup) p es
      (some (.error f, q))) :
    ∃ a ∈ plan.groupActions, a.action.creates ∧
      ∀ t ∈ effects c.cluster.id (plan.kept before) es, t.name ≠ a.name := by
  obtain ⟨l₁, a, l₂, as, bs, r, source, hl, rfl, hbefore, hstep⟩ := ha.map_failed
  obtain ⟨hm, hc⟩ : a ∈ plan.groupActions ∧ a.action.creates := by
    have : a ∈ plan.groupActions.filter (·.action.creates) := by simp [hl]
    exact List.mem_filter.1 this
  obtain ⟨new, hnew, -, he⟩ := hbefore.creates_groups
  refine ⟨a, hm, hc, fun t ht hn => ?_⟩
  rw [effects_append, he, hstep.createGroup_failed] at ht
  rcases List.mem_append.1 ht with hk | hnewt
  · exact h.name_ne_of_kept hm hc hk hn
  · obtain ⟨b, hb, makes⟩ := exists_left_of_forall₂ hnew t hnewt
    have names := h.sound.groupNames.sublist (names_of_creates desired live)
    rw [← h.groupActions, hl, List.map_append, List.map_cons, List.nodup_append] at names
    refine names.2.2 b.name (List.mem_map_of_mem hb) a.name List.mem_cons_self ?_
    exact makes.name.symm.trans hn

/-- When creating the load balancers fails, there is none of the name on which it fails under its
group. -/
theorem balancers_failed (h : Planned desired live before plan)
    (made : plan.MakesGroups desired newGroups)
    (created : p.created = (newGroups.map fun s => (s.name, s.id)).reverse)
    (ids : ((plan.kept before ++ newGroups).map (·.id)).Nodup)
    (ha : c.ActsAll ((plan.balancerActions.filter (·.action.creates)).map .createBalancer) p es
      (some (.error f, q)))
    (hs : (Part.infrastructure paging c.cluster.id).Serves (plan.kept before ++ newGroups) es) :
    ∃ a ∈ plan.balancerActions, a.action.creates ∧
      ∀ t ∈ effects c.cluster.id (plan.kept before ++ newGroups) es, t.name = a.groupName →
        ∀ b ∈ t.balancers, b.name ≠ a.name := by
  obtain ⟨l₁, a, l₂, as, bs, r, source, hl, rfl, hbefore, hstep⟩ := ha.map_failed
  have creates : ∀ b ∈ l₁ ++ a :: l₂, b ∈ plan.balancerActions.filter (·.action.creates) :=
    fun b hb => hl ▸ hb
  obtain ⟨hm, hc⟩ := List.mem_filter.1 (creates a (by simp))
  obtain ⟨-, new, hnew, he⟩ := hbefore.creates_balancers (serves_append.1 hs).1
  rw [created] at hnew
  refine ⟨a, hm, hc, fun t ht hn b hb hbn => ?_⟩
  rw [effects_append, he, hstep.createBalancer_failed] at ht
  obtain ⟨t, htm, rfl⟩ := List.mem_map.1 ht
  have hn : t.name = a.groupName := hn
  rcases List.mem_append.1 hb with hb | hb
  · -- it was there before, and was not deleted
    rcases List.mem_append.1 htm with hk | hnewt
    · exact h.balancer_name_ne_of_kept hm hc hk hn hb hbn
    · obtain ⟨w, -, -, id, rfl⟩ := h.mem_newGroups made hnewt
      exact List.not_mem_nil hb
  · -- it was created before, for an action with another label
    obtain ⟨x, hx, rfl⟩ := List.mem_map.1 hb
    obtain ⟨hx, hid⟩ := List.mem_filter.1 hx
    obtain ⟨a', ha', ⟨w, id, found, hxb⟩, owner⟩ := exists_left_of_forall₂ hnew x hx
    obtain ⟨s, hs, hsn, hsid⟩ :=
      h.exists_owner made (creates a' (List.mem_append_left _ ha')) owner
    obtain rfl := List.inj_on_of_nodup_map ids hs htm (hsid.trans (of_decide_eq_true hid))
    have name : x.2.name = a'.name := by
      rw [hxb]
      exact (ClusterConfig.balancer?_eq_some found).2.2
    have labels := h.sound.balancerNames.sublist
      (labels_of_creates desired live plan.groupActions)
    rw [← h.balancerActions, hl, List.map_append, List.map_cons, List.nodup_append] at labels
    refine labels.2.2 _ (List.mem_map_of_mem ha') _ List.mem_cons_self ?_
    rw [← hsn, hn, ← name, hbn]

end Planned
/-! ## 3. Applications -/

/-- Whether all changes `ms` were attempted with the requests `es`, and of these only the last one,
the activation of a version, has failed. -/
structure ActivationLost (ms : List Mutation) (activate : Bool) (es : List Event) : Prop where
  requested : activate = true
  all : es.length = ms.length
  others : ∀ e ∈ es.dropLast, e.succeeded
  last : ∃ id r f, es.getLast? = some (.request (.updateApplication id r) (.error f))

namespace Plan.MadeFrom

variable {p : Plan} {desired : ClusterConfig} {live : LiveState} {ledger : SecretLedger}
  {ds : List Deployment} {a : ApplicationAction}

theorem applicationNames (h : p.MadeFrom desired live ledger) :
    p.applicationActions.map (·.name) = desired.applications.map (·.name) := by
  refine List.forall₂_eq_eq_eq ▸ List.forall₂_map_left_iff.2 (List.forall₂_map_right_iff.2 ?_)
  exact h.applicationActions.flip.imp fun _ _ => ApplicationPlanned.name

/-- What is planned for an application that lives has the identifier of one of its name. -/
theorem identified (h : p.MadeFrom desired live ledger) (shown : live.ShowsApplications ds)
    (ha : a ∈ p.applicationActions) : a.Identified ds := by
  intro hc
  obtain ⟨w, hw, planned⟩ := h.application ha
  have known {l : LiveApplication} (hl : live.application? w.name = some l) :
      (l.application.id, w.name) ∈ keys ds := by
    obtain ⟨d, hd, rfl⟩ := shown.named_of_eq_some hl
    obtain ⟨hd, hn⟩ := List.mem_filter.1 hd
    exact mem_keys_iff.2 ⟨d, hd, rfl, of_decide_eq_true hn⟩
  cases planned with
  | missing _ => exact absurd rfl hc
  | unversioned hl _ => exact ⟨_, rfl, known hl⟩
  | same hl _ _ => exact ⟨_, rfl, known hl⟩
  | differs hl _ _ _ => exact ⟨_, rfl, known hl⟩

/-- An application is created only where there is none of its name. -/
theorem absent (h : p.MadeFrom desired live ledger) (shown : live.ShowsApplications ds)
    (ha : a ∈ p.applicationActions) (hc : a.action = .create) : named a.name ds = [] := by
  obtain ⟨w, hw, planned⟩ := h.application ha
  cases planned with
  | missing hl => exact shown.named_eq_nil_iff.1 hl
  | unversioned _ _ => nomatch hc
  | same _ _ _ => nomatch hc
  | differs _ _ _ _ => nomatch hc

end Plan.MadeFrom

/-- What is left to do of the applications. -/
inductive ApplicationsLeft (p : Plan) (ms : List Mutation) (activate : Bool)
    (ds ds' : List Deployment) (ledger ledger' : SecretLedger) (es : List Event) : Prop where
  | untouched {a} (ha : a ∈ p.applicationActions) (hw : a.action.writesVersion)
      (same : named a.name ds' = named a.name ds) (agree : SecretLedger.Agree a.name ledger' ledger)
  | unversioned {a} (ha : a ∈ p.applicationActions) (hw : a.action.writesVersion) {d}
      (only : named a.name ds' = [d]) (none : d.versions = [])
  | unactivated (lost : ActivationLost ms activate es)

/-- **What is left when the applications fail**: the step that fails has done nothing, or it has
created an application without a version, or it could not activate the version; then the next
action was not begun, unless there is none. -/
theorem ApplyContext.ActsAll.applications_failed {c : ApplyContext} {plan : Plan}
    {live : LiveState} {ledger : SecretLedger} {ds : List Deployment} {p q : Progress}
    {es : List Event} {f : Failure} {paging : Paging}
    (made : plan.MadeFrom c.desired live ledger) (sound : c.desired.Sound)
    (shown : live.ShowsApplications ds) (ids : (ds.map (·.id)).Nodup)
    (h : c.ActsAll ((plan.applicationActions.filter (·.action.writesVersion)).map .application) p es
      (some (.error f, q)))
    (hs : (Part.applications paging c.cluster.id).Serves ds es) :
    ApplicationsLeft plan
      (((plan.applicationActions.filter (·.action.writesVersion)).map ApplyStep.application).flatMap
        (·.mutations c.activate))
      c.activate ds (deployed c.cluster.id ds es) p.ledger q.ledger (mutating es) := by
  obtain ⟨l₁, a, l₂, as, bs, r, source, hl, rfl, hbefore, hstep⟩ := h.map_failed
  have among : ∀ b ∈ l₁ ++ a :: l₂, b ∈ plan.applicationActions ∧ b.action.writesVersion :=
    fun b hb => List.mem_filter.1 (hl ▸ hb)
  have names : ((l₁ ++ a :: l₂).map (·.name)).Nodup := by
    rw [← hl]
    refine List.Nodup.sublist (List.filter_sublist.map _) ?_
    rw [made.applicationNames]
    exact sound.applicationNames
  rw [List.map_append, List.map_cons, List.nodup_append, List.nodup_cons] at names
  obtain ⟨-, ⟨ha₂, -⟩, h₁⟩ := names
  obtain ⟨ha, hwa⟩ := among a (by simp)
  obtain ⟨hs₁, hs₂⟩ := serves_deployed.1 hs
  have identified : ∀ b ∈ l₁ ++ a :: l₂, b.Identified ds := fun b hb =>
    made.identified shown (among b hb).1
  -- the steps before have not touched what has another name
  have before {n : String} (hn : n ∉ l₁.map (·.name)) :
      named n (deployed c.cluster.id ds as) = named n ds ∧
        SecretLedger.Agree n r.ledger p.ledger := by
    refine ⟨hbefore.spares_others (fun b hb => identified b (List.mem_append_left _ hb)) ids hs₁ hn,
      hbefore.agree_others fun b hb hbn => hn ?_⟩
    obtain ⟨b', hb', he⟩ := List.mem_map.1 hb
    obtain rfl := ApplyStep.application.inj he
    exact hbn ▸ List.mem_map_of_mem hb'
  have fresh_a : a.name ∉ l₁.map (·.name) := fun hm => h₁ _ hm _ List.mem_cons_self rfl
  obtain ⟨same, agree⟩ := before fresh_a
  cases hstep.application_failed with
  | untouched hledger hd =>
    refine .untouched ha hwa ?_ (hledger ▸ agree)
    rw [deployed_append, hd, same]
  | unversioned hc id hd =>
    refine .unversioned ha hwa (d := fresh id a.name c.cluster.id) ?_ rfl
    have none : named a.name (deployed c.cluster.id ds as) = [] :=
      same.trans (made.absent shown ha hc)
    rw [deployed_append, hd, named, List.filter_append, ← named, none, List.nil_append]
    exact List.filter_cons_of_pos (decide_eq_true rfl)
  | @unactivated hy all id request refusal last =>
    cases l₂ with
    | nil =>
      refine .unactivated ⟨hy, ?_, h.follows.1.succeeded, id, request, refusal, ?_⟩
      · have done := (hbefore.follows.2.1 _ rfl).length_eq
        rw [hl, mutating_append, List.length_append, List.map_append, List.flatMap_append,
          List.length_append, all, done, List.map_singleton, List.flatMap_singleton]
        rfl
      · rw [mutating_append, List.getLast?_append, last]
        rfl
    | cons b l₂ =>
      obtain ⟨hb, hwb⟩ := among b (by simp)
      have fresh_b : b.name ∉ l₁.map (·.name) := fun hm => h₁ _ hm _ (by simp) rfl
      have other : a.name ≠ b.name := fun he => ha₂ (he ▸ by simp)
      obtain ⟨same, agree⟩ := before fresh_b
      refine .untouched hb hwb ?_ ?_
      · rw [deployed_append, ← same]
        exact hstep.spares_others ((identified a (by simp)).mono (keys_deployed as _ ds))
          (ids_nodup_deployed ids hs₁) hs₂ other
      · refine SecretLedger.Agree.trans ?_ agree
        have only : c.ActsAll [.application a] _ _ _ := .stopped hstep
        exact only.agree_others fun x hx => by
          obtain rfl := ApplyStep.application.inj (List.mem_singleton.1 hx)
          exact other

/-! ## 4. The whole apply -/

/-- What an apply that fails leaves undone: `w` is the world before and `w'` the world after it,
and `ledger` and `ledger'` are the ledgers. -/
inductive Plan.Interrupted (p : Plan) (activate : Bool) (w w' : World)
    (ledger ledger' : SecretLedger) (es : List Event) : Prop where
  | settings (h : p.clusterAction.action = .update) (same : w'.detail = w.detail)
  | clearing (shrunk : Shrunk w.sites w'.sites)
      (h : (∃ a ∈ p.balancerActions, a.action.deletes) ∨ ∃ a ∈ p.groupActions, a.action.deletes)
  | group {a} (ha : a ∈ p.groupActions) (hc : a.action.creates)
      (absent : ∀ t ∈ w'.sites, t.name ≠ a.name)
  | balancer {a} (ha : a ∈ p.balancerActions) (hc : a.action.creates)
      (absent : ∀ t ∈ w'.sites, t.name = a.groupName → ∀ b ∈ t.balancers, b.name ≠ a.name)
  | applications (left : ApplicationsLeft p (p.mutations activate) activate w.deployments
      w'.deployments ledger ledger' (mutating es))

/-- Saving the ledger does not touch the world. -/
theorem Saves.after_append {p : Progress} {es bs : List Event} {saved : Except Failure Unit}
    (h : Saves p bs saved) (w : World) (cluster : Uuid) :
    w.after cluster (es ++ bs) = w.after cluster es := by
  cases h with
  | unchanged _ => rw [List.append_nil]
  | changed _ reply =>
    simp only [World.after, Part.after_append, effects_append, deployed_append]
    rfl

/-- The applications come after the steps of the other stages, which leave them alone. -/
theorem ApplicationsLeft.append {c : ApplyContext} {p : Plan} {ms ns : List Mutation}
    {activate : Bool} {ds ds' : List Deployment} {ledger middle ledger' : SecretLedger}
    {es fs : List Event} (h : ApplicationsLeft p ns activate ds ds' middle ledger' fs)
    (done : c.Completes ms es) (agree : ∀ n, SecretLedger.Agree n middle ledger) :
    ApplicationsLeft p (ms ++ ns) activate ds ds' ledger ledger' (es ++ fs) := by
  cases h with
  | untouched ha hw same agree' => exact .untouched ha hw same (agree'.trans (agree _))
  | unversioned ha hw only none => exact .unversioned ha hw only none
  | unactivated lost =>
    obtain ⟨requested, all, others, id, r, f, last⟩ := lost
    refine .unactivated ⟨requested, ?_, fun e he => ?_, id, r, f, ?_⟩
    · rw [List.length_append, List.length_append, done.length_eq, all]
    · have nonempty : fs ≠ [] := by
        rintro rfl
        cases last
      rw [List.dropLast_append_of_ne_nil nonempty] at he
      rcases List.mem_append.1 he with he | he
      · exact done.forall₂.2 e he
      · exact others e he
    · rw [List.getLast?_append, last]
      rfl

/-- When the stored ledger is known, saving has not failed. -/
theorem Saves.ok_of_stored {p : Progress} {ledger stored : SecretLedger} {es bs : List Event}
    {saved : Except Failure Unit} (h : Saves p bs saved) (hr : ∀ e ∈ es, e.isRequest)
    (hs : storedAfter ledger (es ++ bs) = some stored) : saved = .ok () := by
  rw [storedAfter_append, storedAfter_requests _ hr, Option.bind_some] at hs
  cases h with
  | unchanged _ => rfl
  | changed _ reply =>
    obtain _ | _ := saved
    · nomatch hs
    · rfl

/-- **What an apply that fails leaves undone.**  The plan is made for a valid configuration from a
snapshot of the world that it is applied to. -/
theorem Plan.interrupted {p : Plan} {desired : ClusterConfig} {live : LiveState}
    {ledger ledger' : SecretLedger} {options : ApplyOptions} {w : World} {paging : Paging}
    {es : List Event} {f : Failure} (context : Planned desired live w.sites p)
    (made : p.MadeFrom desired live ledger) (shown : live.ShowsApplications w.deployments)
    (ids : (w.deployments.map (·.id)).Nodup)
    (h : (execute options desired p ledger).Course es (some (.error f)))
    (hs : w.Serves paging p.cluster.id es) (stored : storedAfter ledger es = some ledger') :
    p.Interrupted options.activate w (w.after p.cluster.id es) ledger ledger' es := by
  rcases execute_cases h with ⟨-, ho⟩ | ⟨as, bs, r, q, saved, rfl, hsteps, hsaves, ho⟩
  · cases ho
  obtain rfl := stored_of_saves hsteps hsaves stored
  obtain rfl := hsaves.ok_of_stored hsteps.requests stored
  rw [hsaves.after_append]
  have served := (World.serves_append.1 hs).1
  obtain g | u := r
  swap
  · cases ho
  -- the stages, the last one first
  rcases hsteps.append_failed with stopped₅ | ⟨infrastructure, applying, middle, rfl, h₅, h₆⟩
  · rcases stopped₅.append_failed with stopped₄ | ⟨before, creating, middle, rfl, done₄, h₅⟩
    · rcases stopped₄.append_failed with h₃ | ⟨clearing, creating, middle, rfl, h₃, h₄⟩
      · have clearing : (p.context options desired).ActsAll p.clearing _ _ _ := h₃
        rcases clearing.clearing_failed w.detail with ⟨hu, same⟩ | ordered
        · exact .settings hu same
        · exact .clearing (clearing.shrinks w.sites) ordered
      · have cleared : (p.context options desired).ActsAll p.clearing _ _ _ := h₃
        obtain ⟨-, he₃⟩ := cleared.clears
        obtain ⟨a, ha, hc, absent⟩ := context.groups_failed h₄
        refine .group ha hc ?_
        rw [World.after, effects_append]
        exact he₃ w.sites ▸ absent
    · obtain ⟨clearing, groups, middle', rfl, h₃, h₄⟩ := done₄.append_ok
      have cleared : (p.context options desired).ActsAll p.clearing _ _ _ := h₃
      obtain ⟨hc₃, he₃⟩ := cleared.clears
      obtain ⟨newGroups, makes, hc₄, he₄⟩ := h₄.creates_groups
      have middle_sites : effects p.cluster.id w.sites (clearing ++ groups) =
          p.kept w.sites ++ newGroups := by
        rw [effects_append]
        exact (he₃ w.sites).symm ▸ he₄ _
      obtain ⟨served₁, served₂⟩ := serves_append.1 served.sites
      have nodup := ids_nodup_effects context.distinct.ids served₁
      rw [middle_sites] at nodup served₂
      have created : middle.created = (newGroups.map fun s => (s.name, s.id)).reverse := by
        rw [hc₄, hc₃, List.append_nil]
      obtain ⟨a, ha, hc, absent⟩ := context.balancers_failed (c := p.context options desired)
        makes created nodup h₅ served₂
      refine .balancer ha hc ?_
      rw [World.after, effects_append]
      exact middle_sites.symm ▸ absent
  · have others := p.application_notMem_infrastructure
    have same := h₅.spares_applications others p.cluster.id w.deployments
    obtain ⟨-, served₂⟩ := serves_deployed.1 served.deployments
    rw [same] at served₂
    have left := (h₆.applications_failed made context.sound shown ids served₂).append
      (h₅.follows.2.1 _ rfl) fun n => h₅.agree_others fun a ha => absurd ha (others a)
    rw [← List.flatMap_append, ← mutating_append] at left
    refine .applications ?_
    rw [World.after, deployed_append, same, mutating_append, hsaves.mutating_eq_nil,
      List.append_nil, ← p.flatMap_script]
    exact left

end Converge
