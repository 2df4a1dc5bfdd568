import Converge.Proofs.Apply.Script
import Converge.Proofs.Cluster.Deployment
import Converge.Proofs.Ledger.Rounds
/-!
# What an apply does to the applications

Only the steps for applications touch the applications and the ledger, and each of them touches
what has the name of its action and nothing else.  That a version is written for the right
application is seen from the identifiers: one that comes with the plan belongs to an application of
that name (`ApplicationAction.Identified`), and one that is given out is new.

A step for an application that fails has done nothing (`Untouched`), or it has created the
application and no version of it, or it has done all but activate the version.

Main statements: `ApplyContext.ActsAll.spares_others`, `ApplyContext.ActsAll.agree_others` and
`ApplyContext.Acts.application_failed`.
-/

namespace Converge

open Deployment

/-- An action for an application that lives has the identifier of one of its name. -/
def ApplicationAction.Identified (a : ApplicationAction) (ds : List Deployment) : Prop :=
  a.action ≠ .create → ∃ id, a.applicationId = some id ∧ (id, a.name) ∈ keys ds

theorem ApplicationAction.Identified.mono {a : ApplicationAction} {ds more : List Deployment}
    (h : a.Identified ds) (hk : keys ds <+: keys more) : a.Identified more := by
  intro hc
  obtain ⟨id, hi, hm⟩ := h hc
  exact ⟨id, hi, hk.subset hm⟩

/-- Whether a change is one of the settings or the infrastructure. -/
def Mutation.isInfrastructure : Mutation → Bool
  | .createApplication _ | .createVersion _ | .activateVersion _ => false
  | _ => true

/-- What is created under another name is not found under this one. -/
theorem Deployment.named_append_fresh {n name : String} (hn : name ≠ n) (id cluster : Uuid)
    (ds : List Deployment) : named n (ds ++ [fresh id name cluster]) = named n ds := by
  have other : named n [fresh id name cluster] = [] :=
    List.filter_cons_of_neg fun h => hn (of_decide_eq_true h)
  unfold named at other ⊢
  rw [List.filter_append, other, List.append_nil]

namespace ApplyContext

variable {c : ApplyContext} {p q : Progress} {es : List Event} {ds : List Deployment}
  {paging : Paging} {a : ApplicationAction} {n : String}

/-! ## 1. Steps for the infrastructure -/

theorem Asks.deploy_eq {m : Mutation} {e : Event} (h : c.Asks m e) (hm : m.isInfrastructure)
    (cluster : Uuid) (ds : List Deployment) : e.deploy cluster ds = ds := by
  cases h with
  | createApplication _ => nomatch hm
  | createVersion _ _ _ _ => nomatch hm
  | activateVersion _ _ _ => nomatch hm
  | _ => rfl

/-- The steps for the settings and the infrastructure leave the applications alone. -/
theorem ActsAll.spares_applications {steps : List ApplyStep}
    {out : Option (Except Failure Unit × Progress)} (hs : ∀ a, .application a ∉ steps)
    (h : c.ActsAll steps p es out) (cluster : Uuid) (ds : List Deployment) :
    deployed cluster ds es = ds := by
  have infrastructure : ∀ m ∈ steps.flatMap (·.mutations c.activate), m.isInfrastructure := by
    intro m hm
    obtain ⟨s, hsteps, hm⟩ := List.mem_flatMap.1 hm
    cases s with
    | application a => exact absurd hsteps (hs a)
    | _ => obtain rfl := List.mem_singleton.1 hm; rfl
  have still : ∀ e ∈ es, e.deploy cluster ds = ds := by
    intro e he
    rcases h.asked e he with reads | ⟨m, hm, asks⟩
    · exact Event.deploy_of_reads reads cluster ds
    · exact asks.deploy_eq (infrastructure m hm) cluster ds
  clear h
  induction es with
  | nil => rfl
  | cons e rest ih =>
    obtain ⟨he, hrest⟩ := List.forall_mem_cons.1 still
    rw [deployed_cons, he, ih hrest]

/-- What the ledger says of an application changes only with the steps for it. -/
theorem ActsAll.agree_others {steps : List ApplyStep} {r : Except Failure Unit}
    (h : c.ActsAll steps p es (some (r, q))) (hn : ∀ a, .application a ∈ steps → a.name ≠ n) :
    SecretLedger.Agree n q.ledger p.ledger := by
  have others : ∀ w ∈ writings c.desired (steps.flatMap (·.mutations c.activate)) (mutating es),
      w.1 ≠ n := by
    intro w hw
    obtain ⟨⟨m, e⟩, hz, hw⟩ := List.mem_filterMap.1 hw
    obtain ⟨s, hs, hm⟩ := List.mem_flatMap.1 (List.of_mem_zip hz).1
    have hw : writing? c.desired m e = some w := hw
    unfold writing? at hw
    split at hw
    next a _ _ _ _ =>
      obtain ⟨v, -, rfl⟩ := Option.map_eq_some_iff.1 hw
      obtain rfl := ApplyStep.eq_of_mem_mutations hm
      exact hn a hs
    next => cases hw
  rw [h.ledger.ledger]
  exact SecretLedger.agree_recordAll_others others

/-! ## 2. The target of an action -/

/-- Finding the target creates an application, or it changes nothing. -/
theorem Targets.deployed_eq {out : Option (Except Failure (Uuid × Option ApplicationVersion) ×
    Progress)} (h : c.Targets a p es out) :
    (∀ ds, deployed c.cluster.id ds es = ds) ∨ a.action = .create ∧ ∃ id base q,
      out = some (.ok (id, base), q) ∧
      es = [.request (.createApplication ⟨a.name, c.cluster.id⟩) (.ok id)] := by
  cases h with
  | @created id ha => exact .inr ⟨ha, id, _, _, rfl, rfl⟩
  | refused _ => exact .inl fun _ => rfl
  | unidentified _ _ => exact .inl fun _ => rfl
  | based _ _ hb =>
    exact .inl fun _ => deployed_of_reads ((Observe.reads_latestVersion _ _).only _ _ hb)

theorem deployed_created (id : Uuid) (name : String) (cluster : Uuid) (ds : List Deployment) :
    deployed cluster ds [.request (.createApplication ⟨name, cluster⟩) (.ok id)] =
      ds ++ [fresh id name cluster] :=
  if_pos rfl

theorem Targets.spares_others {out : Option (Except Failure (Uuid × Option ApplicationVersion) ×
    Progress)} (h : c.Targets a p es out) (hn : a.name ≠ n) (ds : List Deployment) :
    named n (deployed c.cluster.id ds es) = named n ds := by
  rcases h.deployed_eq with same | ⟨-, id, -, -, -, rfl⟩
  · rw [same]
  · rw [deployed_created, named_append_fresh hn]

/-- The target that is found has the name of the action, and no other application has its
identifier. -/
theorem Targets.owned {id : Uuid} {base : Option ApplicationVersion}
    (h : c.Targets a p es (some (.ok (id, base), q))) (hi : a.Identified ds)
    (ids : (ds.map (·.id)).Nodup)
    (hs : (Part.applications paging c.cluster.id).Serves ds es) :
    ∀ n, (id, n) ∈ keys (deployed c.cluster.id ds es) → n = a.name := by
  intro n hm
  have nodup := ids_nodup_deployed ids hs
  have own : (id, a.name) ∈ keys (deployed c.cluster.id ds es) := by
    generalize ho : some (Except.ok (id, base), q) = out at h
    cases h with
    | created _ =>
      cases ho
      rw [deployed_created, keys, List.map_append]
      exact List.mem_append_right _ (List.mem_singleton.2 rfl)
    | refused _ => cases ho
    | unidentified _ _ => cases ho
    | @based id' _ o hc hid hb =>
      obtain _ | _ | base' := o <;> cases ho
      obtain ⟨id'', hid', hmem⟩ := hi hc
      obtain rfl := Option.some.inj (hid.symm.trans hid')
      exact (keys_deployed _ _ _).subset hmem
  obtain ⟨d, hd, rfl, rfl⟩ := mem_keys_iff.1 hm
  obtain ⟨d', hd', hid, hname⟩ := mem_keys_iff.1 own
  obtain rfl := List.inj_on_of_nodup_map nodup hd' hd hid
  exact hname

/-! ## 3. Steps for applications -/

/-- A step for an application leaves those of other names alone. -/
theorem Acts.spares_others {out : Option (Except Failure Unit × Progress)}
    (h : c.Acts (.application a) p es out) (hi : a.Identified ds) (ids : (ds.map (·.id)).Nodup)
    (hs : (Part.applications paging c.cluster.id).Serves ds es) (hn : a.name ≠ n) :
    named n (deployed c.cluster.id ds es) = named n ds := by
  -- the changes to the target, which has the name of the action
  have changed {f : Deployment → Deployment} (hf : Keeps f) {id : Uuid} {ds' : List Deployment}
      (own : ∀ m, (id, m) ∈ keys ds' → m = a.name) : named n (change id f ds') = named n ds' := by
    refine named_change hf fun d hd hid hname => hn ?_
    exact (own d.name (mem_keys_iff.2 ⟨d, hd, hid, rfl⟩)).symm.trans hname
  cases h with
  | applicationUnknown _ => rfl
  | applicationUntargeted _ ht _ => exact ht.spares_others hn ds
  | versionRefused _ ht =>
    rw [deployed_append, ← ht.spares_others hn ds]
    rfl
  | @versionKept _ _ w fs id base _ version _ ht _ =>
    have own := ht.owned hi ids (serves_deployed.1 hs).1
    rw [deployed_append, ← ht.spares_others hn ds]
    exact changed (keeps_adding _ _) own
  | @versionActivated _ _ w fs id base _ version _ ht _ reply =>
    have own := ht.owned hi ids (serves_deployed.1 hs).1
    have written : named n (change id (·.adding version (w.spec.request base))
        (deployed c.cluster.id ds fs)) = named n ds :=
      (changed (keeps_adding _ _) own).trans (ht.spares_others hn ds)
    rw [deployed_append, ← written]
    obtain _ | _ := reply
    · rfl
    · refine changed (keeps_serving _) fun m hm => own m ?_
      exact keys_change (keeps_adding version (w.spec.request base)) id ▸ hm

/-- **Steps for applications leave those of other names alone**, by induction over the steps: the
applications keep their identifiers and names, so that each step finds its own. -/
theorem ActsAll.spares_others {u : Unit} : ∀ {l : List ApplicationAction} {p : Progress}
    {es : List Event} {ds : List Deployment},
    c.ActsAll (l.map .application) p es (some (.ok u, q)) →
    (∀ a ∈ l, a.Identified ds) → (ds.map (·.id)).Nodup →
    (Part.applications paging c.cluster.id).Serves ds es → n ∉ l.map (·.name) →
    named n (deployed c.cluster.id ds es) = named n ds
  | [], _, _, _, h, _, _, _, _ => by
    cases h
    rfl
  | a :: rest, _, _, ds, h, hi, ids, hs, hn => by
    cases h with
    | @cons _ _ _ _ as bs _ ha hr =>
      obtain ⟨hia, hirest⟩ := List.forall_mem_cons.1 hi
      obtain ⟨hsa, hsrest⟩ := serves_deployed.1 hs
      rw [List.map_cons, List.mem_cons, not_or] at hn
      have later := hr.spares_others (fun b hb => (hirest b hb).mono (keys_deployed as _ ds))
        (ids_nodup_deployed ids hsa) hsrest hn.2
      rw [deployed_append, later]
      exact ha.spares_others hia ids hsa (Ne.symm hn.1)

/-- What a step for an application leaves that fails. -/
inductive Left (c : ApplyContext) (a : ApplicationAction) (p q : Progress) (es : List Event) :
    Prop where
  | untouched (hl : q.ledger = p.ledger) (hd : ∀ ds, deployed c.cluster.id ds es = ds)
  | unversioned (ha : a.action = .create) (id : Uuid)
      (hd : ∀ ds, deployed c.cluster.id ds es = ds ++ [fresh id a.name c.cluster.id])
  | unactivated (hy : c.activate = true)
      (all : (mutating es).length = (a.mutations c.activate).length) {id r f}
      (last : (mutating es).getLast? = some (.request (.updateApplication id r) (.error f)))

/-- **What is left when a step for an application fails.** -/
theorem Acts.application_failed {f : Failure}
    (h : c.Acts (.application a) p es (some (.error f, q))) : c.Left a p q es := by
  generalize ho : some (Except.error f, q) = out at h
  cases h with
  | applicationUnknown _ =>
    cases ho
    exact .untouched rfl fun _ => rfl
  | @applicationUntargeted _ _ _ _ o _ ht hn =>
    obtain _ | ⟨_ | _, _⟩ := o <;> cases ho
    rcases ht.deployed_eq with same | ⟨-, id, base, q', hq, -⟩
    · exact .untouched ht.sameLedger.1 same
    · nomatch hq
  | @versionRefused _ _ w fs id base _ _ _ ht =>
    cases ho
    rcases ht.deployed_eq with same | ⟨ha, id', _, _, hq, rfl⟩
    · refine .untouched ht.sameLedger.1 fun ds => ?_
      rw [deployed_append, same]
      rfl
    · refine .unversioned ha id' fun ds => ?_
      rw [deployed_append, deployed_created]
      rfl
  | versionKept _ _ _ => nomatch ho
  | @versionActivated _ _ w fs id base _ version _ ht hy reply =>
    obtain _ | _ := reply <;> cases ho
    have two : mutating [.request (.createVersion id (w.spec.request base)) (.ok version),
        .request (.updateApplication id ⟨some version⟩) (.error f)] =
        [.request (.createVersion id (w.spec.request base)) (.ok version),
          .request (.updateApplication id ⟨some version⟩) (.error f)] := rfl
    have created := ((ht.attempts.2.1 _ _ rfl).1).length_eq
    have last : (mutating (fs ++ [.request (.createVersion id (w.spec.request base)) (.ok version),
        .request (.updateApplication id ⟨some version⟩) (.error f)])).getLast? =
        some (.request (.updateApplication id ⟨some version⟩) (.error f)) := by
      rw [mutating_append, two, List.getLast?_append]
      rfl
    refine .unactivated hy ?_ last
    rw [mutating_append, two, List.length_append, ← created, creations,
      ApplicationAction.mutations, hy]
    simp

end ApplyContext

/-- Saving the ledger does not touch the applications. -/
theorem Saves.deployed_eq {p : Progress} {es : List Event} {saved : Except Failure Unit}
    (h : Saves p es saved) (cluster : Uuid) (ds : List Deployment) :
    deployed cluster ds es = ds := by
  cases h <;> rfl

end Converge
