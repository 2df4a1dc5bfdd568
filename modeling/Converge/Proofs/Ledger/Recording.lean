import Converge.Ledger.Recording
import Converge.Proofs.Data.Keyed
/-!
# What the ledger says after recording

Each operation on the ledger is described by what it does to the two look-ups, `password?` and
`env?`: it writes one of them under one application and leaves everything else alone.  Recording a
spec is three such writes one after the other -- the password, the variables that are secret no
more, the secret variables that have a version -- and `env?_record` says what remains of them.

Main statements: `password?_record`, `env?_record` and `record_changed_iff` (recording says that
something has changed exactly when it has).
-/

namespace Converge

/-! ## 1. Maps made of lists -/

theorem SortedMap.get?_foldl_insert (k : String) : ∀ (es : List (String × α)) (m : SortedMap α),
    (es.foldl (fun m e => m.insert e.1 e.2) m).get? k =
      ((es.reverse.find? (·.1 = k)).map (·.2)).or (m.get? k)
  | [], m => by simp
  | e :: rest, m => by
    rw [List.foldl_cons, SortedMap.get?_foldl_insert k rest, SortedMap.get?_insert,
      List.reverse_cons, List.find?_append]
    cases List.find? (·.1 = k) rest.reverse with
    | some x => simp
    | none =>
      by_cases hk : k = e.1
      · simp [hk]
      · simp [hk, Ne.symm hk]

/-- In a map that is made of a list, the last of several entries under one name counts. -/
theorem SortedMap.get?_ofList (es : List (String × α)) (k : String) :
    (SortedMap.ofList es).get? k = (es.reverse.find? (·.1 = k)).map (·.2) := by
  rw [SortedMap.ofList, SortedMap.get?_foldl_insert, SortedMap.get?_empty, Option.or_none]

theorem SortedMap.get?_of_isEmpty {m : SortedMap α} (h : m.isEmpty) (k : String) :
    m.get? k = none := by
  have : m.entries = [] := by simpa [SortedMap.isEmpty] using h
  rw [SortedMap.get?, this]
  rfl

theorem lookup_eq_some_of_mem {l : List (String × α)} (hl : l.Pairwise (fun a b => a.1 < b.1))
    {e : String × α} (he : e ∈ l) : l.lookup e.1 = some e.2 := by
  induction l with
  | nil => nomatch he
  | cons b rest ih =>
    rw [List.pairwise_cons] at hl
    rw [SortedMap.lookup_cons_ite]
    rcases List.mem_cons.1 he with rfl | he
    · rw [if_pos rfl]
    · have hne : e.1 ≠ b.1 := fun h => String.lt_irrefl _ (h ▸ hl.1 e he)
      rw [if_neg hne, ih hl.2 he]

/-- The entries of a map are what it answers. -/
theorem SortedMap.mem_entries_iff {m : SortedMap α} {k : String} {a : α} :
    (k, a) ∈ m.entries ↔ m.get? k = some a := by
  constructor
  · exact fun h => lookup_eq_some_of_mem m.sorted h
  · intro h
    obtain ⟨l₁, l₂, hl, -⟩ := List.lookup_eq_some_iff.1 h
    rw [hl]
    simp

theorem SortedMap.mem_keys_iff {m : SortedMap α} {k : String} :
    k ∈ m.keys ↔ (m.get? k).isSome := by
  rw [SortedMap.keys, List.mem_map]
  constructor
  · rintro ⟨⟨_, a⟩, h, rfl⟩
    rw [SortedMap.mem_entries_iff.1 h]
    rfl
  · intro h
    obtain ⟨a, ha⟩ := Option.isSome_iff_exists.1 h
    exact ⟨(k, a), SortedMap.mem_entries_iff.2 ha, rfl⟩

/-- The last secret variable of a spec with a key. -/
def ApplicationSpec.lastSecret? (spec : ApplicationSpec) (key : String) : Option EnvEntry :=
  (spec.env.filter (·.secret)).reverse.find? (·.key = key)

theorem ApplicationSpec.get?_secretVersions (spec : ApplicationSpec) (key : String) :
    spec.secretVersions.get? key = (spec.lastSecret? key).map (·.secretVersion) := by
  rw [ApplicationSpec.secretVersions, SortedMap.get?_ofList, ← List.map_reverse, List.find?_map,
    Option.map_map]
  rfl

theorem ApplicationSpec.lastSecret?_mem {spec : ApplicationSpec} {key : String} {e : EnvEntry}
    (h : spec.lastSecret? key = some e) : e ∈ spec.env ∧ e.secret ∧ e.key = key := by
  have hk : e.key = key := by simpa using List.find?_some h
  have hm := List.mem_filter.1 (List.mem_reverse.1 (List.mem_of_find?_eq_some h))
  exact ⟨hm.1, hm.2, hk⟩

/-- Where no key is listed twice, a secret variable is the last one with its key. -/
theorem ApplicationSpec.lastSecret?_eq_some {spec : ApplicationSpec} {e : EnvEntry}
    (distinct : (spec.env.map (·.key)).Nodup) (he : e ∈ spec.env) (secret : e.secret) :
    spec.lastSecret? e.key = some e := by
  have kept : ((spec.env.filter (·.secret)).reverse.map (·.key)).Nodup := by
    rw [List.map_reverse, List.nodup_reverse]
    exact distinct.sublist (List.filter_sublist.map _)
  refine (find?_key_eq_some_iff kept).2 ⟨?_, rfl⟩
  exact List.mem_reverse.2 (List.mem_filter.2 ⟨he, secret⟩)

/-! ## 2. Single writes -/

namespace SecretLedger

variable (l : SecretLedger) (app : String)

theorem password?_put (e : LedgerEntry) (a : String) :
    (l.put app e).password? a = if a = app then e.passwordVersion else l.password? a := by
  unfold put password?
  by_cases he : e.isEmpty
  · have hp : e.passwordVersion = none := by
      simp only [LedgerEntry.isEmpty, Bool.and_eq_true, Option.isNone_iff_eq_none] at he
      exact he.1
    by_cases ha : a = app <;> simp [he, ha, hp]
  · by_cases ha : a = app <;> simp [he, ha]

theorem env?_put (e : LedgerEntry) (a k : String) :
    (l.put app e).env? a k = if a = app then e.envVersions.get? k else l.env? a k := by
  unfold put env?
  by_cases he : e.isEmpty
  · have hp : e.envVersions.get? k = none := by
      simp only [LedgerEntry.isEmpty, Bool.and_eq_true] at he
      exact SortedMap.get?_of_isEmpty he.2 k
    by_cases ha : a = app <;> simp [he, ha, hp]
  · by_cases ha : a = app <;> simp [he, ha]

/-- What is put for an application leaves the entries of the others as they are. -/
theorem get?_put_of_ne (e : LedgerEntry) {a : String} (ha : a ≠ app) :
    (l.put app e).applications.get? a = l.applications.get? a := by
  unfold put
  by_cases he : e.isEmpty <;> simp [he, ha]

theorem passwordVersion_entry : (l.entry app).passwordVersion = l.password? app := by
  unfold entry password?
  cases l.applications.get? app <;> rfl

theorem get?_entry (k : String) : (l.entry app).envVersions.get? k = l.env? app k := by
  unfold entry env?
  cases l.applications.get? app <;> rfl

/-- The password of the application, and of no other, is what was set. -/
theorem password?_setPassword (version : Option Int64) (a : String) :
    (l.setPassword app version).1.password? a = if a = app then version else l.password? a := by
  unfold setPassword
  split
  next h =>
    by_cases ha : a = app
    · rw [if_pos ha, ha]
      exact h
    · rw [if_neg ha]
  next h => exact l.password?_put app _ a

theorem get?_setPassword_of_ne (version : Option Int64) {a : String} (ha : a ≠ app) :
    (l.setPassword app version).1.applications.get? a = l.applications.get? a := by
  unfold setPassword
  split
  next => rfl
  next => exact l.get?_put_of_ne app _ ha

theorem env?_setPassword (version : Option Int64) (a k : String) :
    (l.setPassword app version).1.env? a k = l.env? a k := by
  unfold setPassword
  split
  next => rfl
  next =>
    rw [env?_put, get?_entry]
    by_cases ha : a = app <;> simp [ha]

theorem password?_setEnv (key : String) (version : Option Int64) (a : String) :
    (l.setEnv app key version).1.password? a = l.password? a := by
  unfold setEnv
  split
  next => rfl
  next =>
    rw [password?_put, passwordVersion_entry]
    by_cases ha : a = app <;> simp [ha]

/-- The variable of the application, and no other, is what was set. -/
theorem env?_setEnv (key : String) (version : Option Int64) (a k : String) :
    (l.setEnv app key version).1.env? a k =
      if a = app ∧ k = key then version else l.env? a k := by
  unfold setEnv
  split
  next h =>
    by_cases hak : a = app ∧ k = key
    · rw [if_pos hak, hak.1, hak.2]
      exact h
    · rw [if_neg hak]
  next h =>
    rw [env?_put]
    by_cases ha : a = app
    · subst ha
      cases version with
      | none => by_cases hk : k = key <;> simp [hk, get?_entry]
      | some v => by_cases hk : k = key <;> simp [hk, get?_entry]
    · simp [ha]

theorem get?_setEnv_of_ne (key : String) (version : Option Int64) {a : String} (ha : a ≠ app) :
    (l.setEnv app key version).1.applications.get? a = l.applications.get? a := by
  unfold setEnv
  split
  next => rfl
  next => exact l.get?_put_of_ne app _ ha

/-! ## 3. Several writes -/

theorem password?_setEnvs (a : String) : ∀ (es : List (String × Option Int64)) (l : SecretLedger),
    (setEnvs app es l).1.password? a = l.password? a
  | [], _ => rfl
  | (key, version) :: rest, l => by
    rw [setEnvs]
    exact (password?_setEnvs a rest _).trans (l.password?_setEnv app key version a)

theorem get?_setEnvs_of_ne {a : String} (ha : a ≠ app) :
    ∀ (es : List (String × Option Int64)) (l : SecretLedger),
      (setEnvs app es l).1.applications.get? a = l.applications.get? a
  | [], _ => rfl
  | (key, version) :: rest, l => by
    rw [setEnvs]
    exact (get?_setEnvs_of_ne ha rest _).trans (l.get?_setEnv_of_ne app key version ha)

/-- A variable that is not among those that are set keeps its version. -/
theorem env?_setEnvs_of_not_mem {k : String} : ∀ {es : List (String × Option Int64)}
    {l : SecretLedger}, (∀ e ∈ es, e.1 ≠ k) → (setEnvs app es l).1.env? app k = l.env? app k
  | [], _, _ => rfl
  | (key, version) :: rest, l, h => by
    obtain ⟨hk, hrest⟩ := List.forall_mem_cons.1 h
    rw [setEnvs]
    refine (env?_setEnvs_of_not_mem hrest).trans ?_
    rw [env?_setEnv, if_neg fun h => hk h.2.symm]

/-- A variable that is set to one version only has that version. -/
theorem env?_setEnvs_of_mem {k : String} {v : Option Int64} :
    ∀ {es : List (String × Option Int64)} {l : SecretLedger},
      (∀ e ∈ es, e.1 = k → e.2 = v) → (k, v) ∈ es ∨ l.env? app k = v →
      (setEnvs app es l).1.env? app k = v
  | [], _, _, h => h.elim (fun h => nomatch h) id
  | (key, version) :: rest, l, hv, h => by
    obtain ⟨hhead, hrest⟩ := List.forall_mem_cons.1 hv
    rw [setEnvs]
    refine env?_setEnvs_of_mem hrest ?_
    rw [env?_setEnv]
    by_cases hk : k = key
    · rw [if_pos ⟨rfl, hk⟩]
      exact .inr (hhead hk.symm)
    · rw [if_neg fun h => hk h.2]
      rcases h with h | h
      · rcases List.mem_cons.1 h with h | h
        · exact absurd (Prod.mk.inj h).1 hk
        · exact .inl h
      · exact .inr h

/-! ## 4. Recording -/

/-- After recording, the password of the application is that of the spec. -/
theorem password?_record (spec : ApplicationSpec) (a : String) :
    (l.record app spec).1.password? a =
      if a = app then spec.registryPasswordVersion else l.password? a := by
  simp only [record]
  rw [password?_setEnvs, password?_setEnvs, password?_setPassword]

/-- Recording leaves the entries of the other applications as they are. -/
theorem get?_record_of_ne (spec : ApplicationSpec) {a : String} (ha : a ≠ app) :
    (l.record app spec).1.applications.get? a = l.applications.get? a := by
  simp only [record]
  rw [get?_setEnvs_of_ne app ha, get?_setEnvs_of_ne app ha, get?_setPassword_of_ne l app _ ha]

theorem env?_record_other (spec : ApplicationSpec) {a : String} (ha : a ≠ app) (k : String) :
    (l.record app spec).1.env? a k = l.env? a k := by
  rw [env?, env?, get?_record_of_ne l app spec ha]

theorem mem_staleKeys_iff {versions : SortedMap (Option Int64)} {k : String} :
    k ∈ l.staleKeys app versions ↔ (l.env? app k).isSome ∧ versions.get? k = none := by
  rw [staleKeys, List.mem_filter, SortedMap.mem_keys_iff, get?_entry, Option.isNone_iff_eq_none]

/-- Forgetting what is stale leaves the variables that the map has, and no other. -/
theorem env?_forgotten (versions : SortedMap (Option Int64)) (k : String) :
    (setEnvs app ((l.staleKeys app versions).map fun key => (key, none)) l).1.env? app k =
      if versions.get? k = none then none else l.env? app k := by
  have stale {e : String × Option Int64}
      (he : e ∈ (l.staleKeys app versions).map fun key => (key, none)) :
      e.2 = none ∧ versions.get? e.1 = none := by
    obtain ⟨key, hkey, rfl⟩ := List.mem_map.1 he
    exact ⟨rfl, ((l.mem_staleKeys_iff app).1 hkey).2⟩
  split
  next missing =>
    refine env?_setEnvs_of_mem app (fun e he _ => (stale he).1) ?_
    cases recorded : l.env? app k with
    | none => exact .inr rfl
    | some v =>
      have hk := (l.mem_staleKeys_iff app).2 ⟨Option.isSome_of_eq_some recorded, missing⟩
      exact .inl (List.mem_map.2 ⟨k, hk, rfl⟩)
  next present => exact env?_setEnvs_of_not_mem app fun e he hk => present (hk ▸ (stale he).2)

/-- Setting the versions of a map sets the variables that it gives one, and no other. -/
theorem env?_sent (versions : SortedMap (Option Int64)) (k : String) :
    (setEnvs app (versions.entries.filter (·.2.isSome)) l).1.env? app k =
      (versions.get? k).join.or (l.env? app k) := by
  have sent {e : String × Option Int64} (he : e ∈ versions.entries.filter (·.2.isSome)) :
      (versions.get? e.1).join = e.2 ∧ e.2.isSome := by
    obtain ⟨he, hsome⟩ := List.mem_filter.1 he
    exact ⟨by rw [SortedMap.mem_entries_iff.1 he, Option.join_some], hsome⟩
  cases hv : (versions.get? k).join with
  | none =>
    refine env?_setEnvs_of_not_mem app fun e he hk => ?_
    obtain ⟨version, hsome⟩ := sent he
    rw [← version, hk, hv] at hsome
    nomatch hsome
  | some v =>
    refine env?_setEnvs_of_mem app (fun e he hk => ?_) (.inl (List.mem_filter.2 ⟨?_, rfl⟩))
    · rw [← (sent he).1, hk, hv]
      rfl
    · exact SortedMap.mem_entries_iff.2 (Option.join_eq_some_iff.1 hv)

/-- **What is recorded of a variable**: the version of the last secret entry with its key; what was
recorded before, when that entry has no version; nothing, when there is no such entry. -/
theorem env?_record (spec : ApplicationSpec) (k : String) :
    (l.record app spec).1.env? app k =
      match spec.lastSecret? k with
      | none => none
      | some e => e.secretVersion.or (l.env? app k) := by
  simp only [record]
  rw [env?_sent, env?_forgotten, env?_setPassword, spec.get?_secretVersions]
  cases spec.lastSecret? k <;> rfl

theorem setPassword_unchanged {l : SecretLedger} {app : String} {version : Option Int64}
    (h : (l.setPassword app version).2 = false) : (l.setPassword app version).1 = l := by
  unfold setPassword at h ⊢
  split at h <;> simp_all

theorem setEnvs_unchanged {app : String} : ∀ {es : List (String × Option Int64)}
    {l : SecretLedger}, (setEnvs app es l).2 = false → (setEnvs app es l).1 = l
  | [], _, _ => rfl
  | (key, version) :: rest, l, h => by
    rw [setEnvs] at h ⊢
    obtain ⟨hone, hothers⟩ := Bool.or_eq_false_iff.1 h
    have same : (l.setEnv app key version).1 = l := by
      unfold setEnv at hone ⊢
      split at hone <;> simp_all
    exact (setEnvs_unchanged hothers).trans same

/-- Recording that says nothing has changed has changed nothing. -/
theorem record_unchanged {l : SecretLedger} {app : String} {spec : ApplicationSpec}
    (h : (l.record app spec).2 = false) : (l.record app spec).1 = l := by
  simp only [record, Bool.or_eq_false_iff] at h ⊢
  obtain ⟨⟨hp, hd⟩, hs⟩ := h
  rw [setEnvs_unchanged hs, setEnvs_unchanged hd, setPassword_unchanged hp]

/-! ## 5. What recording says of itself -/

/-- Whether two ledgers say the same of an application. -/
def Agree (app : String) (l m : SecretLedger) : Prop :=
  l.password? app = m.password? app ∧ ∀ k, l.env? app k = m.env? app k

theorem Agree.symm {app : String} {l m : SecretLedger} (h : Agree app l m) : Agree app m l :=
  ⟨h.1.symm, fun k => (h.2 k).symm⟩

theorem Agree.trans {app : String} {l m n : SecretLedger} (h : Agree app l m)
    (h' : Agree app m n) : Agree app l n :=
  ⟨h.1.trans h'.1, fun k => (h.2 k).trans (h'.2 k)⟩

/-- Recording leaves the other applications alone. -/
theorem agree_record_other (spec : ApplicationSpec) {a : String} (ha : a ≠ app) :
    Agree a (l.record app spec).1 l :=
  ⟨by rw [password?_record, if_neg ha], env?_record_other l app spec ha⟩

/-- Variables that already have the versions to which they are set stay as they are. -/
theorem setEnvs_of_same {app : String} : ∀ {es : List (String × Option Int64)} {l : SecretLedger},
    (∀ e ∈ es, l.env? app e.1 = e.2) → setEnvs app es l = (l, false)
  | [], _, _ => rfl
  | (key, version) :: rest, l, h => by
    obtain ⟨hkey, hrest⟩ := List.forall_mem_cons.1 h
    have same : l.setEnv app key version = (l, false) := if_pos hkey
    rw [setEnvs, same]
    dsimp only
    rw [setEnvs_of_same hrest]
    rfl

/-- **Recording what is recorded already is nothing**: when the ledger says the same of the
application afterwards, it is the same ledger, and nothing is said to have changed. -/
theorem record_of_agree {l : SecretLedger} {app : String} {spec : ApplicationSpec}
    (h : Agree app (l.record app spec).1 l) : l.record app spec = (l, false) := by
  obtain ⟨hpassword, henv⟩ := h
  have password : l.setPassword app spec.registryPasswordVersion = (l, false) := by
    refine if_pos ?_
    rw [← hpassword, password?_record, if_pos rfl]
  have dropped : ∀ e ∈ (l.staleKeys app spec.secretVersions).map fun key => (key, none),
      l.env? app e.1 = e.2 := by
    intro e he
    obtain ⟨key, hkey, rfl⟩ := List.mem_map.1 he
    have unsent := ((l.mem_staleKeys_iff app).1 hkey).2
    rw [spec.get?_secretVersions, Option.map_eq_none_iff] at unsent
    rw [← henv, env?_record, unsent]
  have sent : ∀ e ∈ spec.secretVersions.entries.filter (·.2.isSome), l.env? app e.1 = e.2 := by
    rintro ⟨key, version⟩ he
    obtain ⟨he, hsome⟩ := List.mem_filter.1 he
    have hget := SortedMap.mem_entries_iff.1 he
    rw [spec.get?_secretVersions] at hget
    obtain ⟨s, hlast, rfl⟩ := Option.map_eq_some_iff.1 hget
    rw [← henv, env?_record, hlast]
    exact Option.or_of_isSome hsome
  unfold record
  rw [password]
  dsimp only
  rw [setEnvs_of_same dropped]
  dsimp only
  rw [setEnvs_of_same sent]
  rfl

/-- **Recording says that it has changed the ledger exactly when it has.** -/
theorem record_changed_iff {l : SecretLedger} {app : String} {spec : ApplicationSpec} :
    (l.record app spec).2 = true ↔ (l.record app spec).1 ≠ l := by
  constructor
  · intro changed same
    have agree : Agree app (l.record app spec).1 l := ⟨by rw [same], fun k => by rw [same]⟩
    rw [record_of_agree agree] at changed
    nomatch changed
  · intro different
    cases hc : (l.record app spec).2 with
    | true => rfl
    | false => exact absurd (record_unchanged hc) different

/-- A spec that is recorded a second time changes nothing. -/
theorem record_record (l : SecretLedger) (app : String) (spec : ApplicationSpec) :
    (l.record app spec).1.record app spec = ((l.record app spec).1, false) := by
  refine record_of_agree ⟨?_, fun k => ?_⟩
  · rw [password?_record, if_pos rfl, password?_record, if_pos rfl]
  · rw [env?_record, env?_record]
    cases spec.lastSecret? k with
    | none => rfl
    | some s => cases hv : s.secretVersion <;> simp [hv]

/-- What recording does to an application depends on what the ledger says of it only. -/
theorem agree_record_congr {l m : SecretLedger} {app : String} (spec : ApplicationSpec)
    (h : Agree app l m) : Agree app (l.record app spec).1 (m.record app spec).1 := by
  refine ⟨?_, fun k => ?_⟩
  · rw [password?_record, if_pos rfl, password?_record, if_pos rfl]
  · rw [env?_record, env?_record, h.2]

end SecretLedger

end Converge
