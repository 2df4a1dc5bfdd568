import Converge.Proofs.Data.Keyed
/-!
# Differences of lists with keys

Two lists of entries with keys can differ in an entry of the new side whose key the old side does
not have, in two entries under one key, and in an entry of the old side whose key is gone.
`KeyedDifference` names these and `Holds` says when there is one, by membership only.

They are found as an outer join: a walk through the new side, with a look-up in the old one, finds
what is added or has changed (`newDifference`), and a walk through the old side finds what is gone.
Where no key is listed twice, the two walks come upon every difference and upon none twice
(`reported_keyedDifferences`).  The differences between the lists the other way round are the same
ones with their sides exchanged (`Reported.mem_swap_iff`).

Main statements: `reported_keyedDifferences`, `Reported.mem_keys_iff`, `keyedDifferences_eq_nil_iff`
and `lines_of_differences`.
-/

namespace Converge

/-- What two lists of entries with keys can differ in. -/
inductive KeyedDifference (α β : Type) where
  /-- The new side has an entry under a key that the old one has not. -/
  | added (new : β)
  /-- Both sides have an entry under one key, and the entries differ. -/
  | updated (old : α) (new : β)
  /-- The old side has an entry under a key that the new one has not. -/
  | removed (old : α)
  deriving DecidableEq, Repr

section

variable {α β κ : Type} (oldKey : α → κ) (newKey : β → κ) (differs : α → β → Prop)

namespace KeyedDifference

/-- The key that a difference is about. -/
def key : KeyedDifference α β → κ
  | .added new => newKey new
  | .updated _ new => newKey new
  | .removed old => oldKey old

/-- The same difference with the sides exchanged. -/
def swap : KeyedDifference α β → KeyedDifference β α
  | .added new => .removed new
  | .updated old new => .updated new old
  | .removed old => .added old

/-- Whether two lists have a difference; `differs` says when two entries under one key do. -/
def Holds (before : List α) (after : List β) : KeyedDifference α β → Prop
  | .added new => new ∈ after ∧ newKey new ∉ before.map oldKey
  | .updated old new => old ∈ before ∧ new ∈ after ∧ oldKey old = newKey new ∧ differs old new
  | .removed old => old ∈ before ∧ oldKey old ∉ after.map newKey

end KeyedDifference

/-- Whether two lists differ under a key: only one of them has it, or the entries under it
differ. -/
def KeyDiffers (before : List α) (after : List β) (k : κ) : Prop :=
  (k ∈ after.map newKey ∧ k ∉ before.map oldKey) ∨
  (k ∈ before.map oldKey ∧ k ∉ after.map newKey) ∨
  ∃ old ∈ before, ∃ new ∈ after, oldKey old = k ∧ newKey new = k ∧ differs old new

/-- Whether some differences are all that two lists have, one for each key that differs: first what
is added or has changed, in the order of the new side, and then what is gone, in the order of the
old one. -/
structure Reported (before : List α) (after : List β) (ds : List (KeyedDifference α β)) :
    Prop where
  holds : ∀ d, d ∈ ds ↔ d.Holds oldKey newKey differs before after
  distinct : (ds.map (·.key oldKey newKey)).Nodup
  ordered : ∃ (fresh : List (KeyedDifference α β)) (gone : List α),
    ds = fresh ++ gone.map .removed ∧
    (fresh.map (·.key oldKey newKey)).Sublist (after.map newKey) ∧ gone.Sublist before

/-! ## 1. What is reported -/

namespace Reported

variable {oldKey newKey differs} {before : List α} {after : List β}
  {ds : List (KeyedDifference α β)}

/-- The keys that are reported are those that differ. -/
theorem mem_keys_iff (h : Reported oldKey newKey differs before after ds) {k : κ} :
    k ∈ ds.map (·.key oldKey newKey) ↔ KeyDiffers oldKey newKey differs before after k := by
  rw [List.mem_map]
  constructor
  · rintro ⟨d, hd, rfl⟩
    have holds := (h.holds d).1 hd
    cases d with
    | added new => exact .inl ⟨List.mem_map_of_mem holds.1, holds.2⟩
    | removed old => exact .inr (.inl ⟨List.mem_map_of_mem holds.1, holds.2⟩)
    | updated old new =>
      obtain ⟨ho, hn, same, differ⟩ := holds
      exact .inr (.inr ⟨old, ho, new, hn, same, rfl, differ⟩)
  · rintro (⟨hk, other⟩ | ⟨hk, other⟩ | ⟨old, ho, new, hn, rfl, same, differ⟩)
    · obtain ⟨new, hn, rfl⟩ := List.mem_map.1 hk
      exact ⟨.added new, (h.holds _).2 ⟨hn, other⟩, rfl⟩
    · obtain ⟨old, ho, rfl⟩ := List.mem_map.1 hk
      exact ⟨.removed old, (h.holds _).2 ⟨ho, other⟩, rfl⟩
    · exact ⟨.updated old new, (h.holds _).2 ⟨ho, hn, same.symm, differ⟩, same⟩

/-- The other way round the differences are the same with their sides exchanged. -/
theorem mem_swap_iff {reverse : β → α → Prop} {turned : List (KeyedDifference β α)}
    (h : Reported oldKey newKey differs before after ds)
    (h' : Reported newKey oldKey reverse after before turned)
    (converse : ∀ old new, reverse new old ↔ differs old new) (d : KeyedDifference α β) :
    d.swap ∈ turned ↔ d ∈ ds := by
  rw [h.holds, h'.holds]
  cases d with
  | added new => exact Iff.rfl
  | removed old => exact Iff.rfl
  | updated old new =>
    constructor
    · rintro ⟨hn, ho, same, differ⟩
      exact ⟨ho, hn, same.symm, (converse old new).1 differ⟩
    · rintro ⟨ho, hn, same, differ⟩
      exact ⟨hn, ho, same.symm, (converse old new).2 differ⟩

end Reported

/-- A key differs the other way round when it does. -/
theorem keyDiffers_swap {oldKey : α → κ} {newKey : β → κ} {differs : α → β → Prop}
    {reverse : β → α → Prop} {before : List α} {after : List β}
    (converse : ∀ old new, reverse new old ↔ differs old new) (k : κ) :
    KeyDiffers newKey oldKey reverse after before k ↔
      KeyDiffers oldKey newKey differs before after k := by
  have both : (∃ new ∈ after, ∃ old ∈ before, newKey new = k ∧ oldKey old = k ∧ reverse new old) ↔
      ∃ old ∈ before, ∃ new ∈ after, oldKey old = k ∧ newKey new = k ∧ differs old new := by
    constructor
    · rintro ⟨new, hn, old, ho, hnk, hok, differ⟩
      exact ⟨old, ho, new, hn, hok, hnk, (converse old new).1 differ⟩
    · rintro ⟨old, ho, new, hn, hok, hnk, differ⟩
      exact ⟨new, hn, old, ho, hnk, hok, (converse old new).2 differ⟩
  unfold KeyDiffers
  rw [both, or_left_comm]

/-- The keys of what is gone are those of the old entries. -/
theorem keys_of_removed (oldKey : α → κ) (newKey : β → κ) (gone : List α) :
    (gone.map KeyedDifference.removed).map (KeyedDifference.key oldKey newKey) =
      gone.map oldKey := by
  rw [List.map_map]
  rfl

/-! ## 2. Two walks -/

variable [DecidableEq κ] [∀ old new, Decidable (differs old new)]

/-- The difference that is found at an entry of the new side; of several old entries under its key
the last one counts. -/
def newDifference (before : List α) (new : β) : Option (KeyedDifference α β) :=
  match before.reverse.find? (oldKey · = newKey new) with
  | none => some (.added new)
  | some old => if differs old new then some (.updated old new) else none

/-- The differences that are found on a walk through the new side and one through the old. -/
def keyedDifferences (before : List α) (after : List β) : List (KeyedDifference α β) :=
  after.filterMap (newDifference oldKey newKey differs before)
    ++ (before.filter (oldKey · ∉ after.map newKey)).map .removed

variable {oldKey newKey differs} {before : List α} {after : List β}
  {d : KeyedDifference α β} {new : β}

/-- What is found at an entry is about its key. -/
theorem key_of_newDifference (h : newDifference oldKey newKey differs before new = some d) :
    d.key oldKey newKey = newKey new := by
  unfold newDifference at h
  split at h
  · obtain rfl := Option.some.inj h
    rfl
  · split at h
    · obtain rfl := Option.some.inj h
      rfl
    · nomatch h

/-- What is found at an entry is that its key is new, or that the last old entry under it
differs. -/
theorem newDifference_eq_some_iff : newDifference oldKey newKey differs before new = some d ↔
    (d = .added new ∧ newKey new ∉ before.map oldKey) ∨
    ∃ old, d = .updated old new ∧ before.reverse.find? (oldKey · = newKey new) = some old ∧
      differs old new := by
  have missing : before.reverse.find? (oldKey · = newKey new) = none ↔
      newKey new ∉ before.map oldKey := by
    rw [← Option.isNone_iff_eq_none, isNone_find?_key, List.map_reverse, List.mem_reverse]
  rw [← missing]
  unfold newDifference
  cases before.reverse.find? (oldKey · = newKey new) with
  | none => simp [eq_comm]
  | some old =>
    by_cases hd : differs old new
    · simp only [hd, if_true, Option.some.injEq, reduceCtorEq, and_false, false_or]
      constructor
      · rintro rfl
        exact ⟨old, rfl, rfl, hd⟩
      · rintro ⟨_, rfl, rfl, -⟩
        rfl
    · simp only [hd, if_false, reduceCtorEq, and_false, false_or, false_iff]
      rintro ⟨_, -, h, differ⟩
      obtain rfl := Option.some.inj h
      exact hd differ

/-- Nothing is found at an entry when the last old entry under its key does not differ. -/
theorem newDifference_eq_none_iff : newDifference oldKey newKey differs before new = none ↔
    ∃ old, before.reverse.find? (oldKey · = newKey new) = some old ∧ ¬ differs old new := by
  unfold newDifference
  cases before.reverse.find? (oldKey · = newKey new) with
  | none => simp
  | some old => by_cases hd : differs old new <;> simp [hd]

/-- The walks find nothing when the last old entry under each new key does not differ and no key is
gone. -/
theorem keyedDifferences_eq_nil_iff : keyedDifferences oldKey newKey differs before after = [] ↔
    (∀ new ∈ after, ∃ old, before.reverse.find? (oldKey · = newKey new) = some old ∧
      ¬ differs old new) ∧
    ∀ old ∈ before, oldKey old ∈ after.map newKey := by
  rw [keyedDifferences, List.append_eq_nil_iff, List.filterMap_eq_nil_iff, List.map_eq_nil_iff,
    List.filter_eq_nil_iff]
  exact and_congr (forall₂_congr fun _ _ => newDifference_eq_none_iff) (by simp)

/-- The keys of what is found at the new entries stand in the order of these entries. -/
theorem keys_sublist_filterMap (before : List α) (after : List β) :
    ((after.filterMap (newDifference oldKey newKey differs before)).map
      (·.key oldKey newKey)).Sublist (after.map newKey) := by
  induction after with
  | nil => exact .slnil
  | cons new rest ih =>
    cases h : newDifference oldKey newKey differs before new with
    | none =>
      rw [List.filterMap_cons_none h]
      exact ih.trans (List.sublist_cons_self ..)
    | some d =>
      rw [List.filterMap_cons_some h, List.map_cons, key_of_newDifference h]
      exact ih.cons_cons _

/-- **The two walks find every difference, and none twice**, where no key is listed twice. -/
theorem reported_keyedDifferences (old : (before.map oldKey).Nodup)
    (new : (after.map newKey).Nodup) :
    Reported oldKey newKey differs before after
      (keyedDifferences oldKey newKey differs before after) := by
  have turned : (before.reverse.map oldKey).Nodup := by
    rwa [List.map_reverse, List.nodup_reverse]
  have gone {a : α} : a ∈ before.filter (oldKey · ∉ after.map newKey) ↔
      a ∈ before ∧ oldKey a ∉ after.map newKey := by simp
  refine ⟨fun d => ?_, ?_, _, _, rfl, keys_sublist_filterMap before after, List.filter_sublist⟩
  · rw [keyedDifferences, List.mem_append, List.mem_filterMap, List.mem_map]
    constructor
    · rintro (⟨b, hb, found⟩ | ⟨a, ha, rfl⟩)
      · rcases newDifference_eq_some_iff.1 found with ⟨rfl, missing⟩ | ⟨a, rfl, ha, differ⟩
        · exact ⟨hb, missing⟩
        · obtain ⟨hm, same⟩ := find?_key_eq_some ha
          exact ⟨List.mem_reverse.1 hm, hb, same, differ⟩
      · exact gone.1 ha
    · intro holds
      cases d with
      | added b =>
        exact .inl ⟨b, holds.1, newDifference_eq_some_iff.2 (.inl ⟨rfl, holds.2⟩)⟩
      | removed a => exact .inr ⟨a, gone.2 holds, rfl⟩
      | updated a b =>
        obtain ⟨ha, hb, same, differ⟩ := holds
        have found : before.reverse.find? (oldKey · = newKey b) = some a :=
          (find?_key_eq_some_iff turned).2 ⟨List.mem_reverse.2 ha, same⟩
        exact .inl ⟨b, hb, newDifference_eq_some_iff.2 (.inr ⟨a, rfl, found, differ⟩)⟩
  · rw [keyedDifferences, List.map_append, keys_of_removed]
    have fresh : ((after.filterMap (newDifference oldKey newKey differs before)).map
        (·.key oldKey newKey)).Sublist (after.map newKey) := keys_sublist_filterMap before after
    refine List.Nodup.append (new.sublist fresh) (old.sublist (List.filter_sublist.map _)) ?_
    -- a key that is gone is none of the new side
    intro k hk hg
    obtain ⟨a, ha, rfl⟩ := List.mem_map.1 hg
    exact (gone.1 ha).2 (fresh.subset hk)

/-- **Lines that two walks write are those about the differences**, whatever the keys, when each
walk writes the lines about what it finds. -/
theorem lines_of_differences {line : KeyedDifference α β → String} {newLines : β → List String}
    {goneLine : α → String}
    (fresh : ∀ new ∈ after, newLines new =
      ((newDifference oldKey newKey differs before new).map line).toList)
    (gone : ∀ old, goneLine old = line (.removed old)) :
    (after.flatMap newLines
      ++ before.flatMap fun old => if after.any (newKey · = oldKey old) then [] else [goneLine old])
      = (keyedDifferences oldKey newKey differs before after).map line := by
  rw [keyedDifferences, List.map_append, List.map_map, List.map_filterMap,
    List.filterMap_eq_flatMap_toList, ← flatMap_ite_singleton]
  congr 1
  · exact List.flatMap_congr fresh
  · refine List.flatMap_congr fun old _ => ?_
    by_cases h : oldKey old ∈ after.map newKey
    · have listed : after.any (newKey · = oldKey old) := by simpa using h
      rw [if_pos listed, if_neg (by simpa using h)]
    · have unlisted : ¬ after.any (newKey · = oldKey old) := by simpa using h
      rw [if_neg unlisted, if_pos (by simpa using h), gone]
      rfl

end

end Converge
