import Mathlib.Data.List.Forall2
import Mathlib.Data.List.Nodup
/-!
# Lists with keys

Resources are found in lists by a name, a number or an identifier.  Where no two entries have the
same key, an entry is found by its key and by no other.  Lists whose entries correspond pairwise
have what the entries have in common.

Main statements: `find?_key_eq_some_iff` and `map_filter_of_forall₂`.
-/

namespace Converge

variable {α κ : Type} [DecidableEq κ] {key : α → κ} {l : List α} {a : α} {k : κ}

/-! ## 1. Keys -/

theorem find?_key_eq_some (h : l.find? (key · = k) = some a) : a ∈ l ∧ key a = k :=
  ⟨List.mem_of_find?_eq_some h, by simpa using List.find?_some h⟩

theorem find?_key_isSome (ha : a ∈ l) (hk : key a = k) : (l.find? (key · = k)).isSome := by
  rw [List.find?_isSome]
  exact ⟨a, ha, decide_eq_true hk⟩

/-- An entry is found by its key where no other has the same. -/
theorem find?_key_eq_some_iff (hl : (l.map key).Nodup) :
    l.find? (key · = k) = some a ↔ a ∈ l ∧ key a = k := by
  constructor
  · exact find?_key_eq_some
  · rintro ⟨ha, hk⟩
    obtain ⟨b, hb⟩ := Option.isSome_iff_exists.1 (find?_key_isSome ha hk)
    obtain ⟨hbl, hbk⟩ := find?_key_eq_some hb
    rw [hb, List.inj_on_of_nodup_map hl hbl ha (hbk.trans hk.symm)]

/-- Nothing is found by a key that no entry has. -/
theorem isNone_find?_key : (l.find? (key · = k)).isNone ↔ k ∉ l.map key := by
  rw [Option.isNone_iff_eq_none, List.find?_eq_none]
  simp

/-- What is made of the entries is found by the keys that the entries have. -/
theorem find?_key_map {β : Type} {f : α → β} {key' : β → κ} (h : ∀ a, key' (f a) = key a)
    (l : List α) (k : κ) :
    (l.map f).find? (key' · = k) = (l.find? (key · = k)).map f := by
  have same : (fun b => decide (key' b = k)) ∘ f = fun a => decide (key a = k) :=
    funext fun a => by simp [h]
  rw [List.find?_map, same]

/-- The entries with the key of an entry are that entry, where no other has the same. -/
theorem filter_key_eq_singleton (hl : (l.map key).Nodup) (ha : a ∈ l) (hk : key a = k) :
    l.filter (key · = k) = [a] := by
  subst hk
  induction l with
  | nil => nomatch ha
  | cons b rest ih =>
    obtain ⟨hb, hrest⟩ := List.nodup_cons.1 hl
    rcases List.mem_cons.1 ha with rfl | ha
    · have none : rest.filter (fun x => key x = key a) = [] := by
        refine List.filter_eq_nil_iff.2 fun x hx h => ?_
        exact hb (of_decide_eq_true h ▸ List.mem_map_of_mem hx)
      rw [List.filter_cons_of_pos (by simp), none]
    · have other : ¬ key b = key a := fun h => hb (h ▸ List.mem_map_of_mem ha)
      rw [List.filter_cons_of_neg (by simpa using other), ih hrest ha]

/-- Where entries differ by two keys together, those with one value of the first differ by the
second. -/
theorem nodup_map_filter_key {κ' : Type} {key' : α → κ'}
    (h : (l.map fun a => (key a, key' a)).Nodup) : ((l.filter (key · = k)).map key').Nodup := by
  have kept : ((l.filter (key · = k)).map fun a => (key a, key' a)).Nodup :=
    h.sublist (List.filter_sublist.map _)
  have fixed : ((l.filter (key · = k)).map fun a => (key a, key' a)) =
      ((l.filter (key · = k)).map key').map fun b => (k, b) := by
    rw [List.map_map]
    refine List.map_congr_left fun a ha => ?_
    have : key a = k := of_decide_eq_true (List.mem_filter.1 ha).2
    rw [this]
    rfl
  exact .of_map _ (fixed ▸ kept)

/-! ## 2. Corresponding lists -/

section

variable {β γ : Type} {R : α → β → Prop} {m : List β}

theorem exists_left_of_forall₂ (h : List.Forall₂ R l m) : ∀ b ∈ m, ∃ a ∈ l, R a b := by
  induction h with
  | nil => exact fun _ => List.not_mem_nil.elim
  | @cons a b _ _ hab _ ih =>
    refine List.forall_mem_cons.2 ⟨⟨a, List.mem_cons_self, hab⟩, fun b' hb' => ?_⟩
    obtain ⟨a', ha', hr⟩ := ih b' hb'
    exact ⟨a', List.mem_cons_of_mem _ ha', hr⟩

theorem exists_right_of_forall₂ (h : List.Forall₂ R l m) : ∀ a ∈ l, ∃ b ∈ m, R a b :=
  exists_left_of_forall₂ h.flip

/-- Corresponding entries have the same in common one by one. -/
theorem map_eq_of_forall₂ {f : α → γ} {g : β → γ} (h : List.Forall₂ R l m)
    (same : ∀ a b, R a b → f a = g b) : l.map f = m.map g := by
  induction h with
  | nil => rfl
  | cons hab _ ih => rw [List.map_cons, List.map_cons, same _ _ hab, ih]

/-- What corresponding entries have in common stays the same when the entries with a property that
corresponds are picked out. -/
theorem map_filter_of_forall₂ {P : α → Bool} {Q : β → Bool} {f : α → γ} {g : β → γ}
    (h : List.Forall₂ R l m) (pick : ∀ a ∈ l, ∀ b ∈ m, R a b → P a = Q b)
    (same : ∀ a b, R a b → f a = g b) : (l.filter P).map f = (m.filter Q).map g := by
  induction h with
  | nil => rfl
  | @cons a b l m hab _ ih =>
    have head := pick a List.mem_cons_self b List.mem_cons_self hab
    have rest := ih fun a ha b hb =>
      pick a (List.mem_cons_of_mem _ ha) b (List.mem_cons_of_mem _ hb)
    cases hb : Q b with
    | true =>
      rw [List.filter_cons_of_pos (head.trans hb), List.filter_cons_of_pos hb, List.map_cons,
        List.map_cons, same a b hab, rest]
    | false =>
      rw [List.filter_cons_of_neg (by simp [head, hb]), List.filter_cons_of_neg (by simp [hb]),
        rest]

end

/-! ## 3. Picking out -/

/-- One entry for each that is picked out. -/
theorem flatMap_ite_singleton {γ : Type} (p : α → Bool) (f : α → γ) (l : List α) :
    (l.flatMap fun a => if p a then [f a] else []) = (l.filter p).map f := by
  induction l with
  | nil => rfl
  | cons a l ih => cases h : p a <;> simp [h, ih]

/-! ## 4. Where an entry stands -/

section

variable {α : Type} {l m before after : List α} {x : α}

/-- An entry of two lists one after the other stands in the first or in the second. -/
theorem located_of_append_eq (h : l ++ m = before ++ x :: after) :
    (∃ rest, l = before ++ x :: rest ∧ after = rest ++ m) ∨
    (∃ front, before = l ++ front ∧ m = front ++ x :: after) := by
  rcases List.append_eq_append_iff.1 h with ⟨front, rfl, hm⟩ | ⟨back, rfl, hx⟩
  · exact .inr ⟨front, rfl, hm⟩
  · cases back with
    | nil => exact .inr ⟨[], by simp, hx.symm⟩
    | cons y rest =>
      obtain ⟨rfl, rfl⟩ := List.cons.inj hx
      exact .inl ⟨rest, rfl, rfl⟩

/-- An entry that does not stand in the second part of a list stands in the first. -/
theorem first_of_append_eq (h : l ++ m = before ++ x :: after) (hx : x ∉ m) :
    ∃ rest, l = before ++ x :: rest := by
  rcases located_of_append_eq h with ⟨rest, hl, -⟩ | ⟨front, -, rfl⟩
  · exact ⟨rest, hl⟩
  · exact absurd (List.mem_append_right _ List.mem_cons_self) hx

/-- What ends with an entry and goes on from another, which is not among those before, ends with
that one. -/
theorem last_of_append_eq {y : α} (h : l ++ [x] = before ++ y :: after) (hy : y ∉ l) :
    l = before ∧ x = y := by
  rcases located_of_append_eq h with ⟨rest, rfl, -⟩ | ⟨front, rfl, hx⟩
  · exact absurd (List.mem_append_right _ List.mem_cons_self) hy
  · obtain rfl : front = [] := by
      cases front with
      | nil => rfl
      | cons z front => nomatch (List.append_eq_nil_iff.1 (List.cons.inj hx).2.symm).2
    exact ⟨(List.append_nil _).symm, (List.cons.inj hx).1⟩

/-- What stands in front of a part that does not have an entry stands in front of the entry. -/
theorem subset_of_append_eq (h : l ++ m = before ++ x :: after) (hx : x ∉ l) : l ⊆ before := by
  rcases located_of_append_eq h with ⟨rest, rfl, -⟩ | ⟨front, rfl, -⟩
  · exact absurd (List.mem_append_right _ List.mem_cons_self) hx
  · exact List.subset_append_left l front

end

end Converge
