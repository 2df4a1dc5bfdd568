/-!
# Maps in the order of their keys

A finite map from names to values whose entries stand in the order of the names.  A map has one
representation only: `ext_get?` says that maps that answer every look-up alike are equal, so two
histories with the same outcome leave the same map.

Main statements: `get?_insert` and `get?_erase` (one equation per operation through the look-up)
and `ext_get?`.
-/

namespace Converge

/-- A finite map from names to values, in the order of the names. -/
structure SortedMap (α : Type) where
  entries : List (String × α)
  sorted : entries.Pairwise (fun a b => a.1 < b.1)

namespace SortedMap

instance [DecidableEq α] : DecidableEq (SortedMap α) := fun a b =>
  if h : a.entries = b.entries then
    .isTrue (by cases a; cases b; simp_all)
  else
    .isFalse (fun e => h (by rw [e]))

instance [Repr α] : Repr (SortedMap α) := ⟨fun m n => reprPrec m.entries n⟩

/-- The map without entries. -/
def empty : SortedMap α := ⟨[], .nil⟩

instance : Inhabited (SortedMap α) := ⟨empty⟩

/-- Whether a map has no entries. -/
def isEmpty (m : SortedMap α) : Bool := m.entries.isEmpty

/-- The value of a name. -/
def get? (m : SortedMap α) (k : String) : Option α := m.entries.lookup k

/-- The names that have a value, in order. -/
def keys (m : SortedMap α) : List String := m.entries.map (·.1)

/-- Puts an entry where the order of the names wants it, in place of one with the same name. -/
def insertEntry (k : String) (a : α) : List (String × α) → List (String × α)
  | [] => [(k, a)]
  | (k', a') :: rest =>
    if k < k' then (k, a) :: (k', a') :: rest
    else if k' < k then (k', a') :: insertEntry k a rest
    else (k, a) :: rest

theorem fst_mem_insertEntry {k : String} {a : α} {l : List (String × α)} {e : String × α}
    (h : e ∈ insertEntry k a l) : e = (k, a) ∨ e ∈ l := by
  induction l with
  | nil => simpa [insertEntry] using h
  | cons e' rest ih =>
    obtain ⟨k', a'⟩ := e'
    unfold insertEntry at h
    split at h
    · simpa using h
    · split at h
      · rcases List.mem_cons.1 h with h | h
        · exact .inr (by simp [h])
        · rcases ih h with h | h
          · exact .inl h
          · exact .inr (List.mem_cons_of_mem _ h)
      · rcases List.mem_cons.1 h with h | h
        · exact .inl h
        · exact .inr (List.mem_cons_of_mem _ h)

theorem pairwise_insertEntry {k : String} {a : α} {l : List (String × α)}
    (h : l.Pairwise (fun a b => a.1 < b.1)) :
    (insertEntry k a l).Pairwise (fun a b => a.1 < b.1) := by
  induction l with
  | nil => simp [insertEntry]
  | cons e rest ih =>
    obtain ⟨k', a'⟩ := e
    rw [List.pairwise_cons] at h
    unfold insertEntry
    split
    next hlt =>
      refine List.pairwise_cons.2 ⟨?_, List.pairwise_cons.2 h⟩
      intro b hb
      rcases List.mem_cons.1 hb with rfl | hb
      · exact hlt
      · exact String.lt_trans hlt (h.1 b hb)
    next hnlt =>
      split
      next hlt =>
        refine List.pairwise_cons.2 ⟨?_, ih h.2⟩
        intro b hb
        rcases fst_mem_insertEntry hb with rfl | hb
        · exact hlt
        · exact h.1 b hb
      next hngt =>
        have hk : k = k' := String.le_antisymm hngt hnlt
        refine List.pairwise_cons.2 ⟨?_, h.2⟩
        intro b hb
        rw [hk]
        exact h.1 b hb

/-- Gives a name a value. -/
def insert (m : SortedMap α) (k : String) (a : α) : SortedMap α :=
  ⟨insertEntry k a m.entries, pairwise_insertEntry m.sorted⟩

/-- Takes a name out of the map. -/
def erase (m : SortedMap α) (k : String) : SortedMap α :=
  ⟨m.entries.filter (fun e => e.1 ≠ k), m.sorted.filter _⟩

/-- The map that some entries make; the last of several with one name counts. -/
def ofList (es : List (String × α)) : SortedMap α :=
  es.foldl (fun m e => m.insert e.1 e.2) empty

/-! ## 1. Operations through the look-up -/

@[simp] theorem get?_empty (k : String) : (empty : SortedMap α).get? k = none := rfl

/-- The look-up in a list by its first entry. -/
theorem lookup_cons_ite (k : String) (e : String × α) (l : List (String × α)) :
    (e :: l).lookup k = if k = e.1 then some e.2 else l.lookup k := by
  obtain ⟨j, b⟩ := e
  rw [List.lookup_cons]
  by_cases h : k = j
  · simp [h]
  · have : (k == j) = false := by simpa using h
    simp [h, this]

theorem lookup_insertEntry (k k' : String) (a : α) (l : List (String × α)) :
    (insertEntry k a l).lookup k' = if k' = k then some a else l.lookup k' := by
  induction l with
  | nil => simp [insertEntry, lookup_cons_ite]
  | cons e rest ih =>
    obtain ⟨j, b⟩ := e
    unfold insertEntry
    split
    next => rw [lookup_cons_ite]
    next hnlt =>
      split
      next hlt =>
        rw [lookup_cons_ite, lookup_cons_ite, ih]
        by_cases hj : k' = j
        · have hne : k' ≠ k := fun e => String.lt_irrefl _ (hj ▸ e ▸ hlt)
          simp [hj, hj ▸ hne]
        · simp [hj]
      next hngt =>
        have hk : k = j := String.le_antisymm hngt hnlt
        subst hk
        rw [lookup_cons_ite, lookup_cons_ite]
        by_cases h : k' = k <;> simp [h]

/-- A write is seen under its own name, and under no other. -/
@[simp] theorem get?_insert (m : SortedMap α) (k k' : String) (a : α) :
    (m.insert k a).get? k' = if k' = k then some a else m.get? k' :=
  lookup_insertEntry k k' a m.entries

theorem lookup_filter_ne (k k' : String) (l : List (String × α)) :
    (l.filter (fun e => e.1 ≠ k)).lookup k' = if k' = k then none else l.lookup k' := by
  induction l with
  | nil => simp
  | cons e rest ih =>
    by_cases hj : e.1 = k
    · rw [List.filter_cons_of_neg (by simpa using hj), ih, lookup_cons_ite]
      by_cases h : k' = k <;> simp [h, hj]
    · rw [List.filter_cons_of_pos (by simpa using hj), lookup_cons_ite, lookup_cons_ite, ih]
      by_cases h : k' = e.1
      · simp [h, hj]
      · simp [h]

/-- A name that was taken out has no value, and every other name keeps its own. -/
@[simp] theorem get?_erase (m : SortedMap α) (k k' : String) :
    (m.erase k).get? k' = if k' = k then none else m.get? k' :=
  lookup_filter_ne k k' m.entries

/-- A name before all others has no value. -/
theorem lookup_eq_none_of_lt {k : String} {l : List (String × α)}
    (h : ∀ e ∈ l, k < e.1) : l.lookup k = none := by
  induction l with
  | nil => rfl
  | cons e rest ih =>
    have hne : k ≠ e.1 := fun he => String.lt_irrefl e.1 (he ▸ h e (by simp))
    rw [lookup_cons_ite, if_neg hne, ih (fun x hx => h x (List.mem_cons_of_mem _ hx))]

/-- A name before the first entry of a sorted list has no value in it. -/
theorem lookup_eq_none_of_lt_head {k : String} {e : String × α} {l : List (String × α)}
    (hl : (e :: l).Pairwise (fun a b => a.1 < b.1)) (h : k < e.1) : (e :: l).lookup k = none := by
  rw [List.pairwise_cons] at hl
  refine lookup_eq_none_of_lt fun x hx => ?_
  rcases List.mem_cons.1 hx with rfl | hx
  · exact h
  · exact String.lt_trans h (hl.1 x hx)

theorem entries_ext {l l' : List (String × α)} (hl : l.Pairwise (fun a b => a.1 < b.1))
    (hl' : l'.Pairwise (fun a b => a.1 < b.1)) (h : ∀ k, l.lookup k = l'.lookup k) : l = l' := by
  induction l generalizing l' with
  | nil =>
    cases l' with
    | nil => rfl
    | cons e rest =>
      have := h e.1
      rw [lookup_cons_ite, if_pos rfl] at this
      simp at this
  | cons e rest ih =>
    cases l' with
    | nil =>
      have := h e.1
      rw [lookup_cons_ite, if_pos rfl] at this
      simp at this
    | cons e' rest' =>
      have hkey : e.1 = e'.1 := by
        refine String.le_antisymm (fun hlt => ?_) (fun hlt => ?_)
        · have := h e'.1
          rw [lookup_eq_none_of_lt_head hl hlt, lookup_cons_ite, if_pos rfl] at this
          simp at this
        · have := h e.1
          rw [lookup_eq_none_of_lt_head hl' hlt, lookup_cons_ite, if_pos rfl] at this
          simp at this
      have hval : e.2 = e'.2 := by
        have := h e.1
        rw [lookup_cons_ite, lookup_cons_ite, if_pos rfl, if_pos hkey] at this
        exact Option.some.inj this
      obtain rfl : e = e' := Prod.ext hkey hval
      rw [List.pairwise_cons] at hl hl'
      refine congrArg (e :: ·) (ih hl.2 hl'.2 fun k => ?_)
      by_cases hk : k = e.1
      · rw [hk, lookup_eq_none_of_lt hl.1, lookup_eq_none_of_lt hl'.1]
      · have := h k
        rwa [lookup_cons_ite, lookup_cons_ite, if_neg hk, if_neg hk] at this

/-- Maps that answer every look-up alike are equal. -/
theorem ext_get? {m m' : SortedMap α} (h : ∀ k, m.get? k = m'.get? k) : m = m' := by
  obtain ⟨l, hl⟩ := m
  obtain ⟨l', hl'⟩ := m'
  obtain rfl : l = l' := entries_ext hl hl' h
  rfl

end SortedMap

end Converge
