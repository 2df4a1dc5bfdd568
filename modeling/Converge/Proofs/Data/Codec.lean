import Converge.Proofs.Data.Keyed
import Converge.Proofs.Ledger.Recording
import Mathlib.Data.List.Forall2
/-!
# What is written is read back

A document is written as a value and read as a node.  `Node.Holds` says that a node holds a value,
whatever the format between the two: each scalar answers the request that its value is for, and
lists and tables are complete.  A codec is faithful when it reads what it has written from every
node that holds it (`Codec.Faithful`), and a field is when it may leave out only what stands for
an entry that is not there (`Field.Faithful`).

Each way of putting codecs together keeps them faithful, so that a record is faithful because its
fields are and their keys are distinct.

Main statements: `Fields.Faithful.and` and `Codec.Faithful.record`.
-/

namespace Converge

/-! ## 1. What a node holds -/

/-- Whether a node is a name. -/
def Node.Named (k : Node) (name : String) : Prop := ∃ s, k = .scalar s ∧ s.text = some name

mutual

/-- Whether a node holds a value. -/
inductive Node.Holds : Node → Value → Prop
  | null {s} (h : s.absence = .absent) : Node.Holds (.scalar s) .null
  | bool {s b} (h : s.bool = some b) (present : s.absence = .present) :
      Node.Holds (.scalar s) (.bool b)
  | int {s n} (h : s.int = some n) (present : s.absence = .present) :
      Node.Holds (.scalar s) (.int n)
  | text {s t} (h : s.text = some t) (present : s.absence = .present) :
      Node.Holds (.scalar s) (.text t)
  | list {items vs} (h : Node.HoldItems items vs) : Node.Holds (.list items true) (.list vs)
  | table {es entries} (h : Node.HoldEntries es entries) :
      Node.Holds (.table es true) (.table entries)

/-- Whether the items of a list hold some values one by one. -/
inductive Node.HoldItems : List Node → List Value → Prop
  | nil : Node.HoldItems [] []
  | cons {n v ns vs} (h : Node.Holds n v) (rest : Node.HoldItems ns vs) :
      Node.HoldItems (n :: ns) (v :: vs)

/-- Whether the entries of a table hold some values one by one, under their names. -/
inductive Node.HoldEntries : List (Node × Node) → List (String × Value) → Prop
  | nil : Node.HoldEntries [] []
  | cons {k name n v es entries} (hk : k.Named name) (h : Node.Holds n v)
      (rest : Node.HoldEntries es entries) : Node.HoldEntries ((k, n) :: es) ((name, v) :: entries)

end

namespace Codec

open Reading

/-- Whether a codec reads what it has written. -/
def Faithful (c : Codec α) : Prop := ∀ a node, node.Holds (c.write a) → c.read node = pure a

/-- Whether a codec never writes nothing. -/
def Present (c : Codec α) : Prop := ∀ a, c.write a ≠ .null

/-! ## 2. Scalars -/

theorem faithful_textAs (expected : String) : (textAs expected).Faithful := by
  intro a node h
  cases h with
  | text h _ => simp [textAs, resolve, h]

theorem faithful_text : text.Faithful := faithful_textAs _

theorem faithful_bool : bool.Faithful := by
  intro a node h
  cases h with
  | bool h _ => simp [bool, resolve, h]

theorem Faithful.bounded {lo hi : Int} {expected : String} {make : Int → α} {of : α → Int}
    (range : ∀ a, lo ≤ of a ∧ of a ≤ hi) (inverse : ∀ a, make (of a) = a) :
    ((bounded lo hi expected).map make of).Faithful := by
  intro a node h
  cases h with
  | int h _ => simp [map, Codec.bounded, resolve, h, range, inverse]

theorem faithful_int16 : int16.Faithful :=
  .bounded (fun a => ⟨a.le_toInt, Int.le_of_lt_add_one a.toInt_lt⟩) fun a => a.ofInt_toInt

theorem faithful_int32 : int32.Faithful :=
  .bounded (fun a => ⟨a.le_toInt, Int.le_of_lt_add_one a.toInt_lt⟩) fun a => a.ofInt_toInt

theorem faithful_int64 : int64.Faithful :=
  .bounded (fun a => ⟨a.le_toInt, Int.le_of_lt_add_one a.toInt_lt⟩) fun a => a.ofInt_toInt

theorem faithful_uint32 : uint32.Faithful := by
  refine .bounded (fun a => ?_) fun a => by simp
  have := a.toNat_lt
  omega

theorem Faithful.map {c : Codec α} {make : α → β} {of : β → α} (h : c.Faithful)
    (inverse : ∀ b, make (of b) = b) : (c.map make of).Faithful := by
  intro b node hn
  simp [Codec.map, h _ node hn, inverse]

/-! ## 3. Lists and missing values -/

theorem within_pure (step : Step) (a : α) : within step (pure a) = pure a := rfl

theorem each_of_holdItems {c : Codec α} (h : c.Faithful) : ∀ {as : List α} {items : List Node}
    {i : Nat}, Node.HoldItems items (as.map c.write) → each c.read i items = pure as
  | [], [], _, .nil => rfl
  | a :: as, n :: items, i, .cons hn rest => by
    simp [each, h a n hn, within_pure, each_of_holdItems h rest]

theorem Faithful.list {c : Codec α} (h : c.Faithful) : c.list.Faithful := by
  intro as node hn
  cases hn with
  | list items => simp [Codec.list, resolve, each_of_holdItems h items]

theorem Faithful.optional {c : Codec α} (h : c.Faithful) (present : c.Present) :
    c.optional.Faithful := by
  rintro (_ | a) node hn
  · cases hn with
    | null h => simp [Codec.optional, resolve, h]
  · have read := h a node hn
    have hn : node.Holds (c.write a) := hn
    generalize hv : c.write a = v at hn
    cases hn with
    | null _ => exact absurd hv (present a)
    | bool _ hp => simp [Codec.optional, resolve, hp, read]
    | int _ hp => simp [Codec.optional, resolve, hp, read]
    | text _ hp => simp [Codec.optional, resolve, hp, read]
    | list _ => simp [Codec.optional, resolve, read]
    | table _ => simp [Codec.optional, resolve, read]

theorem read_named {k : Node} {name : String} (h : k.Named name) (expected : String) :
    (textAs expected).read k = pure name := by
  obtain ⟨s, rfl, hs⟩ := h
  simp [textAs, resolve, hs]

theorem mapM_of_holdEntries {c : Codec α} (h : c.Faithful) : ∀ {as : List (String × α)}
    {es : List (Node × Node)}, Node.HoldEntries es (as.map fun (k, a) => (k, c.write a)) →
    (es.mapM fun (k, v) => do
      let name ← text.read k
      let a ← within (.key name) (c.read v)
      pure (name, a)) = (pure as : Reading _)
  | [], [], .nil => rfl
  | (name, a) :: as, (k, n) :: es, .cons hk hn rest => by
    rw [List.mapM_cons, mapM_of_holdEntries h rest]
    simp [text, read_named hk, h a n hn, within_pure]

theorem Faithful.entries {c : Codec α} (h : c.Faithful) : c.entries.Faithful := by
  intro as node hn
  cases hn with
  | table es =>
    simp only [Codec.entries, resolve, pure_bind, mapM_of_holdEntries h es]
    rfl

end Codec

/-- The map that the entries of a map make is that map. -/
theorem SortedMap.ofList_entries (m : SortedMap α) : SortedMap.ofList m.entries = m := by
  have names : (m.entries.reverse.map (·.1)).Nodup := by
    rw [List.map_reverse, List.nodup_reverse, List.Nodup, List.pairwise_map]
    exact m.sorted.imp fun hlt => String.ne_of_lt hlt
  refine SortedMap.ext_get? fun k => ?_
  rw [SortedMap.get?_ofList]
  cases h : m.get? k with
  | some a =>
    have found := (find?_key_eq_some_iff names).2
      ⟨List.mem_reverse.2 (SortedMap.mem_entries_iff.2 h), rfl⟩
    rw [found]
    rfl
  | none =>
    refine Option.map_eq_none_iff.2 (List.find?_eq_none.2 fun e he hk => ?_)
    have := SortedMap.mem_entries_iff.1 (List.mem_reverse.1 he)
    rw [of_decide_eq_true hk, h] at this
    nomatch this

theorem Codec.Faithful.sortedMap {c : Codec α} (h : c.Faithful) :
    (SortedMap.codec c).Faithful :=
  h.entries.map SortedMap.ofList_entries

/-! ## 4. Records -/

namespace Field

/-- Whether a field reads what it has written and leaves out only what stands for an entry that is
not there. -/
structure Faithful (f : Field α) : Prop where
  codec : f.codec.Faithful
  hidden : ∀ a, f.hidden a → f.absent = some a

variable {key : String} {c : Codec α}

theorem faithful_required (h : c.Faithful) : (required key c).Faithful :=
  ⟨h, fun _ hidden => nomatch hidden⟩

theorem faithful_withDefault {a : α} (h : c.Faithful) : (withDefault key c a).Faithful :=
  ⟨h, fun _ hidden => nomatch hidden⟩

theorem faithful_unlessEmpty (h : c.Faithful) : (unlessEmpty key c).Faithful := by
  refine ⟨h.list, fun as hidden => ?_⟩
  rw [List.isEmpty_iff.1 hidden]
  rfl

theorem faithful_ifAny (h : c.Faithful) (present : c.Present) : (ifAny key c).Faithful := by
  refine ⟨h.optional present, fun a hidden => ?_⟩
  rw [Option.isNone_iff_eq_none.1 hidden]
  rfl

end Field

namespace Fields

open Reading

/-- The record that entries make, the fields that are not among them filled in. -/
def readEntries (fields : Fields β) (es : List (Node × Node)) (draft : fields.Draft) : Reading β :=
  do fields.close (← fields.collect es draft)

/-- Whether fields read what they have written, all of it under some keys. -/
structure Faithful (fields : Fields β) (keys : List String) : Prop where
  read : ∀ b es, Node.HoldEntries es (fields.write b) → fields.readEntries es fields.blank = pure b
  keys : ∀ b, ∀ e ∈ fields.write b, e.1 ∈ keys

theorem faithful_none : none.Faithful [] :=
  ⟨fun _ _ h => by cases h; rfl, fun _ _ h => nomatch h⟩

variable {f : Field α} {rest : Fields β} {keys : List String}

/-- The draft of a record: what was met of its first field, and the draft of the others. -/
def drafted (f : Field α) (rest : Fields β) (a : Option α) (draft : rest.Draft) :
    (and f rest).Draft := (a, draft)

theorem take_own (n : Node) (draft : rest.Draft) :
    (and f rest).take f.key n (drafted f rest Option.none draft) =
      some ((fun a => drafted f rest (some a) draft) <$>
        within (.key f.key) (f.codec.read n)) := by
  simp [and, drafted]

theorem take_other {name : String} (h : name ≠ f.key) (n : Node) (a : Option α)
    (draft : rest.Draft) : (and f rest).take name n (drafted f rest a draft) =
      (rest.take name n draft).map (drafted f rest a <$> ·) := by
  simp only [and, drafted, h]
  rfl

theorem close_met (a : α) (draft : rest.Draft) :
    (and f rest).close (drafted f rest (some a) draft) = (a, ·) <$> rest.close draft := by
  have finished : (and f rest).finish (drafted f rest (some a) draft) =
      (a, ·) <$> rest.finish draft := rfl
  unfold close
  rw [finished]
  cases rest.finish draft <;> rfl

theorem close_absent {a : α} (h : f.absent = some a) (draft : rest.Draft) :
    (and f rest).close (drafted f rest Option.none draft) = (a, ·) <$> rest.close draft := by
  have finished : (and f rest).finish (drafted f rest Option.none draft) =
      (a, ·) <$> rest.finish draft := by
    simp only [and, drafted, h]
    rfl
  unfold close
  rw [finished]
  cases rest.finish draft <;> rfl

/-- Entries under other keys are left to the other fields. -/
theorem collect_of_other (hk : f.key ∉ keys) : ∀ {es : List (Node × Node)}
    {entries : List (String × Value)}, Node.HoldEntries es entries → (∀ e ∈ entries, e.1 ∈ keys) →
    ∀ (a : Option α) (draft : rest.Draft),
      (and f rest).collect es (drafted f rest a draft) =
        drafted f rest a <$> rest.collect es draft
  | [], [], .nil, _, a, draft => rfl
  | (k, n) :: es, (name, v) :: entries, .cons hname _ hrest, hkeys, a, draft => by
    obtain ⟨hin, hkeys⟩ := List.forall_mem_cons.1 hkeys
    have other : name ≠ f.key := fun h => hk (h ▸ hin)
    have others := fun draft => collect_of_other hk hrest hkeys a draft
    simp only [collect, Codec.read_named hname, pure_bind, take_other other]
    cases rest.take name n draft with
    | none => simp [others]
    | some r => simp [others]

theorem Faithful.and (hf : f.Faithful) (hr : rest.Faithful keys) (hk : f.key ∉ keys) :
    (and f rest).Faithful (f.key :: keys) := by
  constructor
  · rintro ⟨a, b⟩ es h
    have read := hr.read b
    unfold readEntries at read ⊢
    have blank : (Fields.and f rest).blank = drafted f rest Option.none rest.blank := rfl
    by_cases hidden : f.hidden a
    · have h : Node.HoldEntries es (rest.write b) := by simpa [Fields.and, hidden] using h
      rw [blank, collect_of_other hk h (hr.keys b), bind_map_left]
      simp only [close_absent (hf.hidden a hidden), ← map_bind, read es h, map_pure]
    · have h : Node.HoldEntries es ((f.key, f.codec.write a) :: rest.write b) := by
        simpa [Fields.and, hidden] using h
      cases h with
      | cons hname hn h =>
        simp only [collect, Codec.read_named hname, pure_bind, blank, take_own, hf.codec a _ hn,
          Codec.within_pure, map_pure, collect_of_other hk h (hr.keys b), bind_map_left, close_met,
          ← map_bind, read _ h]
  · rintro ⟨a, b⟩ e he
    rcases List.mem_append.1 he with he | he
    · split at he
      · nomatch he
      · rw [List.mem_singleton.1 he]
        exact List.mem_cons_self
    · exact List.mem_cons_of_mem _ (hr.keys b e he)

end Fields

/-- **A record is faithful when its fields are.** -/
theorem Codec.Faithful.record {name : String} {fields : Fields β} {keys : List String}
    {make : β → α} {of : α → β} (h : fields.Faithful keys) (inverse : ∀ a, make (of a) = a) :
    (Codec.record name fields make of).Faithful := by
  intro a node hn
  cases hn with
  | table es =>
    have read := h.read (of a) _ es
    unfold Fields.readEntries at read
    simp only [Codec.record, Reading.resolve, pure_bind, if_true, ← map_bind, read, map_pure,
      inverse]

/-- **A document that holds what was written is read as what was written.** -/
theorem Codec.Faithful.decode {c : Codec α} (h : c.Faithful) {d : Document} {a : α}
    (root : d.root.Holds (c.write a)) (sound : d.sound) : c.decode d = .ok a := by
  rw [Codec.decode, h a _ root]
  exact if_pos sound

/-! ## 5. Whole numbers -/

mutual

/-- Whether the whole numbers in a value fit into 64 bits with a sign. -/
def Value.Narrow : Value → Prop
  | .int n => -0x8000000000000000 ≤ n ∧ n < 0x8000000000000000
  | .list items => Value.NarrowItems items
  | .table entries => Value.NarrowEntries entries
  | _ => True

def Value.NarrowItems : List Value → Prop
  | [] => True
  | v :: rest => v.Narrow ∧ Value.NarrowItems rest

def Value.NarrowEntries : List (String × Value) → Prop
  | [] => True
  | (_, v) :: rest => v.Narrow ∧ Value.NarrowEntries rest

end

theorem Value.narrowItems_iff : ∀ {items : List Value},
    Value.NarrowItems items ↔ ∀ v ∈ items, v.Narrow
  | [] => by simp [Value.NarrowItems]
  | v :: rest => by simp [Value.NarrowItems, Value.narrowItems_iff]

theorem Value.narrowEntries_iff : ∀ {entries : List (String × Value)},
    Value.NarrowEntries entries ↔ ∀ e ∈ entries, e.2.Narrow
  | [] => by simp [Value.NarrowEntries]
  | (k, v) :: rest => by simp [Value.NarrowEntries, Value.narrowEntries_iff]

/-- Whether a codec writes no wide number. -/
def Codec.Narrow (c : Codec α) : Prop := ∀ a, (c.write a).Narrow

def Fields.Narrow (fields : Fields β) : Prop := ∀ b, ∀ e ∈ fields.write b, e.2.Narrow

namespace Codec

theorem narrow_text : text.Narrow := fun _ => trivial
theorem narrow_bool : bool.Narrow := fun _ => trivial

theorem narrow_int16 : int16.Narrow := by
  intro a
  have := a.le_toInt
  have := a.toInt_lt
  have bounds : -0x8000000000000000 ≤ a.toInt ∧ a.toInt < 0x8000000000000000 := by omega
  exact bounds

theorem narrow_int32 : int32.Narrow := by
  intro a
  have := a.le_toInt
  have := a.toInt_lt
  have bounds : -0x8000000000000000 ≤ a.toInt ∧ a.toInt < 0x8000000000000000 := by omega
  exact bounds

theorem narrow_int64 : int64.Narrow := fun a => ⟨a.le_toInt, a.toInt_lt⟩

theorem narrow_uint32 : uint32.Narrow := by
  intro a
  have := a.toNat_lt
  have bounds : -0x8000000000000000 ≤ (a.toNat : Int) ∧ (a.toNat : Int) < 0x8000000000000000 := by
    omega
  exact bounds

variable {c : Codec α}

theorem Narrow.optional (h : c.Narrow) : c.optional.Narrow
  | none => trivial
  | some a => h a

theorem Narrow.list (h : c.Narrow) : c.list.Narrow := by
  intro as
  refine Value.narrowItems_iff.2 fun v hv => ?_
  obtain ⟨a, -, rfl⟩ := List.mem_map.1 hv
  exact h a

theorem Narrow.sortedMap (h : c.Narrow) : (SortedMap.codec c).Narrow := by
  intro m
  refine Value.narrowEntries_iff.2 fun e he => ?_
  obtain ⟨⟨k, a⟩, -, rfl⟩ := List.mem_map.1 he
  exact h a

end Codec

theorem Fields.narrow_none : Fields.none.Narrow := fun _ _ h => nomatch h

theorem Fields.Narrow.and {f : Field α} {rest : Fields β} (hf : f.codec.Narrow)
    (hr : rest.Narrow) : (Fields.and f rest).Narrow := by
  rintro ⟨a, b⟩ e he
  rcases List.mem_append.1 he with he | he
  · split at he
    · nomatch he
    · rw [List.mem_singleton.1 he]
      exact hf a
  · exact hr b e he

theorem Codec.Narrow.record {name : String} {fields : Fields β} {make : β → α} {of : α → β}
    (h : fields.Narrow) : (Codec.record name fields make of).Narrow :=
  fun a => Value.narrowEntries_iff.2 (h (of a))

/-! ## 6. Keys -/

variable {p : String → Prop}

mutual

/-- Whether all keys in a value have a property. -/
def Value.Keyed (p : String → Prop) : Value → Prop
  | .list items => Value.KeyedItems p items
  | .table entries => Value.KeyedEntries p entries
  | _ => True

def Value.KeyedItems (p : String → Prop) : List Value → Prop
  | [] => True
  | v :: rest => v.Keyed p ∧ Value.KeyedItems p rest

def Value.KeyedEntries (p : String → Prop) : List (String × Value) → Prop
  | [] => True
  | (k, v) :: rest => p k ∧ v.Keyed p ∧ Value.KeyedEntries p rest

end

theorem Value.keyedItems_iff : ∀ {items : List Value},
    Value.KeyedItems p items ↔ ∀ v ∈ items, v.Keyed p
  | [] => by simp [Value.KeyedItems]
  | v :: rest => by simp [Value.KeyedItems, Value.keyedItems_iff]

theorem Value.keyedEntries_iff : ∀ {entries : List (String × Value)},
    Value.KeyedEntries p entries ↔ ∀ e ∈ entries, p e.1 ∧ e.2.Keyed p
  | [] => by simp [Value.KeyedEntries]
  | (k, v) :: rest => by simp [Value.KeyedEntries, Value.keyedEntries_iff, and_assoc]

/-- Whether all keys that a codec writes have a property. -/
def Codec.Keyed (p : String → Prop) (c : Codec α) : Prop := ∀ a, (c.write a).Keyed p

def Fields.Keyed (p : String → Prop) (fields : Fields β) : Prop :=
  ∀ b, ∀ e ∈ fields.write b, p e.1 ∧ e.2.Keyed p

namespace Codec

theorem keyed_text : text.Keyed p := fun _ => trivial
theorem keyed_bool : bool.Keyed p := fun _ => trivial

theorem keyed_bounded {lo hi : Int} {expected : String} {make : Int → α} {of : α → Int} :
    ((bounded lo hi expected).map make of).Keyed p := fun _ => trivial

variable {c : Codec α}

theorem Keyed.optional (h : c.Keyed p) : c.optional.Keyed p
  | none => trivial
  | some a => h a

theorem Keyed.list (h : c.Keyed p) : c.list.Keyed p := by
  intro as
  refine Value.keyedItems_iff.2 fun v hv => ?_
  obtain ⟨a, -, rfl⟩ := List.mem_map.1 hv
  exact h a

end Codec

theorem Fields.keyed_none : Fields.none.Keyed p := fun _ _ h => nomatch h

theorem Fields.Keyed.and {f : Field α} {rest : Fields β} (hk : p f.key) (hf : f.codec.Keyed p)
    (hr : rest.Keyed p) : (Fields.and f rest).Keyed p := by
  rintro ⟨a, b⟩ e he
  rcases List.mem_append.1 he with he | he
  · split at he
    · nomatch he
    · rw [List.mem_singleton.1 he]
      exact ⟨hk, hf a⟩
  · exact hr b e he

theorem Codec.Keyed.record {name : String} {fields : Fields β} {make : β → α} {of : α → β}
    (h : fields.Keyed p) : (Codec.record name fields make of).Keyed p :=
  fun a => Value.keyedEntries_iff.2 (h (of a))

end Converge
