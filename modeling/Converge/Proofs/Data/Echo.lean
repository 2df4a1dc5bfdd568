import Converge.Proofs.Data.Codec
import Mathlib.Data.List.Nodup
/-!
# One record read as another

What was written for one record can be read as another: the control plane is sent a request and
shows a resource, which has the same fields under the same names and an identifier of its own.
Keys that the other record does not know are passed over, and the order of the entries does not
matter, because each field is found under its key.

`Fields.Echoes` says that some fields find what others have written.  It is put together field by
field: a field is echoed by one with the same key (`Echoes.and`), or the other record has no field
for it (`Echoes.skip`).

Main statement: `Codec.read_extended`.
-/

namespace Converge

/-! ## 1. Entries in any order -/

/-- Whether a table has the entries of another and one more, in any order. -/
inductive Value.Extended (key : String) (x : Value) : Value → Value → Prop where
  | table {es es' : List (String × Value)} (h : es'.Perm ((key, x) :: es)) :
      Value.Extended key x (.table es) (.table es')

theorem Value.Extended.narrow {key : String} {x v w : Value} (h : Value.Extended key x v w)
    (hx : x.Narrow) (hv : v.Narrow) : w.Narrow := by
  obtain ⟨perm⟩ := h
  refine Value.narrowEntries_iff.2 fun e he => ?_
  rcases List.mem_cons.1 (perm.mem_iff.1 he) with rfl | he
  · exact hx
  · exact Value.narrowEntries_iff.1 hv e he

theorem Node.Holds.exists_entries {n : Node} {entries : List (String × Value)}
    (h : n.Holds (.table entries)) : ∃ es, n = .table es true ∧ Node.HoldEntries es entries := by
  cases h with
  | table hold => exact ⟨_, rfl, hold⟩

/-- A piece that holds a value can be read past. -/
theorem Fields.pass_of_holds {n : Node} {v : Value} (h : n.Holds v) : Fields.pass n = pure () := by
  cases h <;> rfl

/-- The names that the entries of a table have. -/
def names (entries : List (String × Value)) : List String := entries.map (·.1)

theorem mem_names_of_mem {k : String} {v : Value} {entries : List (String × Value)}
    (h : (k, v) ∈ entries) : k ∈ names entries :=
  List.mem_map_of_mem (f := (·.1)) h

/-! ## 2. One field after the other -/

/-- Whether a field reads what another has written, and has a value to fall back on where the other
leaves its own out. -/
structure Field.Echoes (f g : Field α) : Prop where
  key : g.key = f.key
  read : ∀ a node, node.Holds (f.codec.write a) → g.codec.read node = pure a
  absent : ∀ a, f.hidden a → g.absent = some a

namespace Fields

open Reading

variable {f : Field α} {rest : Fields β} {others : Fields δ} {keys : List String} {pick : β → δ}

/-- What a field finds under its key is read, and all other entries are left to the other
fields. -/
theorem collect_found {a : α} (unknown : ∀ node draft, rest.take f.key node draft = Option.none)
    {es : List (Node × Node)} {entries : List (String × Value)} (hold : Node.HoldEntries es entries)
    (distinct : (names entries).Nodup)
    (read : ∀ v, (f.key, v) ∈ entries → ∀ node, node.Holds v → f.codec.read node = pure a)
    (draft : rest.Draft) :
    (and f rest).collect es (drafted f rest Option.none draft) =
      drafted f rest (if f.key ∈ names entries then some a else Option.none) <$>
        rest.collect es draft := by
  induction es generalizing entries draft with
  | nil =>
    cases hold with
    | nil => rfl
  | cons e es ih =>
    cases hold with
    | @cons k name n v _ entries hname hn hrest =>
      obtain ⟨fresh, distinct⟩ := List.nodup_cons.1 distinct
      by_cases own : name = f.key
      · subst own
        -- No entry after this one has the key of the field.
        have later := fun draft : rest.Draft => collect_of_other fresh hrest
          (fun e he => mem_names_of_mem he) (some a) draft
        have found := read v List.mem_cons_self n hn
        have here : f.key ∈ names ((f.key, v) :: entries) := List.mem_cons_self
        simp only [collect, Codec.read_named hname, pure_bind, take_own, found, Codec.within_pure,
          map_pure, later, unknown, pass_of_holds hn, if_pos here]
      · have later := fun draft => ih hrest distinct
          (fun v hv => read v (List.mem_cons_of_mem _ hv)) draft
        have same : f.key ∈ names ((name, v) :: entries) ↔ f.key ∈ names entries := by
          simp [names, Ne.symm own]
        simp only [collect, Codec.read_named hname, pure_bind, take_other own, same]
        cases rest.take name n draft with
        | none => simp [later, pass_of_holds hn]
        | some r => simp [later]

/-- Fields find what the entries of a table say of them, when the first one and the others do. -/
theorem readEntries_and {a : α} {b : β} {es : List (Node × Node)}
    {entries : List (String × Value)}
    (unknown : ∀ node draft, rest.take f.key node draft = Option.none)
    (hold : Node.HoldEntries es entries) (distinct : (names entries).Nodup)
    (read : ∀ v, (f.key, v) ∈ entries → ∀ node, node.Holds v → f.codec.read node = pure a)
    (absent : f.key ∉ names entries → f.absent = some a)
    (later : rest.readEntries es rest.blank = pure b) :
    (and f rest).readEntries es (and f rest).blank = pure (a, b) := by
  have blank : (Fields.and f rest).blank = drafted f rest Option.none rest.blank := rfl
  unfold readEntries at later ⊢
  rw [blank, collect_found unknown hold distinct read, bind_map_left]
  by_cases present : f.key ∈ names entries
  · simp only [if_pos present, close_met, ← map_bind, later, map_pure]
  · simp only [if_neg present, close_absent (absent present), ← map_bind, later, map_pure]

theorem collect_none {es : List (Node × Node)} {entries : List (String × Value)}
    (hold : Node.HoldEntries es entries) : Fields.none.collect es () = pure () := by
  induction es generalizing entries with
  | nil => rfl
  | cons e es ih =>
    cases hold with
    | @cons k name n v _ entries hname hn hrest =>
      have unknown : Fields.none.take name n () = Option.none := rfl
      simp only [collect, Codec.read_named hname, pure_bind, unknown, pass_of_holds hn]
      exact ih hrest

theorem mem_write_and {a : α} {b : β} {e : String × Value} :
    e ∈ (and f rest).write (a, b) ↔
      (f.hidden a = false ∧ e = (f.key, f.codec.write a)) ∨ e ∈ rest.write b := by
  rw [Fields.and, List.mem_append]
  cases hidden : f.hidden a <;> simp

/-! ## 3. Fields that find what others have written -/

/-- Whether some entries say under some keys what others say. -/
def Agree (keys : List String) (written entries : List (String × Value)) : Prop :=
  ∀ k ∈ keys, ∀ v, (k, v) ∈ entries ↔ (k, v) ∈ written

/-- Whether fields find what other fields have written under some keys, wherever it stands, as long
as the keys differ. -/
structure Echoes (written : Fields β) (keys : List String) (read : Fields δ) (pick : β → δ) :
    Prop where
  mem : ∀ b, ∀ e ∈ written.write b, e.1 ∈ keys
  distinct : keys.Nodup → ∀ b, (names (written.write b)).Nodup
  unknown : ∀ name ∉ keys, ∀ node draft, read.take name node draft = Option.none
  finds : keys.Nodup → ∀ b es entries, Node.HoldEntries es entries → (names entries).Nodup →
    Agree keys (written.write b) entries → read.readEntries es read.blank = pure (pick b)

theorem Echoes.none : Echoes Fields.none [] Fields.none id := by
  refine ⟨fun _ _ => List.not_mem_nil.elim, fun _ _ => .nil, fun _ _ _ _ => rfl,
    fun _ _ _ _ hold _ _ => ?_⟩
  have blank : Fields.none.blank = () := rfl
  unfold readEntries
  rw [blank, collect_none hold]
  rfl

theorem Echoes.not_mem_names (h : Echoes rest keys others pick) {key : String} (hk : key ∉ keys)
    (b : β) : key ∉ names (rest.write b) := by
  intro hm
  obtain ⟨e, he, rfl⟩ := List.mem_map.1 hm
  exact hk (h.mem b e he)

/-- A field in front writes under a key of its own. -/
theorem Echoes.mem_and (h : Echoes rest keys others pick) :
    ∀ b, ∀ e ∈ (Fields.and f rest).write b, e.1 ∈ f.key :: keys := by
  rintro ⟨a, b⟩ e he
  rcases mem_write_and.1 he with ⟨-, rfl⟩ | he
  · exact List.mem_cons_self
  · exact List.mem_cons_of_mem _ (h.mem b e he)

theorem Echoes.distinct_and (h : Echoes rest keys others pick) (hk : (f.key :: keys).Nodup) :
    ∀ b, (names ((Fields.and f rest).write b)).Nodup := by
  rintro ⟨a, b⟩
  obtain ⟨fresh, hk⟩ := List.nodup_cons.1 hk
  cases hidden : f.hidden a with
  | true => simpa [Fields.and, hidden] using h.distinct hk b
  | false =>
    have written : (Fields.and f rest).write (a, b) = (f.key, f.codec.write a) :: rest.write b := by
      simp [Fields.and, hidden]
    rw [written]
    exact List.nodup_cons.2 ⟨h.not_mem_names fresh b, h.distinct hk b⟩

/-- The entries under the other keys are those of the other fields. -/
theorem Agree.tail {a : α} {b : β} {entries : List (String × Value)} (hk : f.key ∉ keys)
    (h : Agree (f.key :: keys) ((and f rest).write (a, b)) entries) :
    Agree keys (rest.write b) entries := by
  intro k hkey v
  rw [h k (List.mem_cons_of_mem _ hkey), mem_write_and]
  refine or_iff_right fun own => hk ?_
  rwa [← (Prod.mk.inj own.2).1]

/-- A field that the other record does not have is passed over. -/
theorem Echoes.skip (h : Echoes rest keys others pick) :
    Echoes (Fields.and f rest) (f.key :: keys) others (fun b => pick b.2) := by
  refine ⟨h.mem_and, h.distinct_and, fun name hn => h.unknown name fun hm => hn (.tail _ hm), ?_⟩
  rintro hk ⟨a, b⟩ es entries hold distinct agree
  obtain ⟨fresh, hk⟩ := List.nodup_cons.1 hk
  exact h.finds hk b es entries hold distinct (agree.tail fresh)

/-- A field is echoed by the field of the other record with its key. -/
theorem Echoes.and {f g : Field α} (hf : f.Echoes g) (h : Echoes rest keys others pick) :
    Echoes (Fields.and f rest) (f.key :: keys) (Fields.and g others)
      (fun b => (b.1, pick b.2)) := by
  refine ⟨h.mem_and, h.distinct_and, fun name hn node draft => ?_, ?_⟩
  · obtain ⟨own, other⟩ := not_or.1 (fun h => hn (List.mem_cons.2 h))
    have own : name ≠ g.key := hf.key ▸ own
    have unknown := h.unknown name other node draft.2
    simp only [Fields.and, if_neg own, unknown, Option.map_none]
  · rintro hk ⟨a, b⟩ es entries hold distinct agree
    obtain ⟨fresh, hk⟩ := List.nodup_cons.1 hk
    have later := h.finds hk b es entries hold distinct (agree.tail fresh)
    -- Under the key of the field stands what the field has written, if it was not left out.
    have own : ∀ v, (f.key, v) ∈ entries ↔ f.hidden a = false ∧ v = f.codec.write a := by
      intro v
      rw [agree f.key List.mem_cons_self, mem_write_and]
      have other : (f.key, v) ∉ rest.write b := fun hm => fresh (h.mem b _ hm)
      simp [other]
    refine readEntries_and (hf.key ▸ h.unknown f.key fresh) hold distinct ?_ ?_ later
    · intro v hv
      obtain ⟨-, rfl⟩ := (own v).1 (hf.key ▸ hv)
      exact hf.read a
    · intro missing
      refine hf.absent a (by_contra fun shown => missing ?_)
      rw [hf.key]
      exact mem_names_of_mem ((own _).2 ⟨Bool.eq_false_iff.2 shown, rfl⟩)

end Fields

/-! ## 4. Records -/

/-- **What was written for a record is read as another record** that has its fields and one more in
front, once an entry for that one was added. -/
theorem Codec.read_extended {written : Fields β} {keys : List String} {read : Fields δ}
    {pick : β → δ} (h : written.Echoes keys read pick) {f : Field α}
    (hk : (f.key :: keys).Nodup) {x : Value} {a : α}
    (hx : ∀ node, node.Holds x → f.codec.read node = pure a)
    {name name' : String} {make : β → ρ} {of : ρ → β} {make' : α × δ → τ} {of' : τ → α × δ} {r : ρ}
    {w : Value} (hw : Value.Extended f.key x ((Codec.record name written make of).write r) w)
    {node : Node} (hn : node.Holds w) :
    (Codec.record name' (.and f read) make' of').read node = pure (make' (a, pick (of r))) := by
  obtain ⟨entries, rfl, perm⟩ : ∃ entries, w = .table entries ∧
      entries.Perm ((f.key, x) :: written.write (of r)) := by
    cases hw with
    | table perm => exact ⟨_, rfl, perm⟩
  obtain ⟨es, rfl, hold⟩ := hn.exists_entries
  obtain ⟨fresh, hk⟩ := List.nodup_cons.1 hk
  have distinct : (names entries).Nodup := by
    have all : (names ((f.key, x) :: written.write (of r))).Nodup :=
      List.nodup_cons.2 ⟨h.not_mem_names fresh _, h.distinct hk (of r)⟩
    exact (perm.map _).nodup_iff.2 all
  have agree : Fields.Agree keys (written.write (of r)) entries := by
    intro k hkey v
    have other : (k, v) ≠ (f.key, x) := fun same => fresh ((Prod.mk.inj same).1 ▸ hkey)
    rw [perm.mem_iff, List.mem_cons, or_iff_right other]
  have found : (Fields.and f read).readEntries es (Fields.and f read).blank =
      pure (a, pick (of r)) := by
    refine Fields.readEntries_and (h.unknown f.key fresh) hold distinct ?_ ?_
      (h.finds hk (of r) es entries hold distinct agree)
    · intro v hv
      rcases List.mem_cons.1 (perm.mem_iff.1 hv) with same | hv
      · obtain rfl := (Prod.mk.inj same).2
        exact hx
      · exact absurd (mem_names_of_mem hv) (h.not_mem_names fresh _)
    · intro missing
      exact absurd (mem_names_of_mem (perm.mem_iff.2 List.mem_cons_self)) missing
  unfold Fields.readEntries at found
  simp only [Codec.record, Reading.resolve, pure_bind, if_true, ← map_bind, found, map_pure]

end Converge
