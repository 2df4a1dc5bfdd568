import Converge.Proofs.Yaml.Words
import Converge.Yaml.Composer
/-!
# The document of the tokens of a value

The tokens of a value are composed to a node that holds it.  `Makes` says this of one node together
with the tokens that are left.  The tokens of a value are told from the marks between values by the
first of them (`exists_words`), and a list under a key ends where no dash follows, which is the only
thing that has to be known of the tokens after a value.

Main statements: `makes_words` and `document_words`.
-/

namespace Converge.Yaml

/-! ## 1. Scalars -/

theorem digitIn_of_isDigit {c : Char} (h : c.isDigit) : digitIn 10 c = some (c.toNat - 48) := by
  simp only [Char.isDigit, Bool.and_eq_true, decide_eq_true_eq, ge_iff_le] at h
  have lo : 48 ≤ c.toNat := h.1
  have hi : c.toNat ≤ 57 := h.2
  have small : c.toNat - 48 < 10 := by omega
  simp [digitIn, lo, hi, small]

theorem mapM_digitIn : ∀ {cs : List Char}, (∀ c ∈ cs, c.isDigit) →
    cs.mapM (digitIn 10) = some (cs.map (·.toNat - 48))
  | [], _ => rfl
  | c :: cs, h => by
    obtain ⟨first, others⟩ := List.forall_mem_cons.1 h
    simp [List.mapM_cons, digitIn_of_isDigit first, mapM_digitIn others]

theorem naturalIn_decimal (n : Nat) : naturalIn 10 (decimal n) = some n := by
  have filled : ((decimal n).map (·.toNat - 48)).isEmpty = false := by
    simpa using decimal_ne_nil n
  have digits := mapM_digitIn fun c => isDigit_of_mem_decimal (n := n)
  simp only [naturalIn, digits, Option.bind_eq_bind, Option.bind_some, filled, List.foldl_map,
    foldl_decimal]
  rfl

theorem basedDigits_of_isDigit {ds : List Char} (h : ∀ c ∈ ds, c.isDigit) :
    basedDigits ds = none := by
  unfold basedDigits
  split
  · exact absurd (h 'x' (by simp)) (by decide)
  · exact absurd (h 'o' (by simp)) (by decide)
  · exact absurd (h 'b' (by simp)) (by decide)
  · rfl

/-- Digits without a zero in front of others are not padded, with a dash or without. -/
theorem isPaddedDigits_eq_false {d : Char} {ds : List Char} (digit : d ≠ '-' ∧ d ≠ '+')
    (zero : ∀ {rest}, d :: ds = '0' :: rest → rest = []) :
    isPaddedDigits (d :: ds) = false ∧ isPaddedDigits ('-' :: d :: ds) = false := by
  unfold isPaddedDigits
  constructor <;> simp only [List.cons.injEq, digit, false_and, imp_self, implies_true]
  all_goals
    split
    next e => nomatch zero e
    next => rfl

/-- A number is read from its digits. -/
theorem integer?_toString (n : Int) : integer? (toString n) = some n := by
  have digits : ∀ c ∈ decimal n.natAbs, c.isDigit := fun c => isDigit_of_mem_decimal
  have zero := @decimal_eq_of_zero n.natAbs
  have value := naturalIn_decimal n.natAbs
  have based := basedDigits_of_isDigit digits
  unfold integer?
  rw [toList_toString]
  obtain ⟨d, ds, shown⟩ := List.exists_cons_of_ne_nil (decimal_ne_nil n.natAbs)
  rw [shown] at digits zero value based ⊢
  have digit : d ≠ '-' ∧ d ≠ '+' := by
    constructor <;> rintro rfl <;> exact absurd (digits _ List.mem_cons_self) (by decide)
  obtain ⟨unsigned, signed⟩ := isPaddedDigits_eq_false digit zero
  split
  next negative =>
    have sign : -(n.natAbs : Int) = n := by omega
    simp only [List.cons_append, List.nil_append, signed, based, value, Option.none_or,
      Bool.false_eq_true, if_false, if_true]
    exact congrArg some sign
  next =>
    have sign : (n.natAbs : Int) = n := by omega
    simp only [List.nil_append, List.cons.injEq, digit, false_and, imp_self, implies_true, unsigned,
      based, value, Option.none_or, Bool.false_eq_true, if_false]
    exact congrArg some sign

/-- The answers of a scalar in plain style. -/
theorem resolve_plain (s : String) : resolve s .plain none =
    { text := some s, bool := truth? s, int := (integer? s).filter fun n => isSigned64 n,
      hollow := s.isEmpty, absence := if s.isEmpty || isNull s then .absent else .present,
      found := foundPlain s, undeclared := none } := by
  simp [resolve, foundScalar, absenceOf]

theorem resolve_other (s : String) {style : Style} (h : style ≠ .plain) :
    (resolve s style none).text = some s ∧ (resolve s style none).absence = .present := by
  simp [resolve, foundScalar, absenceOf, h]

theorem absent_ne_integer {s : String} (h : s.isEmpty || isNull s) : integer? s = none := by
  simp only [isNull, Bool.or_eq_true, decide_eq_true_eq, String.isEmpty_iff] at h
  rcases h with rfl | ((rfl | rfl) | rfl) | rfl <;> decide

theorem holds_int {n : Int} (fits : (Value.int n).Narrow) :
    Node.Holds (.scalar (resolve (toString n) .plain none)) (.int n) := by
  have read := integer?_toString n
  generalize toString n = s at read
  have present : (s.isEmpty || isNull s) = false := Bool.eq_false_iff.2 fun absent => by
    rw [absent_ne_integer absent] at read
    nomatch read
  have signed : isSigned64 n := by
    have := fits.1
    have := fits.2
    simp [isSigned64]
    omega
  rw [resolve_plain, present, read]
  exact .int (Option.filter_eq_some_iff.2 ⟨rfl, signed⟩) rfl

theorem holds_text (s : String) : Node.Holds (.scalar (resolve s (styleOf s) none)) (.text s) := by
  rcases styleOf_cases s with ⟨style, -, found⟩ | other
  · have present : (s.isEmpty || isNull s) = false := Bool.eq_false_iff.2 fun absent => by
      rw [foundPlain, if_pos absent] at found
      nomatch found
    rw [style, resolve_plain, present]
    exact .text rfl rfl
  · have quoted : styleOf s ≠ .plain := by
      rcases other with ⟨style, -⟩ | ⟨style, -⟩ | style <;> rw [style] <;> decide
    obtain ⟨text, present⟩ := resolve_other s quoted
    exact .text text present

/-! ## 2. Nodes -/

namespace Composer

variable {s : Composer} {tail more : List Token} {block indentless : Bool} {fuel : Nat}

/-- Whether a node that was built holds a value, and which tokens are left. -/
def Makes (r : Node × Composer) (v : Value) (tail : List Token) : Prop :=
  r.1.Holds v ∧ r.2.tokens = tail

def MakesItems (r : List Node × Bool × Composer) (vs : List Value) (tail : List Token) : Prop :=
  Node.HoldItems r.1 vs ∧ r.2.1 = true ∧ r.2.2.tokens = tail

def MakesEntries (r : List (Node × Node) × Bool × Composer) (es : List (String × Value))
    (tail : List Token) : Prop :=
  Node.HoldEntries r.1 es ∧ r.2.1 = true ∧ r.2.2.tokens = tail

theorem makes_scalar {v : Value} {text : String} {style : Style}
    (h : s.tokens = .scalar text style :: tail)
    (holds : Node.Holds (.scalar (resolve text style none)) v) :
    Makes (node block indentless (fuel + 1) s) v tail := by
  obtain ⟨s', made, left⟩ := node_scalar block indentless fuel h
  rw [made]
  exact ⟨holds, left⟩

theorem makes_flowSequence (h : s.tokens = .flowSequenceStart :: .flowSequenceEnd :: tail) :
    Makes (node block indentless (fuel + 3) s) (.list []) tail := by
  have next : s.skip.count.tokens = .flowSequenceEnd :: tail := by simp [skip, count, h]
  rw [node_flowSequence h, flowItem_end next]
  exact ⟨.list .nil, by simp [skip, count, h]⟩

theorem makes_flowMapping (h : s.tokens = .flowMappingStart :: .flowMappingEnd :: tail) :
    Makes (node block indentless (fuel + 3) s) (.table []) tail := by
  have next : s.skip.count.tokens = .flowMappingEnd :: tail := by simp [skip, count, h]
  rw [node_flowMapping h, flowMember_end next]
  exact ⟨.table .nil, by simp [skip, count, h]⟩

theorem makes_blockSequence {vs : List Value} (h : s.tokens = .blockSequenceStart :: more)
    (items : ∀ s₁ : Composer, s₁.tokens = more → MakesItems (blockItems fuel s₁) vs tail) :
    Makes (node true indentless (fuel + 2) s) (.list vs) tail := by
  obtain ⟨holds, complete, left⟩ := items s.skip.count (by simp [skip, count, h])
  rw [node_blockSequence h, complete]
  exact ⟨.list holds, left⟩

theorem makes_indentlessSequence {vs : List Value} (h : s.tokens = .blockEntry :: more)
    (items : ∀ s₁ : Composer, s₁.tokens = .blockEntry :: more →
      MakesItems (indentlessItems fuel s₁) vs tail) :
    Makes (node block true (fuel + 2) s) (.list vs) tail := by
  obtain ⟨holds, complete, left⟩ := items s.count (by simp [count, h])
  rw [node_indentlessSequence h, complete]
  exact ⟨.list holds, left⟩

theorem makes_blockMapping {es : List (String × Value)} (h : s.tokens = .blockMappingStart :: more)
    (entries : ∀ s₁ : Composer, s₁.tokens = more → MakesEntries (blockEntries fuel s₁) es tail) :
    Makes (node true indentless (fuel + 2) s) (.table es) tail := by
  obtain ⟨holds, complete, left⟩ := entries s.skip.count (by simp [skip, count, h])
  rw [node_blockMapping h, complete]
  exact ⟨.table holds, left⟩

/-- The first token of a value tells it from the marks between values. -/
theorem exists_words (mapping : Bool) : ∀ v : Value, ∃ t more, words mapping v = t :: more ∧
    t ∉ [.key, .value, .blockEnd] ∧ (mapping = false → t ≠ .blockEntry)
  | .null | .bool true | .bool false | .int _ | .text _ | .list [] | .table [] | .table (_ :: _) =>
    ⟨_, _, rfl, by simp, by simp⟩
  | .list (_ :: _) => by cases mapping <;> exact ⟨_, _, rfl, by simp, by simp⟩

theorem nodeUnless_words {ts : List Token} {mapping : Bool} {v : Value}
    (h : s.tokens = words mapping v ++ more)
    (marks : ∀ t ∈ ts, t ∈ [.key, .value, .blockEnd] ∨ (mapping = false ∧ t = .blockEntry)) :
    nodeUnless ts block indentless (fuel + 1) s = node block indentless fuel s := by
  obtain ⟨t, others, first, apart, dash⟩ := exists_words mapping v
  have other : t ∉ ts := fun ht => (marks t ht).elim apart fun ⟨hm, he⟩ => dash hm he
  exact nodeUnless_of_notMem (h.trans (by rw [first, List.cons_append])) other

variable {v : Value} {vs : List Value} {middle : List Token}

theorem blockItems_cons (h : s.tokens = .blockEntry :: more)
    (item : ∀ s₁ : Composer, s₁.tokens = more →
      Makes (nodeUnless [.blockEntry, .blockEnd] true false fuel s₁) v middle)
    (items : ∀ s₁ : Composer, s₁.tokens = middle → MakesItems (blockItems fuel s₁) vs tail) :
    MakesItems (blockItems (fuel + 1) s) (v :: vs) tail := by
  obtain ⟨holds, left⟩ := item s.skip (by simp [skip, h])
  obtain ⟨others, complete, left'⟩ := items _ left
  rw [blockItems_entry h rfl]
  exact ⟨.cons holds others, complete, left'⟩

theorem indentlessItems_cons (h : s.tokens = .blockEntry :: more)
    (item : ∀ s₁ : Composer, s₁.tokens = more →
      Makes (nodeUnless [.blockEntry, .key, .value, .blockEnd] true false fuel s₁) v middle)
    (items : ∀ s₁ : Composer, s₁.tokens = middle → MakesItems (indentlessItems fuel s₁) vs tail) :
    MakesItems (indentlessItems (fuel + 1) s) (v :: vs) tail := by
  obtain ⟨holds, left⟩ := item s.skip (by simp [skip, h])
  obtain ⟨others, complete, left'⟩ := items _ left
  rw [indentlessItems_entry h rfl]
  exact ⟨.cons holds others, complete, left'⟩

theorem blockEntries_cons {key : String} {es : List (String × Value)}
    (h : s.tokens = .key :: .scalar key .plain :: .value :: more)
    (value : ∀ s₁ : Composer, s₁.tokens = more →
      Makes (nodeUnless [.key, .value, .blockEnd] true true (fuel + 1) s₁) v middle)
    (entries : ∀ s₁ : Composer, s₁.tokens = middle →
      MakesEntries (blockEntries (fuel + 2) s₁) es tail) :
    MakesEntries (blockEntries (fuel + 3) s) ((key, v) :: es) tail := by
  have next : s.skip.tokens = .scalar key .plain :: .value :: more := by simp [skip, h]
  obtain ⟨s₁, made, left⟩ := node_scalar true true fuel next
  have named : nodeUnless [.key, .value, .blockEnd] true true (fuel + 2) s.skip =
      (.scalar (resolve key .plain none), s₁) := by
    rw [← made]
    exact nodeUnless_of_notMem next (by simp)
  obtain ⟨holds, left'⟩ := value s₁.skip (by simp [skip, left])
  obtain ⟨others, complete, left''⟩ := entries _ left'
  rw [blockEntries_key h named (blockValue_value left)]
  exact ⟨.cons ⟨_, rfl, by rw [resolve_plain]⟩ holds others, complete, left''⟩

/-! ## 3. Values -/

mutual

/-- **A node is built from the tokens of its value.** -/
theorem makes_words : ∀ (v : Value) (mapping : Bool) {fuel : Nat} {s : Composer}
    {tail : List Token}, v.Narrow → s.tokens = words mapping v ++ tail →
    4 * (words mapping v).length + 3 ≤ fuel →
    (mapping = true → ∃ t more, tail = t :: more ∧ t ≠ .blockEntry) →
    Makes (node true mapping fuel s) v tail
  | .null, mapping, fuel + 1, s, tail, _, h, _, _ =>
    makes_scalar h (.null rfl)
  | .bool true, mapping, fuel + 1, s, tail, _, h, _, _ =>
    makes_scalar h (.bool rfl rfl)
  | .bool false, mapping, fuel + 1, s, tail, _, h, _, _ =>
    makes_scalar h (.bool rfl rfl)
  | .int n, mapping, fuel + 1, s, tail, narrow, h, _, _ =>
    makes_scalar h (holds_int narrow)
  | .text t, mapping, fuel + 1, s, tail, _, h, _, _ =>
    makes_scalar h (holds_text t)
  | .list [], mapping, fuel + 3, s, tail, _, h, _, _ => makes_flowSequence h
  | .table [], mapping, fuel + 3, s, tail, _, h, _, _ => makes_flowMapping h
  | .list (v :: vs), true, fuel + 2, s, tail, narrow, h, enough, follow => by
    obtain ⟨t, more, rfl, other⟩ := follow rfl
    refine makes_indentlessSequence h fun s₁ h₁ => ?_
    exact makes_indentless (v :: vs) narrow h₁ other (by simp [words] at enough; omega)
  | .list (v :: vs), false, fuel + 2, s, tail, narrow, h, enough, _ => by
    refine makes_blockSequence h fun s₁ h₁ => ?_
    exact makes_items (v :: vs) narrow (h₁.trans (by simp)) (by simp [words] at enough; omega)
  | .table (e :: es), mapping, fuel + 2, s, tail, narrow, h, enough, _ => by
    refine makes_blockMapping h fun s₁ h₁ => ?_
    exact makes_entries (e :: es) narrow (h₁.trans (by simp)) (by simp [words] at enough; omega)
termination_by v => sizeOf v

theorem makes_items : ∀ (vs : List Value) {fuel : Nat} {s : Composer} {tail : List Token},
    Value.NarrowItems vs → s.tokens = itemWords vs ++ .blockEnd :: tail →
    4 * (itemWords vs).length < fuel → MakesItems (blockItems fuel s) vs tail
  | [], fuel + 1, s, tail, _, h, _ => by
    have h : s.tokens = .blockEnd :: tail := h
    rw [blockItems_end h]
    exact ⟨.nil, rfl, by simp [skip, count, h]⟩
  | v :: vs, fuel + 2, s, tail, narrow, h, enough => by
    simp only [itemWords, List.length_cons, List.length_append, List.cons_append,
      List.append_assoc] at enough h
    refine blockItems_cons h (fun s₁ h₁ => ?_)
      fun s₁ h₁ => makes_items vs narrow.2 h₁ (by omega)
    rw [nodeUnless_words h₁ (by simp)]
    exact makes_words v false narrow.1 h₁ (by omega) nofun
termination_by vs => sizeOf vs

theorem makes_indentless : ∀ (vs : List Value) {fuel : Nat} {s : Composer} {t : Token}
    {tail : List Token}, Value.NarrowItems vs → s.tokens = itemWords vs ++ t :: tail →
    t ≠ .blockEntry → 4 * (itemWords vs).length < fuel →
    MakesItems (indentlessItems fuel s) vs (t :: tail)
  | [], fuel + 1, s, t, tail, _, h, other, _ => by
    have h : s.tokens = t :: tail := h
    rw [indentlessItems_other h other]
    exact ⟨.nil, rfl, by simp [count, h]⟩
  | v :: vs, fuel + 2, s, t, tail, narrow, h, other, enough => by
    simp only [itemWords, List.length_cons, List.length_append, List.cons_append,
      List.append_assoc] at enough h
    refine indentlessItems_cons h (fun s₁ h₁ => ?_)
      fun s₁ h₁ => makes_indentless vs narrow.2 h₁ other (by omega)
    rw [nodeUnless_words h₁ (by simp)]
    exact makes_words v false narrow.1 h₁ (by omega) nofun
termination_by vs => sizeOf vs

theorem makes_entries : ∀ (es : List (String × Value)) {fuel : Nat} {s : Composer}
    {tail : List Token}, Value.NarrowEntries es → s.tokens = entryWords es ++ .blockEnd :: tail →
    4 * (entryWords es).length < fuel → MakesEntries (blockEntries fuel s) es tail
  | [], fuel + 1, s, tail, _, h, _ => by
    have h : s.tokens = .blockEnd :: tail := h
    rw [blockEntries_end h]
    exact ⟨.nil, rfl, by simp [skip, count, h]⟩
  | (k, v) :: es, fuel + 3, s, tail, narrow, h, enough => by
    simp only [entryWords, List.length_cons, List.length_append, List.cons_append,
      List.append_assoc] at enough h
    refine blockEntries_cons h (fun s₁ h₁ => ?_)
      fun s₁ h₁ => makes_entries es narrow.2 h₁ (by omega)
    rw [nodeUnless_words h₁ (by simp)]
    refine makes_words v true narrow.1 h₁ (by omega) fun _ => ?_
    cases es with
    | nil => exact ⟨_, _, rfl, by simp⟩
    | cons e es => exact ⟨_, _, rfl, by simp⟩
termination_by es => sizeOf es

end

/-! ## 4. The document -/

/-- A document that begins with an indented mapping. -/
theorem exists_node (ts : List Token) (h : ts.head? = some .blockMappingStart) :
    ∃ fuel s, 4 * ts.length + 3 ≤ fuel ∧ s.tokens = ts ∧
      document (.streamStart :: ts) =
        finish (node true false fuel s).1 (node true false fuel s).2 := by
  refine ⟨8 * ts.length + 16, ⟨ts, standardHandles, [], [], 0⟩, by omega, rfl, ?_⟩
  simp only [document, peek, h, Bool.false_eq_true, if_false]

theorem atClose_of_end (h : s.tokens = [.streamEnd]) : s.atClose := by
  simp [atClose, sees, peek, h]

/-- **The tokens of a table describe a document that holds it.** -/
theorem document_words {e : String × Value} {es : List (String × Value)}
    (narrow : (Value.table (e :: es)).Narrow) {d : Document}
    (h : d = document (.streamStart :: (words false (.table (e :: es)) ++ [.streamEnd]))) :
    d.root.Holds (.table (e :: es)) ∧ d.sound := by
  obtain ⟨fuel, s, enough, tokens, made⟩ :=
    exists_node (words false (.table (e :: es)) ++ [.streamEnd]) rfl
  rw [List.length_append] at enough
  have enough' : 4 * (words false (.table (e :: es))).length + 3 ≤ fuel := by omega
  obtain ⟨holds, left⟩ := makes_words _ false narrow tokens enough' nofun
  rw [h, made]
  exact ⟨holds, atClose_of_end left⟩

end Composer

end Converge.Yaml
