import Converge.Json.Reader
import Converge.Proofs.Data.Codec
import Converge.Proofs.Number.Decimal
/-!
# JSON reads what it has written

The reader goes through a text from left to right, so what is proved of it is what it leaves: a
value that is followed by a comma or a new line is read as its node (`Json.node`), and the rest of
the text is as it was.  Texts may have any characters in them; whole numbers have to fit into 64
bits with a sign (`Value.Narrow`).

Main statements: `Json.value_pretty` and `Json.document_pretty`.
-/

namespace Converge

namespace Json

/-! ## 1. Texts -/

theorem hex4_unicodeEscape : ∀ n < 32, ∀ rest : List Char,
    hex4 ([hexDigit (n / 4096 % 16), hexDigit (n / 256 % 16), hexDigit (n / 16 % 16),
      hexDigit (n % 16)] ++ rest) = some (n, rest) := by
  intro n hn rest
  have digits : ∀ n < 32, hex (hexDigit (n / 4096 % 16)) = some 0 ∧
      hex (hexDigit (n / 256 % 16)) = some 0 ∧ hex (hexDigit (n / 16 % 16)) = some (n / 16) ∧
      hex (hexDigit (n % 16)) = some (n % 16) := by decide
  obtain ⟨h₁, h₂, h₃, h₄⟩ := digits n hn
  have sum : ((0 * 16 + 0) * 16 + n / 16) * 16 + n % 16 = n := by omega
  simp [hex4, h₁, h₂, h₃, h₄]
  omega

/-- The ways in which a character is written between quotes. -/
inductive Escaped (c : Char) : List Char → Prop
  | short (e : Char) (h : shortEscape e = some c) : Escaped c ['\\', e]
  | control (h : c.toNat < 32) : Escaped c (unicodeEscape c)
  | plain (hq : c ≠ '"') (hb : c ≠ '\\') (h : 32 ≤ c.toNat) : Escaped c [c]

theorem escaped (c : Char) : Escaped c (escapeChar c) := by
  unfold escapeChar
  split
  next h => subst h; exact .short '"' rfl
  next hq =>
  split
  next h => subst h; exact .short '\\' rfl
  next hb =>
  split
  next h => subst h; exact .short 'n' rfl
  split
  next h => subst h; exact .short 'r' rfl
  split
  next h => subst h; exact .short 't' rfl
  split
  next h => subst h; exact .short 'b' rfl
  split
  next h => subst h; exact .short 'f' rfl
  split
  next h => exact .control h
  next h => exact .plain hq hb (Nat.le_of_not_lt h)

theorem one_le_length_escapeChar (c : Char) : 1 ≤ (escapeChar c).length := by
  have h := escaped c
  generalize escapeChar c = cs at h
  cases h with
  | short e h => exact Nat.le_add_left ..
  | control h => exact Nat.le_add_left ..
  | plain hq hb h => exact Nat.le_refl 1

/-- A character is read back from what is written for it. -/
theorem stringBody_escapeChar (c : Char) (fuel : Nat) (cs : List Char) :
    stringBody (fuel + 1) (escapeChar c ++ cs) = (stringBody fuel cs).map fun (body, after) =>
      (body.bind fun b => some (c :: b), after) := by
  have h := escaped c
  generalize escapeChar c = es at h
  cases h with
  | short e h =>
    have hu : e ≠ 'u' := by
      rintro rfl
      nomatch h
    simp [stringBody, h]
  | control h =>
    have unit := hex4_unicodeEscape c.toNat h cs
    have high : isHighSurrogate c.toNat = false := by simp [isHighSurrogate]; omega
    have low : isLowSurrogate c.toNat = false := by simp [isLowSurrogate]; omega
    simp only [unicodeEscape, stringBody, List.cons_append, List.nil_append] at unit ⊢
    simp [unit, high, low]
  | plain hq hb h => simp [stringBody, hb, Nat.not_lt.2 h]

/-- A text is read back from between its quotes. -/
theorem stringBody_escaped : ∀ (body : List Char) (fuel : Nat) (rest : List Char),
    body.length < fuel →
    stringBody fuel (body.flatMap escapeChar ++ '"' :: rest) = some (some body, rest)
  | _, 0, _, h => nomatch h
  | [], _ + 1, _, _ => rfl
  | c :: body, fuel + 1, rest, h => by
    rw [List.flatMap_cons, List.append_assoc, stringBody_escapeChar,
      stringBody_escaped body fuel rest (Nat.lt_of_succ_lt_succ h)]
    rfl

/-! ## 2. Numbers -/

/-- Whether a text begins with what may stand after a value: the mark between two values, or a new
line. -/
def Ends (cs : List Char) : Prop := ∃ rest, cs = ',' :: rest ∨ cs = '\n' :: rest

theorem digits_append : ∀ {ds : List Char} {rest : List Char}, (∀ c ∈ ds, c.isDigit) → Ends rest →
    digits (ds ++ rest) = (ds, rest)
  | [], rest, _, he => by
    obtain ⟨rest, rfl | rfl⟩ := he <;> rfl
  | c :: ds, rest, h, he => by
    obtain ⟨hc, hds⟩ := List.forall_mem_cons.1 h
    simp [digits, hc, digits_append hds he]

theorem digitsValue_decimal (n : Nat) : digitsValue (decimal n) = n := foldl_decimal n

/-- The parts of a whole number are its sign and its digits. -/
theorem numeral_number (n : Int) {rest : List Char} (he : Ends rest) :
    numeral (number n ++ rest) = some (⟨n < 0, decimal n.natAbs, none, none⟩, rest) := by
  have read := digits_append (fun c => isDigit_of_mem_decimal (n := n.natAbs)) he
  obtain ⟨d, ds, hd⟩ := List.exists_cons_of_ne_nil (decimal_ne_nil n.natAbs)
  have digit : d.isDigit := isDigit_of_mem_decimal (hd ▸ List.mem_cons_self)
  have nonzero : ¬ (d = '0' ∧ 0 < ds.length) := by
    rintro ⟨rfl, hlen⟩
    rw [decimal_eq_of_zero hd] at hlen
    exact Nat.lt_irrefl 0 hlen
  have sign : d ≠ '-' := by
    rintro rfl
    nomatch digit
  have tail : ∀ negative : Bool, numeral ((if negative then ['-'] else []) ++ (d :: ds) ++ rest) =
      some (⟨negative, d :: ds, none, none⟩, rest) := by
    intro negative
    rw [hd, List.cons_append] at read
    obtain ⟨more, rfl | rfl⟩ := he <;> cases negative <;>
      simp [numeral, sign, read, nonzero]
  rw [number, toList_toString, hd]
  simpa only [decide_eq_true_eq] using tail (decide (n < 0))

/-- A whole number that fits is read back. -/
theorem toNode_numeral {n : Int} (h : (Value.int n).Narrow) :
    Numeral.toNode ⟨n < 0, decimal n.natAbs, none, none⟩ =
      .scalar { plainScalar (.int n) with int := some n } := by
  obtain ⟨lo, hi⟩ : -0x8000000000000000 ≤ n ∧ n < 0x8000000000000000 := h
  unfold Numeral.toNode
  by_cases hn : n < 0
  · have magnitude : 0 < n.natAbs ∧ n.natAbs ≤ 0x8000000000000000 := by omega
    have value : -(n.natAbs : Int) = n := by omega
    simp only [digitsValue_decimal, hn, magnitude, value, decide_true]
    rfl
  · have magnitude : n.natAbs < 0x10000000000000000 := by omega
    have value : (n.natAbs : Int) = n := by omega
    simp only [digitsValue_decimal, hn, magnitude, value, decide_false, if_true]
    rfl

/-! ## 3. Values -/

mutual

/-- The node that the text of a value is read as. -/
def node : Value → Node
  | .null => .scalar { plainScalar .null with absence := .absent }
  | .bool b => .scalar { plainScalar (.bool b) with bool := some b }
  | .int n => .scalar { plainScalar (.int n) with int := some n }
  | .text s => .scalar (textScalar s)
  | .list items => .list (nodes items) true
  | .table entries => .table (entryNodes entries) true

def nodes : List Value → List Node
  | [] => []
  | v :: rest => node v :: nodes rest

def entryNodes : List (String × Value) → List (Node × Node)
  | [] => []
  | (k, v) :: rest => (.scalar (textScalar k), node v) :: entryNodes rest

end

mutual

theorem node_holds : ∀ v : Value, (node v).Holds v
  | .null => .null rfl
  | .bool _ => .bool rfl rfl
  | .int _ => .int rfl rfl
  | .text _ => .text rfl rfl
  | .list items => .list (nodes_hold items)
  | .table entries => .table (entryNodes_hold entries)

theorem nodes_hold : ∀ items : List Value, Node.HoldItems (nodes items) items
  | [] => .nil
  | v :: rest => .cons (node_holds v) (nodes_hold rest)

theorem entryNodes_hold : ∀ entries : List (String × Value),
    Node.HoldEntries (entryNodes entries) entries
  | [] => .nil
  | (_, v) :: rest => .cons ⟨_, rfl, rfl⟩ (node_holds v) (entryNodes_hold rest)

end

theorem skipSpace_blank (cs : List Char) : skipSpace (' ' :: cs) = skipSpace cs := rfl

theorem skipSpace_lineBreak (level : Nat) (cs : List Char) :
    skipSpace (lineBreak level ++ cs) = skipSpace cs := by
  have blanks : ∀ n : Nat, skipSpace (List.replicate n ' ' ++ cs) = skipSpace cs := by
    intro n
    induction n with
    | zero => rfl
    | succ n ih => simpa [List.replicate_succ, skipSpace, isSpace] using ih
  simpa [lineBreak, skipSpace, isSpace] using blanks (2 * level)

/-- Whether a character begins a number. -/
def StartsNumber (c : Char) : Prop := c.isDigit ∨ c = '-'

theorem StartsNumber.ne {c : Char} (h : StartsNumber c) :
    c ∉ [' ', '\n', '\t', '\r', '"', '[', ']', '\x7b', 'n', 't', 'f'] := by
  intro hc
  have marks : [' ', '\n', '\t', '\r', '"', '[', ']', '\x7b', 'n', 't', 'f'].all
      fun c => !c.isDigit && c ≠ '-' := by decide
  obtain ⟨digit, sign⟩ := Bool.and_eq_true_iff.1 (List.all_eq_true.1 marks c hc)
  rcases h with h | rfl
  · simp [h] at digit
  · simp at sign

theorem StartsNumber.isSpace {c : Char} (h : StartsNumber c) : isSpace c = false := by
  have := h.ne
  simp_all [Json.isSpace]

theorem exists_number_eq_cons (n : Int) : ∃ c rest, number n = c :: rest ∧ StartsNumber c := by
  obtain ⟨d, ds, hd⟩ := List.exists_cons_of_ne_nil (decimal_ne_nil n.natAbs)
  rw [number, toList_toString, hd]
  by_cases hn : n < 0
  · exact ⟨'-', d :: ds, by simp [hn], .inr rfl⟩
  · exact ⟨d, ds, by simp [hn], .inl (isDigit_of_mem_decimal (hd ▸ List.mem_cons_self))⟩

/-- What a value begins with: neither space nor a closing bracket. -/
theorem exists_pretty_eq_cons (level : Nat) (v : Value) :
    ∃ c rest, prettyChars level v = c :: rest ∧ isSpace c = false ∧ c ≠ ']' := by
  cases v with
  | null => exact ⟨_, _, rfl, by decide, by decide⟩
  | bool b => cases b <;> exact ⟨_, _, rfl, by decide, by decide⟩
  | int n =>
    obtain ⟨c, rest, h, hc⟩ := exists_number_eq_cons n
    refine ⟨c, rest, h, hc.isSpace, ?_⟩
    rintro rfl
    exact hc.ne (by decide)
  | text s => exact ⟨_, _, rfl, by decide, by decide⟩
  | list items => cases items <;> exact ⟨_, _, rfl, by decide, by decide⟩
  | table entries => rcases entries with _ | ⟨⟨k, v⟩, rest⟩ <;> exact ⟨_, _, rfl, by decide, by decide⟩

theorem length_pretty_pos (level : Nat) (v : Value) : 0 < (prettyChars level v).length := by
  obtain ⟨c, rest, h, -⟩ := exists_pretty_eq_cons level v
  rw [h]
  exact Nat.succ_pos _

theorem skipSpace_skipSpace : ∀ cs : List Char, skipSpace (skipSpace cs) = skipSpace cs
  | [] => rfl
  | c :: cs => by cases h : isSpace c <;> simp [skipSpace, h, skipSpace_skipSpace cs]

theorem ends_lineBreak (level : Nat) (rest : List Char) : Ends (lineBreak level ++ rest) :=
  ⟨_, .inr rfl⟩

/-- A text in quotes is read back. -/
theorem stringBody_string (s : String) (rest : List Char) :
    stringBody ((s.toList.flatMap escapeChar ++ '"' :: rest).length + 1)
      (s.toList.flatMap escapeChar ++ '"' :: rest) = some (some s.toList, rest) := by
  refine stringBody_escaped _ _ _ ?_
  have longer : ∀ l : List Char, l.length ≤ (l.flatMap escapeChar).length := by
    intro l
    induction l with
    | nil => exact Nat.le_refl 0
    | cons c l ih =>
      have := one_le_length_escapeChar c
      rw [List.flatMap_cons, List.length_append, List.length_cons]
      omega
  have := longer s.toList
  rw [List.length_append]
  omega

theorem string_append (s : String) (cs : List Char) :
    string s ++ cs = '"' :: (s.toList.flatMap escapeChar ++ '"' :: cs) := by
  simp [string]

theorem value_quote {cs body rest : List Char} (fuel : Nat)
    (h : stringBody (cs.length + 1) cs = some (some body, rest)) :
    value (fuel + 1) ('"' :: cs) = (.scalar (textScalar (String.ofList body)), some rest) := by
  simp [value, skipSpace, isSpace, h]

theorem value_number {n : Int} {rest : List Char} (fuel : Nat) (fits : (Value.int n).Narrow)
    (he : Ends rest) : value (fuel + 1) (number n ++ rest) = (node (.int n), some rest) := by
  have read := numeral_number n he
  obtain ⟨c, cs, h, hc⟩ := exists_number_eq_cons n
  have space := hc.isSpace
  have marks := hc.ne
  simp only [List.mem_cons, not_or, List.not_mem_nil, not_false_eq_true, and_true] at marks
  rw [h, List.cons_append] at read ⊢
  simp [value, skipSpace, space, marks, read, toNode_numeral fits, node]

section

variable {cs rest : List Char} {c : Char} {fuel : Nat} {n : Node} {left : Option (List Char)}

theorem value_bracket {ns : List Node} (hs : skipSpace cs = c :: rest) (hc : c ≠ ']')
    (h : items fuel cs = (ns, true, left)) :
    value (fuel + 1) ('[' :: cs) = (.list ns true, left) := by
  have same : skipSpace (c :: rest) = skipSpace cs := hs ▸ skipSpace_skipSpace cs
  rw [items_of_skipSpace same.symm] at h
  simp [value, skipSpace, isSpace, hs, hc, h]

theorem value_brace {es : List (Node × Node)} (hs : skipSpace cs = '"' :: rest)
    (h : members fuel cs = (es, true, left)) :
    value (fuel + 1) ('\x7b' :: cs) = (.table es true, left) := by
  have same : skipSpace ('"' :: rest) = skipSpace cs := hs ▸ skipSpace_skipSpace cs
  rw [members_of_skipSpace same.symm] at h
  simp [value, skipSpace, isSpace, hs, h]

theorem items_last {after : List Char} (h : value fuel cs = (n, some rest))
    (hs : skipSpace rest = ']' :: after) : items (fuel + 1) cs = ([n], true, some after) := by
  simp [items, h, hs]

theorem items_next {ns : List Node} (h : value fuel cs = (n, some (',' :: rest)))
    (others : items fuel rest = (ns, true, left)) :
    items (fuel + 1) cs = (n :: ns, true, left) := by
  rw [items, h]
  simp [skipSpace, isSpace, others]

theorem members_last {k : String} {after : List Char} (h : value fuel cs = (n, some rest))
    (hs : skipSpace rest = '\x7d' :: after) :
    members (fuel + 1) (string k ++ ':' :: cs) =
      ([(.scalar (textScalar k), n)], true, some after) := by
  have key := stringBody_string k (':' :: cs)
  rw [string_append]
  generalize k.toList.flatMap escapeChar ++ '"' :: ':' :: cs = text at key ⊢
  simp [members, skipSpace, isSpace, key, h, hs]

theorem members_next {k : String} {es : List (Node × Node)}
    (h : value fuel cs = (n, some (',' :: rest))) (others : members fuel rest = (es, true, left)) :
    members (fuel + 1) (string k ++ ':' :: cs) =
      ((.scalar (textScalar k), n) :: es, true, left) := by
  have key := stringBody_string k (':' :: cs)
  rw [string_append]
  generalize k.toList.flatMap escapeChar ++ '"' :: ':' :: cs = text at key ⊢
  rw [members]
  simp [skipSpace, isSpace, key, h, others]

end

mutual

/-- **A value is read back from its text**, and what follows it is left. -/
theorem value_pretty : ∀ (v : Value) (level fuel : Nat) (rest : List Char), v.Narrow → Ends rest →
    2 * (prettyChars level v).length ≤ fuel + 1 →
    value (fuel + 1) (prettyChars level v ++ rest) = (node v, some rest)
  | .null, level, fuel, rest, _, _, _ => by
    simp [prettyChars, value, skipSpace, isSpace, keyword, after, node]
  | .bool true, level, fuel, rest, _, _, _ => by
    simp [prettyChars, value, skipSpace, isSpace, keyword, after, node]
  | .bool false, level, fuel, rest, _, _, _ => by
    simp [prettyChars, value, skipSpace, isSpace, keyword, after, node]
  | .int n, level, fuel, rest, hn, he, _ => value_number fuel hn he
  | .text s, level, fuel, rest, _, _, _ => by
    have read := value_quote fuel (stringBody_string s rest)
    simpa [prettyChars, string, node] using read
  | .list [], level, fuel, rest, _, _, _ => by
    simp [prettyChars, value, skipSpace, isSpace, node, nodes]
  | .list (v :: vs), level, fuel, rest, hn, he, h => by
    simp only [prettyChars, List.length_cons, List.length_append] at h
    obtain ⟨fuel, rfl⟩ : ∃ f, fuel = f + 1 := ⟨fuel - 1, by omega⟩
    have read := items_pretty v vs (level + 1) level fuel rest hn.1 hn.2 (by omega)
    obtain ⟨c, cs, hv, hc, hb⟩ := exists_pretty_eq_cons (level + 1) v
    have inner := skipSpace_lineBreak (level + 1)
      (prettyChars (level + 1) v ++ prettyItems (level + 1) vs ++ lineBreak level ++ ']' :: rest)
    rw [← items_of_skipSpace inner] at read
    simp only [hv, List.cons_append, skipSpace, hc] at inner
    have read := value_bracket inner hb (hv ▸ read)
    simpa [prettyChars, hv, node, nodes] using read
  | .table [], level, fuel, rest, _, _, _ => by
    simp [prettyChars, value, skipSpace, isSpace, node, entryNodes]
  | .table ((k, v) :: es), level, fuel, rest, hn, he, h => by
    simp only [prettyChars, List.length_cons, List.length_append] at h
    obtain ⟨fuel, rfl⟩ : ∃ f, fuel = f + 1 := ⟨fuel - 1, by omega⟩
    have read := members_pretty k v es (level + 1) level fuel rest hn.1 hn.2 (by omega)
    have inner := skipSpace_lineBreak (level + 1) (string k ++ ':' :: ' ' ::
      (prettyChars (level + 1) v ++ prettyEntries (level + 1) es ++ lineBreak level
        ++ '\x7d' :: rest))
    rw [← members_of_skipSpace inner] at read
    have quote := inner.trans (congrArg skipSpace (string_append k _))
    simpa [prettyChars, node, entryNodes] using value_brace quote read
termination_by v => sizeOf v

theorem items_pretty : ∀ (v : Value) (vs : List Value) (level outer fuel : Nat) (rest : List Char),
    v.Narrow → Value.NarrowItems vs →
    2 * ((prettyChars level v).length + (prettyItems level vs).length) ≤ fuel →
    items (fuel + 1)
      (prettyChars level v ++ prettyItems level vs ++ lineBreak outer ++ ']' :: rest) =
      (node v :: nodes vs, true, some rest)
  | v, [], level, outer, fuel, rest, hv, _, h => by
    have := length_pretty_pos level v
    obtain ⟨fuel, rfl⟩ : ∃ f, fuel = f + 1 := ⟨fuel - 1, by omega⟩
    have read := value_pretty v level fuel (lineBreak outer ++ ']' :: rest) hv (ends_lineBreak ..)
      (by omega)
    have next : skipSpace (lineBreak outer ++ ']' :: rest) = ']' :: rest :=
      skipSpace_lineBreak outer (']' :: rest)
    simpa [prettyItems, nodes] using items_last read next
  | v, w :: vs, level, outer, fuel, rest, hv, hvs, h => by
    have := length_pretty_pos level v
    simp only [prettyItems, List.length_cons, List.length_append] at h
    obtain ⟨fuel, rfl⟩ : ∃ f, fuel = f + 1 := ⟨fuel - 1, by omega⟩
    have others := items_pretty w vs level outer fuel rest hvs.1 hvs.2 (by omega)
    rw [← items_of_skipSpace (skipSpace_lineBreak level _)] at others
    have read := value_pretty v level fuel
      (',' :: (lineBreak level ++ (prettyChars level w ++ prettyItems level vs ++ lineBreak outer
        ++ ']' :: rest))) hv ⟨_, .inl rfl⟩ (by omega)
    simpa [prettyItems, nodes] using items_next read others
termination_by v vs => sizeOf v + sizeOf vs

theorem members_pretty : ∀ (k : String) (v : Value) (es : List (String × Value))
    (level outer fuel : Nat) (rest : List Char), v.Narrow → Value.NarrowEntries es →
    2 * ((prettyChars level v).length + (prettyEntries level es).length) ≤ fuel →
    members (fuel + 1) (string k ++ ':' :: ' ' ::
      (prettyChars level v ++ prettyEntries level es ++ lineBreak outer ++ '\x7d' :: rest)) =
      ((.scalar (textScalar k), node v) :: entryNodes es, true, some rest)
  | k, v, [], level, outer, fuel, rest, hv, _, h => by
    have := length_pretty_pos level v
    obtain ⟨fuel, rfl⟩ : ∃ f, fuel = f + 1 := ⟨fuel - 1, by omega⟩
    have read := value_pretty v level fuel (lineBreak outer ++ '\x7d' :: rest) hv
      (ends_lineBreak ..) (by omega)
    have next : skipSpace (lineBreak outer ++ '\x7d' :: rest) = '\x7d' :: rest :=
      skipSpace_lineBreak outer ('\x7d' :: rest)
    rw [← value_of_skipSpace (skipSpace_blank _)] at read
    simpa [prettyEntries, entryNodes] using members_last read next
  | k, v, (k', w) :: es, level, outer, fuel, rest, hv, hes, h => by
    have := length_pretty_pos level v
    simp only [prettyEntries, List.length_cons, List.length_append] at h
    obtain ⟨fuel, rfl⟩ : ∃ f, fuel = f + 1 := ⟨fuel - 1, by omega⟩
    have others := members_pretty k' w es level outer fuel rest hes.1 hes.2 (by omega)
    rw [← members_of_skipSpace (skipSpace_lineBreak level _)] at others
    have read := value_pretty v level fuel
      (',' :: (lineBreak level ++ (string k' ++ ':' :: ' ' :: (prettyChars level w
        ++ prettyEntries level es ++ lineBreak outer ++ '\x7d' :: rest)))) hv ⟨_, .inl rfl⟩
      (by omega)
    rw [← value_of_skipSpace (skipSpace_blank _)] at read
    simpa [prettyEntries, entryNodes] using members_next read others
termination_by _ v es => sizeOf v + sizeOf es

end

/-- **A text of JSON is read as the value that it was written for.** -/
theorem document_pretty {v : Value} (h : v.Narrow) :
    (document (pretty v ++ "\n")).root.Holds v ∧ (document (pretty v ++ "\n")).sound := by
  have chars : (pretty v ++ "\n").toList = prettyChars 0 v ++ ['\n'] := by
    simp [pretty]
  have read := value_pretty v 0 (2 * (prettyChars 0 v ++ ['\n']).length + 1) ['\n'] h
    ⟨[], .inr rfl⟩ (by simp; omega)
  unfold document
  rw [chars]
  dsimp only
  rw [read]
  exact ⟨node_holds v, rfl⟩

/-- **What a faithful codec writes as JSON is read back.** -/
theorem decode_pretty {c : Codec α} (h : c.Faithful) {a : α} (narrow : (c.write a).Narrow) :
    decode c (pretty (c.write a) ++ "\n") = .ok a :=
  h.decode (document_pretty narrow).1 (document_pretty narrow).2

end Json

end Converge
