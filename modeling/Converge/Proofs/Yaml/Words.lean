import Converge.Proofs.Data.Codec
import Converge.Proofs.Yaml.Lines
/-!
# The tokens of a printed value

`words` are the tokens of a value after its key or its dash.  A printed value is read as its tokens
by induction on the value: a scalar is one token, an empty collection two, and a list or a table is
read mark by mark (`step_dash`, `steps_key`).  The first mark of a collection may open it, and
`around` and `opening` say what that adds, so that one statement is about its first entry and the
others.

Main statements: `steps_value`, `steps_items` and `steps_entries`.
-/

namespace Converge.Yaml

/-! ## 1. Tokens -/

mutual

/-- The tokens of a value after a key or a dash. -/
def words (mapping : Bool) : Value → List Token
  | .null => [.scalar "null" .plain]
  | .bool true => [.scalar "true" .plain]
  | .bool false => [.scalar "false" .plain]
  | .int n => [.scalar (toString n) .plain]
  | .text s => [.scalar s (styleOf s)]
  | .list [] => [.flowSequenceStart, .flowSequenceEnd]
  | .list items =>
    if mapping then itemWords items else .blockSequenceStart :: itemWords items ++ [.blockEnd]
  | .table [] => [.flowMappingStart, .flowMappingEnd]
  | .table entries => .blockMappingStart :: entryWords entries ++ [.blockEnd]

/-- The tokens of some items with their dashes. -/
def itemWords : List Value → List Token
  | [] => []
  | v :: rest => .blockEntry :: words false v ++ itemWords rest

/-- The tokens of some entries with their keys. -/
def entryWords : List (String × Value) → List Token
  | [] => []
  | (k, v) :: rest => .key :: .scalar k .plain :: .value :: words true v ++ entryWords rest

end

/-- Whether a text is a key that is written plainly and taken for one. -/
def IsPlainKey (key : String) : Prop := styleOf key = .plain ∧ key.toList.length ≤ 1024

instance (key : String) : Decidable (IsPlainKey key) := inferInstanceAs (Decidable (_ ∧ _))

/-- A plain key begins with a character of its own, and is written as it is. -/
theorem IsPlainKey.exists_plain {key : String} (h : IsPlainKey key) : ∃ first text,
    key.toList = first :: text ∧ Plain first text ∧ keyText key = first :: text := by
  rcases styleOf_cases key with ⟨-, plain, found⟩ | ⟨style, -⟩ | ⟨style, -⟩ | style
  · obtain ⟨first, text, hs, plain'⟩ := exists_of_plain plain found
    refine ⟨first, text, hs, plain', ?_⟩
    have line : key.toList.any isBreak = false := by
      simp only [canBePlain, Bool.and_eq_true, Bool.not_eq_true'] at plain
      exact plain.1.1.1.2
    rw [keyText, line, scalarText, h.1, hs]
    rfl
  all_goals
    rw [h.1] at style
    cases style

theorem startsToken_dash (more : List Char) : StartsToken ('-' :: more) := by
  rintro _ ⟨⟩
  decide

theorem IsPlainKey.startsToken {key : String} (h : IsPlainKey key) (more : List Char) :
    StartsToken (key.toList ++ more) := by
  obtain ⟨first, text, hs, plain, -⟩ := h.exists_plain
  exact hs ▸ plain.startsToken more

theorem keyText_eq {key : String} (h : IsPlainKey key) : keyText key = key.toList := by
  obtain ⟨first, text, hs, -, written⟩ := h.exists_plain
  rw [written, hs]

namespace Lexer

variable {l l' s : Lexer} {p : Cursor} {indent : Int} {outer : List Int} {allowed : Bool}
  {q : List Token} {column k : Nat} {rest more : List Char} {mark : Option KeyCandidate}

/-! ## 2. Dashes and keys -/

/-- The columns around a collection, one more if the collection begins. -/
def around (indent : Int) (k : Nat) (outer : List Int) : List Int :=
  if indent < k then indent :: outer else outer

/-- The token at the beginning of a collection, if it begins. -/
def opening (indent : Int) (k : Nat) (t : Token) : List Token := if indent < k then [t] else []

variable (p outer allowed q) in
theorem openAt_emit (inside : indent ≤ k) (t : Token) :
    (before p indent outer allowed q).openAt k t none =
      before p k (around indent k outer) allowed (q ++ opening indent k t) := by
  by_cases h : indent < k
  · simp [openAt, inFlow, marked, around, opening, h, emit]
  · obtain rfl : indent = k := by omega
    simp [openAt, marked, around, opening]

variable (mark p outer allowed q) in
theorem openAt_insert (inside : indent ≤ k) (t : Token) (ts : List Token) :
    (marked mark p indent outer allowed (q ++ ts)).openAt k t (some q.length) =
      marked mark p k (around indent k outer) allowed (q ++ opening indent k t ++ ts) := by
  by_cases h : indent < k
  · simp [openAt, inFlow, marked, around, opening, h, insert]
  · obtain rfl : indent = k := by omega
    simp [openAt, marked, around, opening]

theorem step_of_comes (comes : l.Comes s) (next : s.next = some l') (going : l.finished = false)
    (past : l'.place.rest.length < l.place.rest.length) : Step l l' :=
  ⟨(advance_of_comes comes).trans next, going, past⟩

theorem atMarker_dash (h : p.rest = '-' :: more) (ends : endsWord more) (mark : Char) :
    p.atMarker mark = false := by
  unfold Cursor.atMarker
  rw [h]
  split
  next y z rest e =>
    obtain ⟨rfl, rfl⟩ := List.cons.inj e
    have second : y ≠ '-' := by
      rintro rfl
      nomatch ends
    by_cases hm : '-' = mark
    · simp [← hm, second]
    · simp [hm]
  next => simp

/-- The dash of an item. -/
theorem step_dash (h : l.Rests k ('-' :: more) indent outer q) (inside : indent ≤ k)
    (ends : endsWord more) : ∃ p, p.rest = more ∧ p.column = k + 1 ∧
      Step l (before p k (around indent k outer) true
        (q ++ opening indent k .blockSequenceStart ++ [.blockEntry])) := by
  obtain ⟨going, lower, -, p, hp, place, comes⟩ := h
  rw [dedent_of_le inside] at comes
  refine ⟨p.past 1 more, rfl, by simp [place], step_of_comes comes ?_ going lower⟩
  have entry : (before p indent outer true q).next = (before p indent outer true q).blockEntry := by
    simp [Lexer.next, marked, hp, atMarker_dash hp ends, ends]
  have opened := openAt_emit p outer true q inside .blockSequenceStart
  rw [entry, blockEntry]
  have column : (before p indent outer true q).place.column = k := place
  have allowed : (before p indent outer true q).keyAllowed = true := rfl
  simp only [allowed, column, opened, dropCandidate_before, Bool.not_true, Bool.and_false]
  simp [emit, marked, Cursor.skip_eq hp]

/-- A key in plain style is not the mark between two documents. -/
theorem alone_of_plain {first : Char} {text : List Char} (plain : Plain first text)
    (h : p.rest = first :: (text ++ ':' :: more)) : p.atDocumentMarker = false := by
  have colon : ∀ mark, mark = '-' ∨ mark = '.' → ':' ≠ mark := by rintro _ (rfl | rfl) <;> decide
  have other : ∀ mark, mark = '-' ∨ mark = '.' → p.atMarker mark = false := by
    intro mark hm
    have distinct := plain.marker mark hm
    unfold Cursor.atMarker
    rw [h]
    split
    next x y z rest e =>
      rcases text with _ | ⟨a, _ | ⟨b, text⟩⟩
      · obtain rfl : ':' = y := (List.cons.inj (List.cons.inj e).2).1
        simp [colon mark hm]
      · obtain rfl : ':' = z := (List.cons.inj (List.cons.inj (List.cons.inj e).2).2).1
        simp [colon mark hm]
      · simp only [List.cons_append, List.cons.injEq] at e
        obtain ⟨rfl, rfl, rfl, -⟩ := e
        have apart : ¬ (first = mark ∧ a = mark ∧ b = mark) := by
          rintro ⟨rfl, rfl, rfl⟩
          exact distinct ⟨text, rfl⟩
        refine Bool.and_eq_false_iff.2 (.inr (Bool.eq_false_iff.2 fun marks => apart ?_))
        simpa [and_assoc] using (Bool.and_eq_true_iff.1 marks).1
    next => simp
  simp [Cursor.atDocumentMarker, other]

/-- A token that stands right here. -/
theorem comes_here {ch : Char} (fresh : l.dropStale = some l) (h : l.place.rest = ch :: rest)
    (next : StartsToken [ch]) (stays : l.dedent l.place.column = l) : l.Comes l := by
  have starts : StartsToken (ch :: rest) := fun c hc => next c hc
  have stop := toNextToken_spaces (n := 0) h starts l.place.rest.length
  have same : l.place.past 0 (ch :: rest) = l.place := Cursor.past_zero h
  rw [same] at stop
  exact ⟨l, l, fresh, (congrArg dropStale stop).trans fresh, stays.symm⟩

/-- A candidate on the same line and not too far away is kept. -/
theorem dropStale_near {flow : List (Option KeyCandidate)} (empty : flow = [] ∨ flow = [none])
    (near : ∀ k ∈ mark, p.line ≤ k.place.line ∧ p.index ≤ k.place.index + 1024) :
    dropStale ⟨p, indent, outer, allowed, mark, flow, q, 0, false⟩ =
      some ⟨p, indent, outer, allowed, mark, flow, q, 0, false⟩ := by
  cases mark with
  | none => rcases empty with rfl | rfl <;> rfl
  | some k =>
    obtain ⟨line, index⟩ := near k rfl
    have stays : isStale ⟨p, indent, outer, allowed, some k, flow, q, 0, false⟩ k = false := by
      simp [isStale, Nat.not_lt.2 line, Nat.not_lt.2 index]
    rcases empty with rfl | rfl <;> simp [dropStale, Lexer.fresh, stays]

variable (outer allowed) in
/-- The colon after a key.  The key, and the mapping if it begins, go in front of the key's text. -/
theorem next_colon (candidate : KeyCandidate) (h : p.rest = ':' :: more) (ends : endsWord more)
    (number : candidate.number = q.length) (place : candidate.place.column = k)
    (inside : indent ≤ k) (ts : List Token) :
    (marked (some candidate) p indent outer allowed (q ++ ts)).next =
      some (before (p.past 1 more) k (around indent k outer) false
        (q ++ opening indent k .blockMappingStart ++ .key :: ts ++ [.value])) := by
  have dashes := atMarker_eq_false h (show ':' ≠ '-' by decide)
  have dots := atMarker_eq_false h (show ':' ≠ '.' by decide)
  have value : (marked (some candidate) p indent outer allowed (q ++ ts)).next =
      (marked (some candidate) p indent outer allowed (q ++ ts)).value := by
    simp [Lexer.next, marked, h, dashes, dots, ends]
  have named : (marked (some candidate) p indent outer allowed (q ++ ts)).insert q.length .key =
      marked (some candidate) p indent outer allowed (q ++ .key :: ts) := by
    simp [Lexer.insert, marked]
  have found : (marked (some candidate) p indent outer allowed (q ++ ts)).candidate =
      some candidate := rfl
  have opened := openAt_insert p outer allowed q (some candidate) inside .blockMappingStart
    (.key :: ts)
  rw [value, Lexer.value]
  simp only [found, number, named, place, opened]
  simp [marked, setCandidate, emit, Cursor.skip_eq h]

/-- A key and the colon after it. -/
theorem steps_key {key : String} (h : l.Rests k (key.toList ++ ':' :: more) indent outer q)
    (inside : indent ≤ k) (plain : IsPlainKey key) (ends : endsWord more) :
    ∃ p, p.rest = more ∧ k < p.column ∧
      Steps l (before p k (around indent k outer) false
        (q ++ opening indent k .blockMappingStart ++ [.key, .scalar key .plain, .value])) := by
  obtain ⟨going, lower, -, p, hp, place, comes⟩ := h
  obtain ⟨first, text, hkey, plain', -⟩ := plain.exists_plain
  have word : String.ofList (first :: text) = key := by rw [← hkey, String.ofList_toList]
  have size : (first :: text).length ≤ 1024 := hkey ▸ plain.2
  rw [dedent_of_le inside] at comes
  rw [hkey] at hp lower
  have margin : PlainEnd (indent + 1).toNat (':' :: more) id false := .key ends
  have scalar := plain_before outer true q margin rfl plain' hp
    (alone_of_plain plain' hp) (by omega)
  rw [word, id] at scalar
  have step := step_of_comes comes scalar going (by simp [marked] at lower ⊢; omega)
  generalize hp' : p.past (first :: text).length (':' :: more) = p' at scalar step
  have rest : p'.rest = ':' :: more := hp' ▸ rfl
  have column : p'.column = k + (first :: text).length := hp' ▸ congrArg (· + _) place
  have near : ∀ c ∈ candidateAt p indent true q,
      p'.line ≤ c.place.line ∧ p'.index ≤ c.place.index + 1024 := by
    rintro _ ⟨⟩
    subst hp'
    exact ⟨Nat.le_refl _, Nat.add_le_add_left size _⟩
  have fresh : (marked (candidateAt p indent true q) p' indent outer false
      (q ++ [.scalar key .plain])).dropStale = some (marked (candidateAt p indent true q) p' indent
      outer false (q ++ [.scalar key .plain])) := dropStale_near (.inl rfl) near
  have colon := comes_here fresh rest (by rintro _ ⟨⟩; decide)
    (dedent_of_le (show indent ≤ p'.column by omega))
  have further : k < (p'.past 1 more).column := by
    rw [Cursor.past_column, column]
    omega
  refine ⟨p'.past 1 more, rfl, further, .tail (.single step) ?_⟩
  refine step_of_comes colon ?_ rfl (by simp [marked, rest])
  have taken := next_colon outer false ⟨indent = p.column, q.length, p⟩ rest ends rfl place inside
    [.scalar key .plain]
  rw [List.append_assoc] at taken
  exact taken

/-! ## 3. Scalars and empty collections -/

variable {q' : List Token} {cs : List Char} {outer' : Nat}

/-- A token after a space, the last thing on its line. -/
theorem steps_inline (h : p.rest = ' ' :: (cs ++ (spaces column ++ rest))) (filled : cs ≠ [])
    (starts : StartsToken (cs ++ (spaces column ++ rest))) (inside : indent < p.column)
    (read : ∃ l', (before (p.past 1 (cs ++ (spaces column ++ rest))) indent outer allowed q).next =
      some l' ∧ l'.Rests column rest indent outer q') :
    ∃ l', Steps (before p indent outer allowed q) l' ∧ l'.Rests column rest indent outer q' := by
  obtain ⟨l', taken, rests⟩ := read
  have inside' : indent ≤ p.column + (1 : Nat) := by omega
  have comes := comes_before outer allowed q (n := 1) h starts inside'
  refine ⟨l', .single (step_of_comes comes taken rfl (Nat.lt_of_le_of_lt rests.2.2.1 ?_)), rests⟩
  have := List.length_pos_iff.2 filled
  simp [marked, h, length_spaces]
  omega

/-- A word in plain style. -/
theorem steps_word (plain : canBePlain cs) (filled : cs ≠ [])
    (h : p.rest = ' ' :: (cs ++ '\n' :: (spaces column ++ rest))) (inside : outer' < p.column)
    (out : column ≤ outer') (next : StartsToken rest) :
    ∃ l', Steps (before p outer' outer allowed q) l' ∧
      l'.Rests column rest outer' outer (q ++ [.scalar (String.ofList cs) .plain]) := by
  obtain ⟨first, text, rfl⟩ := List.exists_cons_of_ne_nil filled
  have plain := plain_of_canBePlain plain
  have written : p.rest = ' ' :: ((first :: text ++ ['\n']) ++ (spaces column ++ rest)) := by
    simp [h]
  refine steps_inline written (by simp) ?_ (by omega)
    (rests_plain plain (by simp) (by simp; omega) out next)
  rw [List.append_assoc]
  exact plain.startsToken _

theorem steps_text (s : String)
    (h : p.rest = ' ' :: (closeLine (scalarText (outer' + 2) s) ++ (spaces column ++ rest)))
    (inside : outer' < p.column) (out : column ≤ outer') (next : StartsToken rest) :
    ∃ l', Steps (before p outer' outer allowed q) l' ∧
      l'.Rests column rest outer' outer (q ++ [.scalar s (styleOf s)]) :=
  steps_inline h (closeLine_ne_nil _) (startsToken_text s _ _) (by omega)
    (rests_text s rfl (by simp; omega) out next)

/-- The two brackets of an empty collection and their tokens. -/
inductive Brackets : Char → Char → Token → Token → Prop
  | list : Brackets '[' ']' .flowSequenceStart .flowSequenceEnd
  | table : Brackets '\x7b' '\x7d' .flowMappingStart .flowMappingEnd

variable {a b : Char} {t u : Token}

theorem next_open (pair : Brackets a b t u) (h : l.place.rest = a :: more) :
    l.next = l.openFlow t := by
  cases pair <;> simp [Lexer.next, h, atMarker_eq_false h]

theorem next_close (pair : Brackets a b t u) (h : l.place.rest = b :: more) :
    l.next = l.closeFlow u := by
  cases pair <;> simp [Lexer.next, h, atMarker_eq_false h]

theorem Brackets.startsToken (pair : Brackets a b t u) :
    (∀ more, StartsToken (a :: more)) ∧ ∀ more, StartsToken (b :: more) := by
  cases pair <;> constructor <;> rintro more _ ⟨⟩ <;> decide

/-- An empty collection in brackets. -/
theorem steps_brackets (pair : Brackets a b t u)
    (h : p.rest = ' ' :: a :: b :: '\n' :: (spaces column ++ rest)) (inside : indent < p.column)
    (next : StartsToken rest) : ∃ l', Steps (before p indent outer allowed q) l' ∧
      l'.Rests column rest indent outer (q ++ [t, u]) := by
  have comes := comes_before outer allowed q (n := 1) h
    (pair.startsToken.1 _) (show indent ≤ p.column + (1 : Nat) by omega)
  generalize hp' : p.past 1 (a :: b :: '\n' :: (spaces column ++ rest)) = p' at comes
  have rest' : p'.rest = a :: b :: '\n' :: (spaces column ++ rest) := hp' ▸ rfl
  have inside' : indent < p'.column := by subst hp'; simp; omega
  have opened : (before p' indent outer allowed q).next =
      some ⟨p'.past 1 (b :: '\n' :: (spaces column ++ rest)), indent, outer, true,
        candidateAt p' indent allowed q, [none], q ++ [t], 0, false⟩ := by
    rw [next_open pair rest', openFlow, markCandidate_before]
    simp [marked, emit, Cursor.skip_eq rest']
  generalize hp'' : p'.past 1 (b :: '\n' :: (spaces column ++ rest)) = p'' at opened
  have rest'' : p''.rest = b :: '\n' :: (spaces column ++ rest) := hp'' ▸ rfl
  have near : ∀ k ∈ candidateAt p' indent allowed q, k.required = false ∧
      p''.line ≤ k.place.line ∧ p''.index ≤ k.place.index + 1024 ∧ k.place.line ≤ p''.line := by
    intro k hk
    obtain ⟨optional, rfl⟩ := candidateAt_free inside' k hk
    subst hp''
    exact ⟨optional, Nat.le_refl _, Nat.add_le_add_left (by decide) _, Nat.le_refl _⟩
  generalize hs : Lexer.mk p'' indent outer true (candidateAt p' indent allowed q) [none]
    (q ++ [t]) 0 false = s at opened
  have fresh : s.dropStale = some s := hs ▸ dropStale_near (.inr rfl) fun k hk =>
    ⟨(near k hk).2.1, (near k hk).2.2.1⟩
  have place : s.place.rest = b :: '\n' :: (spaces column ++ rest) := hs ▸ rest''
  have comes' := comes_here fresh place (pair.startsToken.2 _) (hs ▸ rfl)
  have closed : s.next = some (marked (candidateAt p' indent allowed q)
      (p''.past 1 ('\n' :: (spaces column ++ rest))) indent outer false (q ++ [t, u])) := by
    rw [next_close pair place, ← hs]
    simp [closeFlow, dropCandidate, candidate, marked, emit, Cursor.skip_eq rest'']
  refine ⟨_, .tail (.single (step_of_comes comes opened rfl ?_))
    (step_of_comes comes' closed (hs ▸ rfl) ?_), rests_line (fun k hk => ?_) rfl next⟩
  · simp [marked, h, place]
  · simp [marked, place]
  · exact ⟨(near k hk).1, (near k hk).2.2.2⟩

/-! ## 4. Values -/

theorem endsWord_afterMark (c : Nat) (mapping : Bool) (v : Value) (more : List Char) :
    endsWord (afterMark c mapping v ++ more) := by
  unfold afterMark
  split <;> try rfl
  all_goals
    split <;> rfl

variable (outer q) in
/-- A collection that begins on the line after a key. -/
theorem rests_below (c : Nat) (h : p.rest = '\n' :: (spaces k ++ rest)) (next : StartsToken rest) :
    (before p c outer false q).Rests k rest c outer q := rests_line nofun h next

variable (outer q) in
/-- A collection that begins after a space. -/
theorem rests_inline (h : p.rest = ' ' :: rest) (place : p.column + 1 = k) (next : StartsToken rest)
    (inside : indent ≤ k) : (before p indent outer true q).Rests k rest indent outer q := by
  have comes := comes_before outer true q (n := 1) h next
    (show indent ≤ p.column + (1 : Nat) by omega)
  refine ⟨rfl, by simp [marked, h], by simp [marked, h], p.past 1 rest, rfl, place, ?_⟩
  rwa [dedent_of_le inside]

/-- The end of a collection that is indented further than what is around. -/
theorem Rests.leave {c : Nat} {ts : List Token}
    (h : l.Rests column rest k (around c k outer) (q ++ opening c k t ++ ts)) (inside : c < k)
    (out : column ≤ c) : l.Rests column rest c outer (q ++ (t :: ts ++ [.blockEnd])) := by
  have inside' : (c : Int) < k := by omega
  simp only [around, opening, inside', if_true] at h
  simpa using h.pop (Int.ofNat_lt.2 (Nat.lt_of_le_of_lt out inside))

theorem listLines_append (k : Nat) (v : Value) (vs : List Value) (tail : List Char) :
    listLines k (v :: vs) ++ tail =
      spaces k ++ '-' :: (afterMark k false v ++ (listLines k vs ++ tail)) := by
  simp [listLines]

theorem tableLines_append {key : String} (h : IsPlainKey key) (k : Nat) (v : Value)
    (es : List (String × Value)) (tail : List Char) : tableLines k ((key, v) :: es) ++ tail =
      spaces k ++ (key.toList ++ ':' :: (afterMark k true v ++ (tableLines k es ++ tail))) := by
  simp [tableLines, keyText_eq h]

/-- Lines of a collection that begins on the line of its mark. -/
theorem drop_lines {lines tail more : List Char} (filled : k ≤ lines.length)
    (h : lines ++ tail = spaces k ++ more) : lines.drop k ++ tail = more := by
  rw [← List.drop_append_of_le_length filled, h]
  exact List.drop_left' (length_spaces k)

theorem le_length_listLines (k : Nat) (v : Value) (vs : List Value) :
    k ≤ (listLines k (v :: vs)).length := by
  simp [listLines, length_spaces]

theorem le_length_tableLines (k : Nat) (e : String × Value) (es : List (String × Value)) :
    k ≤ (tableLines k (e :: es)).length := by
  simp [tableLines, length_spaces]

mutual

/-- **The tokens of a value after its mark**, up to the end of its last line. -/
theorem steps_value : ∀ (v : Value) (mapping : Bool) {c column : Nat} {p : Cursor}
    {outer : List Int} {q : List Token} {rest : List Char}, v.Keyed IsPlainKey →
    p.rest = afterMark c mapping v ++ (spaces column ++ rest) → c < p.column →
    (mapping = false → p.column = c + 1) → column ≤ c → StartsToken rest →
    ∃ l', Steps (before p c outer (!mapping) q) l' ∧
      l'.Rests column rest c outer (q ++ words mapping v)
  | .null, _, _, _, _, _, _, _, _, h, inside, _, out, next =>
    steps_word (show canBePlain ['n', 'u', 'l', 'l'] by decide) (by simp) h inside out next
  | .bool true, _, _, _, _, _, _, _, _, h, inside, _, out, next =>
    steps_word (show canBePlain ['t', 'r', 'u', 'e'] by decide) (by simp) h inside out next
  | .bool false, _, _, _, _, _, _, _, _, h, inside, _, out, next =>
    steps_word (show canBePlain ['f', 'a', 'l', 's', 'e'] by decide) (by simp) h inside out next
  | .int n, mapping, c, column, p, outer, q, rest, _, h, inside, _, out, next => by
    obtain ⟨plain, filled⟩ := canBePlain_toString n
    have written : p.rest = ' ' :: ((toString n).toList ++ '\n' :: (spaces column ++ rest)) :=
      h.trans (by simp only [afterMark, List.cons_append, List.append_assoc, List.nil_append])
    have read : ∃ l', Steps (before p c outer (!mapping) q) l' ∧ _ :=
      steps_word plain filled written inside out next
    rwa [String.ofList_toList] at read
  | .text s, _, _, _, _, _, _, _, _, h, inside, _, out, next =>
    steps_text s h inside out next
  | .list [], _, _, _, _, _, _, _, _, h, inside, _, _, next =>
    steps_brackets .list h (by omega) next
  | .table [], _, _, _, _, _, _, _, _, h, inside, _, _, next =>
    steps_brackets .table h (by omega) next
  | .list (v :: vs), true, c, _, _, outer, q, _, keyed, h, _, _, out, next => by
    have line := rests_below outer q c (h.trans (congrArg ('\n' :: ·) (listLines_append ..)))
      (startsToken_dash _)
    obtain ⟨l', steps, rests⟩ := steps_items v vs keyed.1 keyed.2 line (Int.le_refl _) out next
    exact ⟨l', steps, by simpa [around, opening, words] using rests⟩
  | .list (v :: vs), false, c, column, _, outer, q, rest, keyed, h, _, place, out, next => by
    have deeper : (c : Int) ≤ (c + 2 : Nat) := by omega
    have lines := drop_lines (le_length_listLines (c + 2) v vs)
      (listLines_append (c + 2) v vs (spaces column ++ rest))
    have line := rests_inline outer q (h.trans (congrArg (' ' :: ·) lines))
      (congrArg (· + 1) (place rfl)) (startsToken_dash _) deeper
    obtain ⟨l', steps, rests⟩ := steps_items v vs keyed.1 keyed.2 line deeper (by omega) next
    exact ⟨l', steps, rests.leave (by omega) out⟩
  | .table ((key, v) :: es), true, c, _, _, outer, q, _, keyed, h, _, _, out, next => by
    have line := rests_below outer q c
      (h.trans (congrArg ('\n' :: ·) (tableLines_append keyed.1 ..))) (keyed.1.startsToken _)
    obtain ⟨l', steps, rests⟩ := steps_entries key v es keyed.1 keyed.2.1 keyed.2.2 line (by omega)
      (by omega) next
    exact ⟨l', steps, rests.leave (by omega) out⟩
  | .table ((key, v) :: es), false, c, column, _, outer, q, rest, keyed, h, _, place, out,
      next => by
    have deeper : (c : Int) ≤ (c + 2 : Nat) := by omega
    have lines := drop_lines (le_length_tableLines (c + 2) (key, v) es)
      (tableLines_append keyed.1 (c + 2) v es (spaces column ++ rest))
    have line := rests_inline outer q (h.trans (congrArg (' ' :: ·) lines))
      (congrArg (· + 1) (place rfl)) (keyed.1.startsToken _) deeper
    obtain ⟨l', steps, rests⟩ := steps_entries key v es keyed.1 keyed.2.1 keyed.2.2 line deeper
      (by omega) next
    exact ⟨l', steps, rests.leave (by omega) out⟩
termination_by v => sizeOf v

theorem steps_items : ∀ (v : Value) (vs : List Value) {l : Lexer} {k column : Nat} {indent : Int}
    {outer : List Int} {q : List Token} {rest : List Char}, v.Keyed IsPlainKey →
    Value.KeyedItems IsPlainKey vs →
    l.Rests k ('-' :: (afterMark k false v ++ (listLines k vs ++ (spaces column ++ rest)))) indent
      outer q → indent ≤ k → column ≤ k → StartsToken rest →
    ∃ l', Steps l l' ∧ l'.Rests column rest k (around indent k outer)
      (q ++ opening indent k .blockSequenceStart ++ itemWords (v :: vs))
  | v, [], _, _, _, _, _, _, _, keyed, _, h, inside, out, next => by
    obtain ⟨p, hp, place, step⟩ := step_dash h inside (endsWord_afterMark ..)
    obtain ⟨l', steps, rests⟩ := steps_value v false keyed hp (by omega) (fun _ => place) out next
    exact ⟨l', .head step steps, by simpa [itemWords] using rests⟩
  | v, w :: vs, _, k, _, _, _, _, _, keyed, others, h, inside, out, next => by
    obtain ⟨p, hp, place, step⟩ := step_dash h inside (endsWord_afterMark ..)
    rw [listLines_append] at hp
    obtain ⟨l', steps, rests⟩ := steps_value v false keyed hp (by omega) (fun _ => place)
      (Nat.le_refl k) (startsToken_dash _)
    obtain ⟨l'', steps', rests'⟩ := steps_items w vs others.1 others.2 rests (Int.le_refl _) out
      next
    exact ⟨l'', .trans (.head step steps) steps', by
      simpa [itemWords, around, opening] using rests'⟩
termination_by v vs => sizeOf v + sizeOf vs

theorem steps_entries : ∀ (key : String) (v : Value) (es : List (String × Value)) {l : Lexer}
    {k column : Nat} {indent : Int} {outer : List Int} {q : List Token} {rest : List Char},
    IsPlainKey key → v.Keyed IsPlainKey → Value.KeyedEntries IsPlainKey es →
    l.Rests k (key.toList ++ ':' :: (afterMark k true v ++ (tableLines k es ++
      (spaces column ++ rest)))) indent outer q → indent ≤ k → column ≤ k → StartsToken rest →
    ∃ l', Steps l l' ∧ l'.Rests column rest k (around indent k outer)
      (q ++ opening indent k .blockMappingStart ++ entryWords ((key, v) :: es))
  | key, v, [], _, _, _, _, _, _, _, plain, keyed, _, h, inside, out, next => by
    obtain ⟨p, hp, place, steps⟩ := steps_key h inside plain (endsWord_afterMark ..)
    obtain ⟨l', steps', rests⟩ := steps_value v true keyed hp place nofun out next
    exact ⟨l', .trans steps steps', by simpa [entryWords] using rests⟩
  | key, v, (key', w) :: es, _, k, _, _, _, _, _, plain, keyed, others, h, inside, out, next => by
    obtain ⟨p, hp, place, steps⟩ := steps_key h inside plain (endsWord_afterMark ..)
    rw [tableLines_append others.1] at hp
    obtain ⟨l', steps', rests⟩ := steps_value v true keyed hp place nofun (Nat.le_refl k)
      (others.1.startsToken _)
    obtain ⟨l'', steps'', rests'⟩ := steps_entries key' w es others.1 others.2.1 others.2.2 rests
      (Int.le_refl _) out next
    exact ⟨l'', .trans (.trans steps steps') steps'', by
      simpa [entryWords, around, opening] using rests'⟩
termination_by _ v es => sizeOf v + sizeOf es

end

end Lexer

end Converge.Yaml
