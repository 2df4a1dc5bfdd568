import Converge.Proofs.Yaml.Literal
import Converge.Proofs.Yaml.Queue
import Converge.Proofs.Yaml.Quoted
/-!
# The tokens of printed lines

A scalar of a printed document is the last thing on its line, and what comes next is known only by
the column of the line below: it may close collections.  `Rests` describes a lexer between the two,
by the column and the text that it is about to come to.  Every kind of scalar takes a lexer to such
a place (`rests_text`), and from there a collection that ends is closed (`Rests.pop`).

Main statement: `rests_text`.
-/

namespace Converge.Yaml

/-- Whether a token or the end of the text comes next. -/
def StartsToken (cs : List Char) : Prop :=
  ∀ ch ∈ cs.head?, isBlank ch = false ∧ isBreak ch = false ∧ ch ≠ '#' ∧ ch ≠ '\ufeff'

theorem StartsToken.word {cs : List Char} (h : StartsToken cs) : StartsWord cs :=
  fun ch hch => ⟨(h ch hch).1, (h ch hch).2.1⟩

theorem Plain.startsToken {first : Char} {text : List Char} (plain : Plain first text)
    (more : List Char) : StartsToken (first :: text ++ more) := by
  rintro _ ⟨⟩
  obtain ⟨tab, line⟩ := plain.text.chars first List.mem_cons_self
  refine ⟨by simp [isBlank, plain.space, tab], line, ?_, plain.mark⟩
  rintro rfl
  exact absurd plain.leading (by decide)

/-! ## 1. Texts -/

theorem closeLine_eq {cs : List Char} (h : ∀ ch ∈ cs.getLast?, isBreak ch = false) :
    closeLine cs = cs ++ ['\n'] := by
  unfold closeLine
  cases hl : cs.getLast? with
  | none => simp
  | some last => simp [h last hl]

theorem closeLine_ne_nil (cs : List Char) : closeLine cs ≠ [] := by
  unfold closeLine
  split
  · rintro rfl
    contradiction
  · exact List.concat_ne_nil _ _

/-- The styles that a text is written in, with what allows it. -/
theorem styleOf_cases (s : String) :
    (styleOf s = .plain ∧ canBePlain s.toList ∧ foundPlain s = .text s) ∨
    (styleOf s = .singleQuoted ∧ canBeSingle s.toList ∧ '\n' ∉ s.toList) ∨
    (styleOf s = .literal ∧ canBeLiteral s.toList) ∨ styleOf s = .doubleQuoted := by
  by_cases lines : '\n' ∈ s.toList
  · have wanted : wantedStyle s = .literal := by simp [wantedStyle, lines]
    cases hl : canBeLiteral s.toList <;> simp [styleOf, wanted, hl]
  · cases hs : canBeSingle s.toList <;> cases hp : canBePlain s.toList <;>
      by_cases hf : foundPlain s = .text s ∧ isPaddedDigits s.toList = false <;>
      simp [styleOf, wantedStyle, lines, hs, hp, hf]

theorem exists_of_plain {s : String} (plain : canBePlain s.toList)
    (found : foundPlain s = .text s) :
    ∃ first text, s.toList = first :: text ∧ Plain first text := by
  cases hs : s.toList with
  | nil =>
    obtain rfl : s = "" := String.toList_eq_nil_iff.1 hs
    nomatch found
  | cons first text => exact ⟨first, text, rfl, plain_of_canBePlain (hs ▸ plain)⟩

/-- A text in quotes or written plainly fills one line or some. -/
theorem closeLine_plain {first : Char} {text : List Char} (plain : Plain first text) :
    closeLine (first :: text) = first :: text ++ ['\n'] :=
  closeLine_eq fun ch hch => (plain.text.chars ch (List.mem_of_mem_getLast? hch)).2

theorem closeLine_quoted (single : Bool) (written more : List Char) :
    closeLine (quoteSign single :: written ++ [quoteSign single]) ++ more =
      quoteSign single :: (written ++ quoteSign single :: '\n' :: more) := by
  rw [closeLine_eq fun ch hch => ?_]
  · simp
  · rw [List.getLast?_concat] at hch
    obtain rfl := Option.some.inj hch
    cases single <;> rfl

theorem literal_of_canBeLiteral {cs : List Char} (h : canBeLiteral cs) :
    (∀ ch ∈ cs, isPrintable ch) ∧ cs ≠ [] := by
  simp only [canBeLiteral, Bool.and_eq_true, List.all_eq_true, Bool.not_eq_true',
    List.isEmpty_eq_false_iff] at h
  exact ⟨h.1.1.2, h.1.1.1⟩

/-- The text of a scalar begins with a character of a token. -/
theorem startsToken_text (s : String) (indent : Nat) (more : List Char) :
    StartsToken (closeLine (scalarText indent s) ++ more) := by
  unfold scalarText
  rcases styleOf_cases s with ⟨style, plain, found⟩ | ⟨style, -⟩ | ⟨style, literal⟩ | style
  · obtain ⟨first, text, hs, plain⟩ := exists_of_plain plain found
    simp only [style, hs, closeLine_plain plain, List.append_assoc]
    exact plain.startsToken _
  · simp only [style]
    rw [show ∀ cs : List Char, closeLine ('\'' :: cs ++ ['\'']) ++ more = _ from
      fun cs => closeLine_quoted true cs more]
    rintro _ ⟨⟩
    decide
  · simp only [style, closeLine_literalBlock (literal_of_canBeLiteral literal).2]
    rintro _ ⟨⟩
    decide
  · simp only [style]
    rw [show ∀ cs : List Char, closeLine ('"' :: cs ++ ['"']) ++ more = _ from
      fun cs => closeLine_quoted false cs more]
    rintro _ ⟨⟩
    decide

namespace Lexer

variable {l s : Lexer} {p : Cursor} {indent : Int} {outer : List Int} {allowed : Bool}
  {q : List Token} {n column : Nat} {rest : List Char} {mark : Option KeyCandidate}

/-- A lexer outside of brackets that has let nothing go; `mark` may turn out to be a key. -/
def marked (mark : Option KeyCandidate) (p : Cursor) (indent : Int) (outer : List Int)
    (allowed : Bool) (q : List Token) : Lexer :=
  ⟨p, indent, outer, allowed, mark, [], q, 0, false⟩

/-- A lexer outside of brackets that has let nothing go and waits for no key. -/
abbrev before (p : Cursor) (indent : Int) (outer : List Int) (allowed : Bool) (q : List Token) :
    Lexer := marked none p indent outer allowed q

/-! ## 2. Between tokens -/

theorem toNextToken_spaces (h : l.place.rest = spaces n ++ rest) (next : StartsToken rest)
    (fuel : Nat) : toNextToken (fuel + 1) l = { l with place := l.place.past n rest } := by
  have stop : ∀ ch ∈ rest.head?,
      (ch = ' ' || (ch = '\t' && (l.inFlow || !l.keyAllowed))) = false := by
    intro ch hch
    obtain ⟨blank, -⟩ := next ch hch
    simp [isBlank] at blank
    simp [blank]
  have taken := Cursor.takeWhile_eq h (fun ch hch => by simp [List.eq_of_mem_replicate hch]) stop
  rw [length_spaces] at taken
  have bom : l.place.next? ≠ some '\ufeff' := by
    rw [Cursor.next?, h]
    intro hb
    cases n with
    | zero => exact (next _ hb).2.2.2 rfl
    | succ n => exact absurd (Option.some.inj hb) (by decide)
  have mark : (l.place.past n rest).next? ≠ some '#' := fun hm => (next _ hm).2.2.1 rfl
  have stays : (l.place.past n rest).skipBreak = none :=
    Cursor.skipBreak_eq_none fun ch hch => (next ch hch).2.1
  simp [toNextToken, bom, Cursor.skipWhile, taken, mark, stays]

theorem toNextToken_line (h : l.place.rest = '\n' :: (spaces n ++ rest)) (next : StartsToken rest)
    (flow : l.flowKeys = []) (fuel : Nat) : toNextToken (fuel + 2) l =
      { l with place := (l.place.down 1 (spaces n ++ rest)).past n rest, keyAllowed := true } := by
  have blank := Cursor.takeWhile_eq
    (p := fun ch => ch = ' ' || (ch = '\t' && (l.inFlow || !l.keyAllowed)))
    (show l.place.rest = [] ++ '\n' :: (spaces n ++ rest) from h) nofun fun ch hch => by
      obtain rfl := Option.some.inj hch
      simp
  have same : l.place.past 0 ('\n' :: (spaces n ++ rest)) = l.place := Cursor.past_zero h
  have mark : '\n' ≠ '#' ∧ '\n' ≠ '\ufeff' := by decide
  have outside : (l.keyAllowed || !l.inFlow) = true := by simp [inFlow, flow]
  rw [List.length_nil, same] at blank
  rw [toNextToken]
  simp only [Cursor.next?_eq h, Option.some.injEq, mark, decide_false, Bool.and_false,
    Bool.false_eq_true, if_false, Cursor.skipWhile, blank, Cursor.skipBreak_eq (.inl rfl) h,
    outside]
  exact toNextToken_spaces (l := { l with place := _, keyAllowed := true }) rfl next fuel

/-- Whether the next token of a lexer is taken from a state. -/
def Comes (l s : Lexer) : Prop := ∃ l₁ l₂, l.dropStale = some l₁ ∧
  (toNextToken (l₁.place.rest.length + 1) l₁).dropStale = some l₂ ∧
  s = l₂.dedent l₂.place.column

theorem advance_of_comes (h : l.Comes s) : l.advance = s.next := by
  obtain ⟨l₁, l₂, dropped, dropped', rfl⟩ := h
  simp [advance, fetch, dropped, dropped']

theorem dropStale_marked (free : ∀ k ∈ mark, k.required = false) :
    ∃ mark', (mark' = mark ∨ mark' = none) ∧
      (marked mark p indent outer allowed q).dropStale =
        some (marked mark' p indent outer allowed q) := by
  cases mark with
  | none => exact ⟨none, .inl rfl, rfl⟩
  | some k =>
    cases hs : (marked (some k) p indent outer allowed q).isStale k with
    | false => exact ⟨some k, .inl rfl, by simp [dropStale, marked, fresh] at hs ⊢; simp [hs]⟩
    | true =>
      have := free k rfl
      exact ⟨none, .inr rfl, by simp [dropStale, marked, fresh] at hs ⊢; simp [hs, this]⟩

/-- On a later line no candidate is left. -/
theorem dropStale_below (free : ∀ k ∈ mark, k.required = false ∧ k.place.line < p.line) :
    (marked mark p indent outer allowed q).dropStale = some (before p indent outer allowed q) := by
  cases mark with
  | none => rfl
  | some k =>
    obtain ⟨optional, below⟩ := free k rfl
    simp [dropStale, marked, fresh, isStale, below, optional]

/-- A token that is found by going on to some place. -/
theorem comes_of_next {p' : Cursor} {allowed' : Bool}
    (free : ∀ k ∈ mark, k.required = false ∧ k.place.line < p'.line)
    (moves : ∀ mark, toNextToken (p.rest.length + 1) (marked mark p indent outer allowed q) =
      marked mark p' indent outer allowed' q) :
    (marked mark p indent outer allowed q).Comes
      ((before p' indent outer allowed' q).dedent p'.column) := by
  obtain ⟨mark', kept, dropped⟩ : ∃ mark', (mark' = mark ∨ mark' = none) ∧
      (marked mark p indent outer allowed q).dropStale =
        some (marked mark' p indent outer allowed q) :=
    dropStale_marked fun k hk => (free k hk).1
  refine ⟨_, before p' indent outer allowed' q, dropped, ?_, rfl⟩
  refine (congrArg dropStale (moves mark')).trans (dropStale_below fun k hk => ?_)
  rcases kept with rfl | rfl
  · exact free k hk
  · nomatch hk

theorem dedent_of_le (h : indent ≤ column) :
    (marked mark p indent outer allowed q).dedent column =
      marked mark p indent outer allowed q := by
  have stays : ¬ (column : Int) < indent := by omega
  cases outer <;> simp [dedent, inFlow, marked, closeTo, stays]

theorem dedent_of_lt {out : Int} (h : (column : Int) < indent) :
    (before p indent (out :: outer) allowed q).dedent column =
      (before p out outer allowed (q ++ [.blockEnd])).dedent column := by
  simp [dedent, inFlow, marked, closeTo, h, emit]

variable (outer allowed q) in
/-- A token on the same line. -/
theorem comes_before (h : p.rest = spaces n ++ rest) (next : StartsToken rest)
    (inside : indent ≤ p.column + n) : (before p indent outer allowed q).Comes
      (before (p.past n rest) indent outer allowed q) := by
  have comes : (before p indent outer allowed q).Comes
      ((before (p.past n rest) indent outer allowed q).dedent (p.past n rest).column) :=
    comes_of_next nofun fun mark =>
      toNextToken_spaces (l := marked mark p indent outer allowed q) h next _
  rwa [dedent_of_le (by simpa using inside)] at comes

/-! ## 3. The end of a line -/

/-- Whether a lexer has come to the end of a line, so that the next token is the one at a column of
a following line, which may close what is indented further. -/
def Rests (l : Lexer) (column : Nat) (rest : List Char) (indent : Int) (outer : List Int)
    (q : List Token) : Prop :=
  l.finished = false ∧ rest.length ≤ l.place.rest.length ∧
    l.place.rest.length ≤ column + rest.length + 1 ∧ ∃ p, p.rest = rest ∧ p.column = column ∧
        l.Comes ((before p indent outer true q).dedent column)

theorem rests_line (free : ∀ k ∈ mark, k.required = false ∧ k.place.line ≤ p.line)
    (h : p.rest = '\n' :: (spaces column ++ rest)) (next : StartsToken rest) :
    (marked mark p indent outer allowed q).Rests column rest indent outer q := by
  refine ⟨rfl, by simp [marked, h]; omega, by simp [marked, h, length_spaces],
    (p.down 1 (spaces column ++ rest)).past column rest, rfl,
    Nat.zero_add column, ?_⟩
  have comes : (marked mark p indent outer allowed q).Comes
      ((before ((p.down 1 (spaces column ++ rest)).past column rest) indent outer true q).dedent
        ((p.down 1 (spaces column ++ rest)).past column rest).column) := comes_of_next
    (fun k hk => ⟨(free k hk).1, Nat.lt_succ_of_le (free k hk).2⟩) fun mark => by
      rw [h]
      exact toNextToken_line (l := marked mark p indent outer allowed q) h next rfl _
  simpa using comes

theorem rests_placed (free : ∀ k ∈ mark, k.required = false ∧ k.place.line < p.line)
    (h : p.rest = rest) (place : p.column = column) (next : StartsToken rest) :
    (marked mark p indent outer true q).Rests column rest indent outer q := by
  refine ⟨rfl, by simp [marked, h], by simp [marked, h]; omega, p, h, place, ?_⟩
  have comes : (marked mark p indent outer true q).Comes
      ((before (p.past 0 rest) indent outer true q).dedent (p.past 0 rest).column) :=
    comes_of_next free fun mark =>
      toNextToken_spaces (l := marked mark p indent outer true q) (n := 0) h next _
  have same : p.past 0 rest = p := Cursor.past_zero h
  rwa [same, place] at comes

theorem Rests.pop {out : Int} (h : l.Rests column rest indent (out :: outer) q)
    (below : (column : Int) < indent) : l.Rests column rest out outer (q ++ [.blockEnd]) := by
  obtain ⟨going, lower, upper, p, hp, place, comes⟩ := h
  rw [dedent_of_lt below] at comes
  exact ⟨going, lower, upper, p, hp, place, comes⟩

/-! ## 4. Scalars -/

/-- The candidate that the next token is, if a key may begin here. -/
def candidateAt (p : Cursor) (indent : Int) (allowed : Bool) (q : List Token) :
    Option KeyCandidate :=
  if allowed then some ⟨indent = p.column, q.length, p⟩ else none

theorem markCandidate_before : (before p indent outer allowed q).markCandidate =
    some (marked (candidateAt p indent allowed q) p indent outer allowed q) := by
  cases allowed <;>
    simp [markCandidate, marked, dropCandidate, candidate, setCandidate, inFlow, candidateAt]

theorem dropCandidate_before : (before p indent outer allowed q).dropCandidate =
    some (before p indent outer allowed q) := rfl

theorem candidateAt_free (inside : indent < p.column) :
    ∀ k ∈ candidateAt p indent allowed q, k.required = false ∧ k.place = p := by
  intro k hk
  unfold candidateAt at hk
  split at hk
  · obtain rfl := Option.some.inj hk
    exact ⟨by simpa using Int.ne_of_lt inside, rfl⟩
  · nomatch hk

variable {first : Char} {text tail : List Char}

theorem startsPlain_of_plain (plain : Plain first text) (outside : l.flowKeys = []) :
    l.startsPlain first (text ++ tail) := by
  by_cases hf : first = '?' ∨ first = ':' ∨ first = '-'
  · have goes := endsWord_append (plain.indicator hf) tail
    generalize text ++ tail = rest at goes ⊢
    have unblank : rest.head?.any isBlank = false := by
      cases rest with
      | nil => nomatch goes
      | cons c rest => exact (Bool.or_eq_false_iff.1 goes).1
    rcases hf with rfl | rfl | rfl <;> simp [startsPlain, inFlow, outside, goes, unblank]
  · obtain ⟨tab, line⟩ := plain.text.chars first List.mem_cons_self
    have leading := plain.leading
    simp [isLeadingMark] at leading
    simp [startsPlain, isBlank, plain.space, tab, line, isIndicator, leading, not_or.1 hf,
      not_or.1 (not_or.1 hf).2]

theorem next_plain (plain : Plain first text) (h : p.rest = first :: (text ++ tail))
    (alone : p.atDocumentMarker = false) :
    (before p indent outer allowed q).next = (before p indent outer allowed q).plain := by
  have goes : first = '?' ∨ first = ':' ∨ first = '-' → endsWord (text ++ tail) = false :=
    fun hf => endsWord_append (plain.indicator hf) tail
  have dash : ¬ (first = '-' ∧ endsWord (text ++ tail)) := fun ⟨hf, he⟩ => by
    rw [goes (.inr (.inr hf))] at he
    nomatch he
  have question : ¬ (first = '?' ∧ endsWord (text ++ tail)) := fun ⟨hf, he⟩ => by
    rw [goes (.inl hf)] at he
    nomatch he
  have colon : ¬ (first = ':' ∧ endsWord (text ++ tail)) := fun ⟨hf, he⟩ => by
    rw [goes (.inr (.inl hf))] at he
    nomatch he
  have starts : (before p indent outer allowed q).startsPlain first (text ++ tail) :=
    startsPlain_of_plain plain rfl
  have leading := plain.leading
  simp [isLeadingMark] at leading
  simp only [Cursor.atDocumentMarker, Bool.or_eq_false_iff] at alone
  unfold next
  simp only [marked] at starts ⊢
  simp [h, alone, leading, dash, question, colon, starts, inFlow]

variable (outer allowed q) in
/-- A plain scalar, with what follows it. -/
theorem plain_before {place : Cursor → Cursor} {broken : Bool} {margin : Nat}
    (he : PlainEnd margin tail place broken) (hm : (indent + 1).toNat = margin)
    (plain : Plain first text) (h : p.rest = first :: (text ++ tail))
    (alone : p.atDocumentMarker = false) (inside : margin ≤ p.column + 1) :
    (before p indent outer allowed q).next =
      some (marked (candidateAt p indent allowed q)
        (place (p.past (first :: text).length tail)) indent outer broken
        (q ++ [.scalar (String.ofList (first :: text)) .plain])) := by
  have number : first ≠ '#' := by
    rintro rfl
    nomatch plain.leading
  have read := plainScalar_eq he plain.text
    (fun c hc => Option.some.inj hc ▸ ⟨plain.space, number⟩) (by simp) h alone inside
  rw [next_plain plain h alone, Lexer.plain, markCandidate_before]
  simp only [Option.bind_eq_bind, Option.bind_some, marked, inFlow, List.isEmpty_nil,
    Bool.not_true, hm, read]
  rfl

/-- A value in plain style, the last thing on its line. -/
theorem rests_plain {outer' : Nat} (plain : Plain first text)
    (h : p.rest = first :: (text ++ '\n' :: (spaces column ++ rest))) (inside : outer' < p.column)
    (out : column ≤ outer') (next : StartsToken rest) :
    ∃ l', (before p outer' outer allowed q).next = some l' ∧
      l'.Rests column rest outer' outer
        (q ++ [.scalar (String.ofList (first :: text)) .plain]) := by
  have margin : ((outer' : Int) + 1).toNat = outer' + 1 := rfl
  have read := plain_before outer allowed q (.line next.word (Nat.lt_succ_of_le out)) margin plain h
    (Cursor.atDocumentMarker_eq_false (Nat.ne_of_gt (Nat.zero_lt_of_lt inside))) (by omega)
  refine ⟨_, read, rests_placed (fun k hk => ?_) rfl (Nat.zero_add column) next⟩
  obtain ⟨optional, rfl⟩ := candidateAt_free (by omega) k hk
  exact ⟨optional, Nat.lt_succ_self _⟩

theorem atMarker_eq_false {ch mark : Char} (h : p.rest = ch :: tail) (other : ch ≠ mark) :
    p.atMarker mark = false := by
  unfold Cursor.atMarker
  rw [h]
  split
  next e =>
    obtain rfl := (List.cons.inj e).1
    simp [other]
  next => simp

theorem next_quote (single : Bool) (h : p.rest = quoteSign single :: tail) :
    (before p indent outer allowed q).next =
      (before p indent outer allowed q).item (quotedToken single) := by
  have dashes : p.atMarker '-' = false :=
    atMarker_eq_false h (by cases single <;> decide)
  have dots : p.atMarker '.' = false := atMarker_eq_false h (by cases single <;> decide)
  cases single <;> simp [Lexer.next, marked, h, quoteSign, dashes, dots, inFlow]

variable (outer allowed q) in
/-- A quoted value, the last thing on its line. -/
theorem rests_quoted {single : Bool} {written text : List Char}
    (spells : SpellsText single written text)
    (h : p.rest = quoteSign single :: (written ++ quoteSign single :: '\n' ::
      (spaces column ++ rest)))
    (inside : indent < p.column) (next : StartsToken rest) :
    ∃ l', (before p indent outer allowed q).next = some l' ∧
      l'.Rests column rest indent outer (q ++ [.scalar (String.ofList text)
        (if single then .singleQuoted else .doubleQuoted)]) := by
  obtain ⟨p', read, hp', line⟩ := quotedScalar_eq
    (show ('\n' :: (spaces column ++ rest)).head? ≠ some '\'' by simp) spells h
  refine ⟨marked (candidateAt p indent allowed q) p' indent outer false _, ?_,
    rests_line (fun k hk => ?_) hp' next⟩
  · rw [next_quote single h, item, markCandidate_before]
    simp only [Option.bind_eq_bind, Option.bind_some, marked, quotedToken, read, Option.map_some]
    rfl
  · obtain ⟨optional, rfl⟩ := candidateAt_free inside k hk
    exact ⟨optional, line⟩

/-- A value in a literal block. -/
theorem rests_literal {outer' : Nat} {cs : List Char} (printable : ∀ ch ∈ cs, isPrintable ch)
    (filled : cs ≠ [])
    (h : p.rest = closeLine (literalBlock (outer' + 2) cs) ++ (spaces column ++ rest))
    (out : column ≤ outer') (next : StartsToken rest) :
    ∃ l', (before p outer' outer allowed q).next = some l' ∧
      l'.Rests column rest outer' outer (q ++ [.scalar (String.ofList cs) .literal]) := by
  obtain ⟨p', read, hp', column', line⟩ := blockScalar_eq printable filled out next.word h
  obtain ⟨more, h'⟩ : ∃ more, p.rest = '|' :: more := by
    rw [closeLine_literalBlock filled] at h
    exact ⟨_, h⟩
  have dashes : p.atMarker '-' = false := atMarker_eq_false h' (by decide)
  have dots : p.atMarker '.' = false := atMarker_eq_false h' (by decide)
  refine ⟨before p' outer' outer true _, ?_, rests_placed (fun _ h => nomatch h) hp' column' next⟩
  have block : (before p outer' outer allowed q).next =
      (before p outer' outer allowed q).block true := by
    simp [Lexer.next, marked, h', dashes, dots, inFlow]
  rw [block, Lexer.block, dropCandidate_before]
  simp only [Option.bind_eq_bind, Option.bind_some, marked, read]
  rfl

/-- A text is a scalar in its style, the last thing on its line or lines. -/
theorem rests_text {outer' : Nat} (s : String)
    (h : p.rest = closeLine (scalarText (outer' + 2) s) ++ (spaces column ++ rest))
    (inside : outer' < p.column) (out : column ≤ outer') (next : StartsToken rest) :
    ∃ l', (before p outer' outer allowed q).next = some l' ∧
      l'.Rests column rest outer' outer (q ++ [.scalar s (styleOf s)]) := by
  have whole : String.ofList s.toList = s := String.ofList_toList
  have inside' : (outer' : Int) < p.column := by omega
  unfold scalarText at h
  rcases styleOf_cases s with ⟨style, plain, found⟩ | ⟨style, single, newline⟩ |
    ⟨style, literal⟩ | style
  · obtain ⟨first, text, hs, plain⟩ := exists_of_plain plain found
    simp only [style, hs, closeLine_plain plain] at h ⊢
    rw [← whole, hs]
    exact rests_plain plain (by simp [h]) inside out next
  · simp only [style] at h ⊢
    have read := rests_quoted outer allowed q
      (spellsText_single (trim_of_canBeSingle single) newline _)
      (h.trans (closeLine_quoted true _ _)) inside' next
    rwa [whole] at read
  · obtain ⟨printable, filled⟩ := literal_of_canBeLiteral literal
    simp only [style] at h ⊢
    exact whole ▸ rests_literal printable filled h out next
  · simp only [style] at h ⊢
    have read := rests_quoted outer allowed q
      (spellsText_double s.toList) (h.trans (closeLine_quoted false _ _)) inside' next
    rwa [whole] at read

end Lexer

end Converge.Yaml
