import Converge.Proofs.Number.Decimal
import Converge.Yaml.Printer
import Converge.Yaml.Scalar
/-!
# Plain scalars are read back

A text that can be written plainly is read as it is written, up to the colon after a key or the
end of its line.  A plain scalar is read word by word with the gaps between the words, so what is
known of a text that `canBePlain` is known from the beginning of each word on (`PlainText`).

`Cursor.past` and `Cursor.down` are the places further on in the same line and in a line below; all
of the reading lemmas say at which of them reading goes on.

Main statement: `plainScalar_eq`.
-/

namespace Converge.Yaml

/-! ## 1. Places -/

namespace Cursor

/-- The place some characters further on the same line, and what follows it. -/
def past (c : Cursor) (n : Nat) (rest : List Char) : Cursor :=
  ⟨rest, c.index + n, c.line, c.column + n⟩

/-- The beginning of a line some lines further on, the lines between being empty, and what follows
it. -/
def down (c : Cursor) (n : Nat) (rest : List Char) : Cursor := ⟨rest, c.index + n, c.line + n, 0⟩

variable {c : Cursor} {ch : Char} {cs rest : List Char}

@[simp] theorem past_rest (n : Nat) : (c.past n rest).rest = rest := rfl
@[simp] theorem past_line (n : Nat) : (c.past n rest).line = c.line := rfl
@[simp] theorem past_column (n : Nat) : (c.past n rest).column = c.column + n := rfl
@[simp] theorem down_rest (n : Nat) : (c.down n rest).rest = rest := rfl
@[simp] theorem down_line (n : Nat) : (c.down n rest).line = c.line + n := rfl
@[simp] theorem down_column (n : Nat) : (c.down n rest).column = 0 := rfl

theorem past_past (m n : Nat) : (c.past m cs).past n rest = c.past (m + n) rest := by
  simp only [past, Nat.add_assoc]

theorem past_zero (h : c.rest = rest) : c.past 0 rest = c := by
  simp only [past, Nat.add_zero, ← h]

theorem down_down (m n : Nat) : (c.down m cs).down n rest = c.down (m + n) rest := by
  simp only [down, Nat.add_assoc]

theorem down_zero (column : c.column = 0) (h : c.rest = rest) : c.down 0 rest = c := by
  subst h
  cases c
  simp only [down, Nat.add_zero] at column ⊢
  rw [column]

theorem next?_eq (h : c.rest = ch :: rest) : c.next? = some ch := by rw [next?, h]; rfl

theorem skip_eq (h : c.rest = ch :: rest) : c.skip = c.past 1 rest := by rw [skip, h]; rfl

theorem skipMany_eq (h : c.rest = cs ++ rest) : c.skipMany cs.length = c.past cs.length rest := by
  have room : min cs.length (cs ++ rest).length = cs.length := by simp
  rw [skipMany, h, List.drop_left, room]
  rfl

theorem takeWhile_eq {p : Char → Bool} (h : c.rest = cs ++ rest) (taken : ∀ ch ∈ cs, p ch)
    (stop : ∀ ch ∈ rest.head?, p ch = false) :
    c.takeWhile p = (cs, c.past cs.length rest) := by
  have stays : rest.takeWhile p = [] ∧ rest.dropWhile p = rest := by
    cases rest with
    | nil => exact ⟨rfl, rfl⟩
    | cons ch rest => simp [stop ch rfl]
  rw [takeWhile, h, List.takeWhile_append_of_pos taken, List.dropWhile_append_of_pos taken,
    stays.1, stays.2, List.append_nil]
  rfl

end Cursor

/-- Whether a character separates lines where it is written as it is. -/
def Separates (b : Char) : Prop := b = '\n' ∨ b = '\u2028' ∨ b = '\u2029'

theorem separates_of_isBreak {b : Char} (printable : isPrintable b) (h : isBreak b) :
    Separates b := by
  unfold isBreak at h
  simp only [Bool.or_eq_true, decide_eq_true_eq] at h
  rcases h with (((h | h) | h) | h) | h
  · exact .inl h
  · subst h; nomatch printable
  · subst h; nomatch printable
  · exact .inr (.inl h)
  · exact .inr (.inr h)

theorem Separates.isBreak {b : Char} (h : Separates b) : isBreak b := by
  rcases h with rfl | rfl | rfl <;> rfl

theorem Separates.isBlank {b : Char} (h : Separates b) : isBlank b = false := by
  rcases h with rfl | rfl | rfl <;> rfl

theorem Cursor.skipBreak_eq {c : Cursor} {b : Char} {rest : List Char} (hb : Separates b)
    (h : c.rest = b :: rest) : c.skipBreak = some (b, c.down 1 rest) := by
  rw [skipBreak, h]
  rcases hb with rfl | rfl | rfl <;> rfl

theorem lineBreak?_eq_none {ch : Char} (h : isBreak ch = false) (rest : List Char) :
    lineBreak? (ch :: rest) = none := by
  unfold isBreak at h
  simp only [Bool.or_eq_false_iff, decide_eq_false_iff_not] at h
  obtain ⟨⟨⟨⟨h1, h2⟩, h3⟩, h4⟩, h5⟩ := h
  unfold lineBreak?
  split <;> simp_all

theorem Cursor.skipBreak_eq_none {c : Cursor} (h : ∀ ch ∈ c.rest.head?, isBreak ch = false) :
    c.skipBreak = none := by
  unfold skipBreak
  cases hr : c.rest with
  | nil => rfl
  | cons ch rest => rw [lineBreak?_eq_none (h ch (by rw [hr]; rfl))]

/-! ## 2. Gaps -/

theorem length_spaces (n : Nat) : (spaces n).length = n := List.length_replicate

theorem spaces_succ (n : Nat) : spaces (n + 1) = ' ' :: spaces n := rfl

theorem spaces_succ' (n : Nat) : spaces (n + 1) = spaces n ++ [' '] := List.replicate_succ'

/-- Whether a word or the end of the text comes next. -/
def StartsWord (cs : List Char) : Prop := ∀ ch ∈ cs.head?, isBlank ch = false ∧ isBreak ch = false

namespace Gap

variable {margin : Nat} {c : Cursor} {g : Gap} {rest : List Char}

theorem scan_stop (h : StartsWord c.rest) (fuel : Nat) : scan margin fuel c g = some (g, c) := by
  cases fuel with
  | zero => rfl
  | succ fuel =>
    cases hr : c.rest with
    | nil => simp only [scan, Cursor.next?, hr, List.head?_nil]
    | cons ch rest =>
      obtain ⟨blank, line⟩ := h ch (by rw [hr]; rfl)
      have stays := Cursor.skipBreak_eq_none fun ch h' => (h ch h').2
      simp only [scan, Cursor.next?_eq hr, blank, Bool.false_eq_true, if_false, stays]

theorem scan_spaces : ∀ (n : Nat) {c : Cursor} {g : Gap}, c.rest = spaces n ++ rest →
    ∀ fuel, scan margin (fuel + n) c g = scan margin fuel (c.past n rest)
      (if g.broken then g else { g with blanks := g.blanks ++ spaces n })
  | 0, c, g, h, fuel => by
    have same : c.past 0 rest = c := Cursor.past_zero h
    rw [same]
    congr 1
    simp [spaces]
  | n + 1, c, g, h, fuel => by
    rw [spaces_succ, List.cons_append] at h
    have tab : ' ' ≠ '\t' := by decide
    have step : scan margin (fuel + n + 1) c g =
        scan margin (fuel + n) (c.past 1 (spaces n ++ rest))
          (if g.broken then g else { g with blanks := g.blanks ++ [' '] }) := by
      rw [scan, Cursor.next?_eq h]
      simp only [isBlank, decide_true, Bool.true_or, if_true, tab, decide_false, Bool.and_false,
        Bool.false_and, Bool.false_eq_true, if_false, Cursor.skip_eq h]
    rw [← Nat.add_assoc, step, scan_spaces n rfl, Cursor.past_past, Nat.add_comm 1 n]
    cases hb : g.broken
    · simp [spaces_succ]
    · simp [hb]

/-- A gap of spaces. -/
theorem scan_blanks (margin fuel : Nat) {n : Nat} (h : c.rest = spaces n ++ rest)
    (next : StartsWord rest) (enough : n ≤ fuel) :
    scan margin fuel c none = some ({ none with blanks := spaces n }, c.past n rest) := by
  obtain ⟨fuel, rfl⟩ := Nat.exists_eq_add_of_le' enough
  rw [scan_spaces n h, scan_stop next]
  rfl

theorem scan_break {b : Char} (hb : Separates b) (h : c.rest = b :: rest) (fuel : Nat) :
    scan margin (fuel + 1) c g = scan margin fuel (c.down 1 rest)
      (if g.broken then { g with more := g.more ++ [b] }
        else { g with broken := true, blanks := [], first := some b }) := by
  rw [scan, Cursor.next?_eq h]
  simp only [hb.isBlank, Bool.false_eq_true, if_false, Cursor.skipBreak_eq hb h]

theorem scan_breaks : ∀ {bs : List Char} {c : Cursor} {g : Gap}, (∀ b ∈ bs, Separates b) →
    c.rest = bs ++ rest → c.column = 0 → g.broken →
    ∀ fuel, scan margin (fuel + bs.length) c g =
      scan margin fuel (c.down bs.length rest) { g with more := g.more ++ bs }
  | [], c, g, _, h, column, _, fuel => by
    have same : c.down 0 rest = c := Cursor.down_zero column h
    rw [List.length_nil, same, List.append_nil]
    rfl
  | b :: bs, c, g, separate, h, column, broken, fuel => by
    obtain ⟨hb, hbs⟩ := List.forall_mem_cons.1 separate
    have others := scan_breaks (c := c.down 1 (bs ++ rest)) (g := { g with more := g.more ++ [b] })
      hbs rfl rfl broken fuel
    rw [List.length_cons, ← Nat.add_assoc, scan_break hb h, if_pos broken]
    rw [List.append_assoc, Cursor.down_down, Nat.add_comm 1] at others
    exact others

/-- A gap of line breaks, the next line indented. -/
theorem scan_lines (margin fuel : Nat) {b : Char} {bs : List Char} {n : Nat}
    (separate : ∀ ch ∈ b :: bs, Separates ch) (h : c.rest = b :: bs ++ (spaces n ++ rest))
    (next : StartsWord rest) (enough : n + bs.length + 1 ≤ fuel) :
    scan margin fuel c none = some (⟨true, [], some b, bs⟩,
      (c.down (bs.length + 1) (spaces n ++ rest)).past n rest) := by
  obtain ⟨hb, hbs⟩ := List.forall_mem_cons.1 separate
  obtain ⟨fuel, rfl⟩ := Nat.exists_eq_add_of_le' enough
  rw [← Nat.add_assoc, ← Nat.add_assoc, scan_break hb h, scan_breaks hbs rfl rfl rfl,
    scan_spaces n rfl, scan_stop next, Cursor.down_down, Nat.add_comm 1]
  rfl

end Gap

/-- The characters of a class at the beginning of a text, and the rest. -/
theorem exists_run (p : Char → Bool) (cs : List Char) : ∃ run rest, cs = run ++ rest ∧
    (∀ c ∈ run, p c) ∧ ∀ c ∈ rest.head?, p c = false := by
  induction cs with
  | nil => exact ⟨[], [], rfl, (fun _ h => nomatch h), fun _ h => nomatch h⟩
  | cons c cs ih =>
    cases hc : p c with
    | false => exact ⟨[], c :: cs, rfl, (fun _ h => nomatch h), fun d hd => Option.some.inj hd ▸ hc⟩
    | true =>
      obtain ⟨run, rest, rfl, hrun, hrest⟩ := ih
      exact ⟨c :: run, rest, rfl, List.forall_mem_cons.2 ⟨hc, hrun⟩, hrest⟩

theorem eq_spaces {cs : List Char} (h : ∀ c ∈ cs, c = ' ') : cs = spaces cs.length :=
  List.eq_replicate_of_mem h

/-- A text without spaces, or its first word, the spaces after it, and the rest. -/
theorem exists_gap (cs : List Char) : (∀ c ∈ cs, c ≠ ' ') ∨
    ∃ w n rest, cs = w ++ (spaces (n + 1) ++ rest) ∧ (∀ c ∈ w, c ≠ ' ') ∧
      rest.head? ≠ some ' ' := by
  obtain ⟨w, rest, rfl, hw, hrest⟩ := exists_run (· ≠ ' ') cs
  replace hw : ∀ c ∈ w, c ≠ ' ' := fun c hc => by simpa using hw c hc
  cases rest with
  | nil => exact .inl (by simpa using hw)
  | cons c rest =>
    obtain rfl : c = ' ' := by simpa using hrest c rfl
    obtain ⟨gap, rest, rfl, hgap, hrest⟩ := exists_run (· = ' ') rest
    have blank := eq_spaces fun c hc => of_decide_eq_true (hgap c hc)
    refine .inr ⟨w, gap.length, rest, ?_, hw, fun h => by simpa using hrest ' ' h⟩
    rw [spaces_succ, ← blank]
    rfl

/-! ## 3. Plain scalars -/

theorem endsWord_append {cs : List Char} (h : endsWord cs = false) (rest : List Char) :
    endsWord (cs ++ rest) = false := by
  cases cs with
  | nil => nomatch h
  | cons c cs => exact h

/-- Whether a text holds nothing that would end it if it were written plainly, from the beginning
of a word on. -/
structure PlainText (cs : List Char) : Prop where
  chars : ∀ c ∈ cs, c ≠ '\t' ∧ isBreak c = false
  colon : ∀ front back, cs = front ++ ':' :: back → endsWord back = false
  mark : ∀ front back, cs ≠ front ++ ' ' :: '#' :: back
  last : ∀ front, cs ≠ front ++ [' ']

theorem PlainText.suffix {front cs : List Char} (h : PlainText (front ++ cs)) : PlainText cs where
  chars c hc := h.chars c (List.mem_append_right front hc)
  colon a b e := h.colon (front ++ a) b (by rw [e, List.append_assoc])
  mark a b e := h.mark (front ++ a) b (by rw [e, List.append_assoc])
  last a e := h.last (front ++ a) (by rw [e, List.append_assoc])

/-- What may follow a plain scalar, where reading goes on after it, and whether that is on another
line: the colon after a key, or a new line that is not indented further than what is around. -/
inductive PlainEnd (margin : Nat) : List Char → (Cursor → Cursor) → Bool → Prop
  | key {rest} (h : endsWord rest) : PlainEnd margin (':' :: rest) id false
  | line {column rest} (h : StartsWord rest) (out : column < margin) :
      PlainEnd margin ('\n' :: (spaces column ++ rest))
        (fun c => (c.down 1 (spaces column ++ rest)).past column rest) true

theorem plainWord_nil {margin : Nat} {tail : List Char} {place : Cursor → Cursor} {broken : Bool}
    (h : PlainEnd margin tail place broken) : plainWord false tail = some [] := by
  cases h with
  | key h => simp [plainWord, isBlank, isBreak, h]
  | line _ _ => simp [plainWord, isBreak]

/-- A word ends where what follows it ends words. -/
theorem plainWord_eq {tail : List Char} (stop : plainWord false tail = some []) :
    ∀ {w : List Char}, (∀ c ∈ w, isBlank c = false ∧ isBreak c = false) →
      (∀ front back, w = front ++ ':' :: back → endsWord (back ++ tail) = false) →
      plainWord false (w ++ tail) = some w
  | [], _, _ => stop
  | c :: w, chars, colon => by
    obtain ⟨⟨blank, line⟩, chars⟩ := List.forall_mem_cons.1 chars
    have others := plainWord_eq stop chars fun a b e => colon (c :: a) b (by rw [e]; rfl)
    have goes : ¬ (c = ':' ∧ endsWord (w ++ tail)) := by
      rintro ⟨rfl, h⟩
      rw [colon [] w rfl] at h
      nomatch h
    simp only [List.cons_append, plainWord, blank, line, others]
    simp [goes]

theorem Cursor.atDocumentMarker_eq_false {c : Cursor} (h : c.column ≠ 0) :
    c.atDocumentMarker = false := by
  simp [atDocumentMarker, atMarker, h]

/-- The characters of a word. -/
theorem PlainText.word {w cs : List Char} (h : PlainText cs) (begins : w <+: cs)
    (unspaced : ∀ d ∈ w, d ≠ ' ') : ∀ d ∈ w, isBlank d = false ∧ isBreak d = false := fun d hd => by
  obtain ⟨tab, line⟩ := h.chars d (begins.mem hd)
  exact ⟨by simp [isBlank, tab, unspaced d hd], line⟩

theorem PlainText.startsWord {cs : List Char} (h : PlainText cs) (filled : cs ≠ [])
    (space : ∀ d ∈ cs.head?, d ≠ ' ') (tail : List Char) : StartsWord (cs ++ tail) := by
  obtain ⟨d, cs, rfl⟩ := List.exists_cons_of_ne_nil filled
  rintro _ ⟨⟩
  exact h.word (w := [d]) ⟨cs, rfl⟩ (by simpa using space) d List.mem_cons_self

section Body

variable {margin fuel : Nat} {tail : List Char} {place : Cursor → Cursor} {broken : Bool}
  {w : List Char} {c : Cursor} {g : Gap}

/-- The last word of a plain scalar. -/
theorem plainBody_last (he : PlainEnd margin tail place broken) (filled : w ≠ [])
    (h : c.rest = w ++ tail) (alone : c.atDocumentMarker = false) (unmarked : c.next? ≠ some '#')
    (word : plainWord false c.rest = some w) (enough : tail.length ≤ fuel + 1) :
    plainBody false margin (fuel + 1) g c =
      some (g.text ++ w, place (c.past w.length tail), broken) := by
  have full : w.isEmpty = false := List.isEmpty_eq_false_iff.2 filled
  simp only [plainBody, alone, unmarked, word, full, Cursor.skipMany_eq h, Cursor.past_rest,
    Bool.or_false, decide_false, Bool.false_eq_true, if_false]
  cases he with
  | key hk => simp [endsWord, isBlank, isBreak, Gap.none]
  | @line column rest next out =>
    have lone : ∀ ch ∈ ['\n'], Separates ch := by simp [Separates]
    have gap := Gap.scan_lines margin (fuel + 1) (c := c.past w.length
      ('\n' :: (spaces column ++ rest))) lone rfl next
      (by simp [length_spaces] at enough ⊢; omega)
    simp [endsWord, isBlank, isBreak, gap, out]

/-- A word of a plain scalar, and the spaces after it. -/
theorem plainBody_word {n : Nat} {rest : List Char} (filled : w ≠ [])
    (h : c.rest = w ++ (spaces (n + 1) ++ rest)) (alone : c.atDocumentMarker = false)
    (unmarked : c.next? ≠ some '#') (word : plainWord false c.rest = some w)
    (next : StartsWord rest) (indented : margin ≤ c.column + 1) (enough : n ≤ fuel) :
    plainBody false margin (fuel + 1) g c =
      (plainBody false margin fuel { Gap.none with blanks := spaces (n + 1) }
        ((c.past w.length (spaces (n + 1) ++ rest)).past (n + 1) rest)).map
          fun (more, p, broken) => (g.text ++ w ++ more, p, broken) := by
  have full : w.isEmpty = false := List.isEmpty_eq_false_iff.2 filled
  have gap := Gap.scan_blanks margin (fuel + 1) (n := n + 1)
    (c := c.past w.length (spaces (n + 1) ++ rest)) rfl next (Nat.succ_le_succ enough)
  have goes : endsWord (spaces (n + 1) ++ rest) = true := rfl
  have goesOn : (spaces (n + 1) ++ rest).isEmpty = false := rfl
  have column : ¬ c.column + w.length + (n + 1) < margin := by
    have := List.length_pos_iff.2 filled
    omega
  simp only [plainBody, alone, unmarked, word, full, Cursor.skipMany_eq h, Cursor.past_rest, goes,
    goesOn, gap, Cursor.past_column, column, Bool.or_false, Bool.not_false, Bool.and_true,
    Bool.false_eq_true, Bool.and_false, if_true, if_false, decide_false]

/-- **A plain text is read as it is written**, up to what follows it. -/
theorem plainBody_eq (he : PlainEnd margin tail place broken) {cs : List Char} (text : PlainText cs)
    (first : ∀ c ∈ cs.head?, c ≠ ' ' ∧ c ≠ '#') (filled : cs ≠ []) (h : c.rest = cs ++ tail)
    (alone : c.atDocumentMarker = false) (indented : margin ≤ c.column + 1) (g : Gap)
    (enough : (cs ++ tail).length < fuel) :
    plainBody false margin fuel g c =
      some (g.text ++ cs, place (c.past cs.length tail), broken) := by
  induction fuel generalizing cs c g with
  | zero => nomatch enough
  | succ fuel ih => ?_
  have unmarked : c.next? ≠ some '#' := by
    obtain ⟨d, cs, rfl⟩ := List.exists_cons_of_ne_nil filled
    rw [Cursor.next?_eq h]
    exact fun hd => (first d rfl).2 (Option.some.inj hd)
  rcases exists_gap cs with hw | ⟨w, n, rest, rfl, hw, hrest⟩
  · -- the last word
    have word : plainWord false c.rest = some cs := by
      rw [h]
      exact plainWord_eq (plainWord_nil he) (text.word ⟨[], by simp⟩ hw)
        fun a b e => endsWord_append (text.colon a b e) tail
    exact plainBody_last he filled h alone unmarked word (by simp at enough; omega)
  · -- a word with spaces after it
    have started : w ≠ [] := by
      rintro rfl
      exact (first ' ' rfl).1 rfl
    have filled' : rest ≠ [] := by
      rintro rfl
      refine text.last (w ++ spaces n) ?_
      rw [List.append_nil, List.append_assoc, spaces_succ']
    have first' : ∀ d ∈ rest.head?, d ≠ ' ' ∧ d ≠ '#' := by
      rintro d hd
      refine ⟨fun e => hrest (e ▸ hd), ?_⟩
      rintro rfl
      obtain ⟨back, rfl⟩ := List.head?_eq_some_iff.1 hd
      refine text.mark (w ++ spaces n) back ?_
      simp [spaces_succ', List.append_assoc]
    rw [List.append_assoc, List.append_assoc] at h
    have word : plainWord false c.rest = some w := by
      have blanks : plainWord false (spaces (n + 1) ++ (rest ++ tail)) = some [] := by
        simp [spaces_succ, plainWord, isBlank]
      rw [h]
      refine plainWord_eq blanks (text.word ⟨_, rfl⟩ hw) fun a b e => ?_
      have := endsWord_append (text.colon a (b ++ (spaces (n + 1) ++ rest)) (by rw [e]; simp)) tail
      simpa using this
    have next := text.suffix.suffix.startsWord filled' (fun d hd => (first' d hd).1) tail
    have others := ih text.suffix.suffix first' filled'
      (c := (c.past w.length (spaces (n + 1) ++ (rest ++ tail))).past (n + 1) (rest ++ tail)) rfl
      (Cursor.atDocumentMarker_eq_false (by simp)) (by simp; omega)
      { Gap.none with blanks := spaces (n + 1) }
      (by simp [length_spaces] at enough ⊢; omega)
    rw [plainBody_word started h alone unmarked word next indented
      (by simp [length_spaces] at enough; omega), others]
    simp [Gap.text, Gap.none, Cursor.past_past, Nat.add_assoc, length_spaces]

end Body

theorem plainScalar_eq {margin : Nat} {tail : List Char} {place : Cursor → Cursor} {broken : Bool}
    (he : PlainEnd margin tail place broken) {cs : List Char} (text : PlainText cs)
    (first : ∀ c ∈ cs.head?, c ≠ ' ' ∧ c ≠ '#') (filled : cs ≠ []) {c : Cursor}
    (h : c.rest = cs ++ tail) (alone : c.atDocumentMarker = false)
    (indented : margin ≤ c.column + 1) :
    plainScalar false margin c = some (cs, place (c.past cs.length tail), broken) := by
  rw [plainScalar, plainBody_eq he text first filled h alone indented Gap.none (by rw [h]; omega)]
  rfl

theorem hasInnerMark_eq_false : ∀ {before : Char} {cs : List Char},
    hasInnerMark before cs = false →
      (∀ front back, cs = front ++ ':' :: back → endsWord back = false) ∧
      ∀ front back, before :: cs ≠ front ++ ' ' :: '#' :: back
  | before, [], _ => by
    refine ⟨fun a b e => by simp at e, fun a b e => ?_⟩
    have := congrArg List.length e
    simp at this
    omega
  | before, c :: cs, h => by
    rw [hasInnerMark, Bool.or_eq_false_iff, Bool.or_eq_false_iff] at h
    obtain ⟨⟨ends, number⟩, inner⟩ := h
    obtain ⟨colon, mark⟩ := hasInnerMark_eq_false inner
    refine ⟨fun a b e => ?_, fun a b e => ?_⟩
    · cases a with
      | nil =>
        obtain ⟨rfl, rfl⟩ := List.cons.inj e
        simpa using ends
      | cons d a => exact colon a b (List.cons.inj e).2
    · cases a with
      | nil =>
        obtain ⟨rfl, others⟩ := List.cons.inj e
        obtain ⟨rfl, -⟩ := List.cons.inj others
        nomatch number
      | cons d a => exact mark a b (List.cons.inj e).2

/-- What is known of a text that can be written plainly. -/
structure Plain (first : Char) (rest : List Char) : Prop where
  text : PlainText (first :: rest)
  space : first ≠ ' '
  mark : first ≠ '\ufeff'
  leading : isLeadingMark first = false
  indicator : first = '?' ∨ first = ':' ∨ first = '-' → endsWord rest = false
  marker : ∀ mark, mark = '-' ∨ mark = '.' → ¬ [mark, mark, mark] <+: first :: rest

theorem plain_of_canBePlain {first : Char} {rest : List Char} (h : canBePlain (first :: rest)) :
    Plain first rest := by
  simp only [canBePlain, Bool.and_eq_true, List.all_eq_true, Bool.not_eq_true',
    List.any_eq_false, hasMark, Bool.or_eq_false_iff] at h
  obtain ⟨⟨⟨⟨printable, lines⟩, ⟨⟨⟨⟨leading, indicator⟩, inner⟩, dashes⟩, dots⟩⟩, space⟩, last⟩ := h
  obtain ⟨colon, mark⟩ := hasInnerMark_eq_false inner
  refine ⟨⟨fun c hc => ⟨?_, by simpa using lines c hc⟩, fun a b e => ?_, mark, fun a e => ?_⟩, ?_,
    ?_, leading, fun hf => ?_, ?_⟩
  · rintro rfl
    exact absurd (printable _ hc) (by decide)
  · cases a with
    | nil =>
      obtain ⟨rfl, rfl⟩ := List.cons.inj e
      simpa using indicator
    | cons d a => exact colon a b (List.cons.inj e).2
  · rw [e] at last
    simp [isSpace] at last
  · simpa [isSpace] using space
  · rintro rfl
    exact absurd (printable _ List.mem_cons_self) (by decide)
  · rcases hf with rfl | rfl | rfl <;> simpa using indicator
  · rintro _ (rfl | rfl) hp
    · rw [List.isPrefixOf_iff_prefix.2 hp] at dashes
      cases dashes
    · rw [List.isPrefixOf_iff_prefix.2 hp] at dots
      cases dots

/-! ## 4. Numbers -/

/-- A character that a plain text may begin with, go on with and end with. -/
def IsInner (c : Char) : Prop := isPrintable c ∧ isBlank c = false ∧ isBreak c = false ∧
  isLeadingMark c = false ∧ c ∉ ['?', ':', '-', '.']

instance (c : Char) : Decidable (IsInner c) := inferInstanceAs (Decidable (_ ∧ _))

theorem isInner_of_isDigit {c : Char} (h : c.isDigit) : IsInner c := by
  have range : c ∈ (List.range 10).map fun d => Char.ofNat (48 + d) := by
    simp only [Char.isDigit, Bool.and_eq_true, decide_eq_true_eq, ge_iff_le] at h
    have lo : 48 ≤ c.toNat := h.1
    have hi : c.toNat ≤ 57 := h.2
    refine List.mem_map.2 ⟨c.toNat - 48, List.mem_range.2 (by omega), ?_⟩
    rw [Nat.add_sub_cancel' lo, Char.ofNat_toNat]
  have all : ((List.range 10).map fun d => Char.ofNat (48 + d)).all (decide <| IsInner ·) := by
    decide
  exact of_decide_eq_true (List.all_eq_true.1 all c range)

theorem hasInnerMark_inner : ∀ {cs : List Char}, (∀ c ∈ cs, IsInner c) → ∀ before,
    hasInnerMark before cs = false
  | [], _, _ => rfl
  | c :: cs, h, before => by
    obtain ⟨⟨-, -, -, leading, unmarked⟩, others⟩ := List.forall_mem_cons.1 h
    have number : c ≠ '#' := by
      rintro rfl
      nomatch leading
    have colon : c ≠ ':' := by
      rintro rfl
      exact unmarked (by decide)
    simp [hasInnerMark, number, colon, hasInnerMark_inner others]

/-- A word that may have a dash in front of it can be written plainly. -/
theorem canBePlain_inner {d : Char} {ds : List Char} (h : ∀ c ∈ d :: ds, IsInner c) :
    canBePlain (d :: ds) ∧ canBePlain ('-' :: d :: ds) := by
  have marks := hasInnerMark_inner h
  have marks' := hasInnerMark_inner fun c hc => h c (List.mem_cons_of_mem d hc)
  have printable : (d :: ds).all isPrintable := List.all_eq_true.2 fun c hc => (h c hc).1
  have lines : (d :: ds).any isBreak = false :=
    List.any_eq_false.2 fun c hc => by simp [(h c hc).2.2.1]
  have unspaced : ∀ c ∈ d :: ds, isSpace c = false := fun c hc => by
    have := (h c hc).2.1
    simp [isBlank] at this
    simp [isSpace, this]
  have last : (d :: ds).getLast?.any isSpace = false := by
    cases hl : (d :: ds).getLast? with
    | none => rfl
    | some c => exact unspaced c (List.mem_of_mem_getLast? hl)
  obtain ⟨-, blank, line, leading, unmarked⟩ := h d List.mem_cons_self
  have first := unspaced d List.mem_cons_self
  have dash : '-' ≠ d := fun e => unmarked (e ▸ by decide)
  have dot : '.' ≠ d := fun e => unmarked (e ▸ by decide)
  simp only [List.mem_cons, List.not_mem_nil, or_false, not_or] at unmarked
  constructor
  · simp [canBePlain, hasMark, printable, lines, last, leading, marks', first, unmarked,
      List.isPrefixOf, dash, dot]
  · have sign : isPrintable '-' ∧ isBreak '-' = false ∧ isLeadingMark '-' = false ∧
        isSpace '-' = false := by decide
    simp only [canBePlain, hasMark, List.all_cons, List.any_cons, List.getLast?_cons_cons, sign,
      printable, lines, last, marks]
    simp [endsWord, blank, line, List.isPrefixOf, dash, sign]

/-- A number is a word in plain style. -/
theorem canBePlain_toString (n : Int) :
    canBePlain (toString n).toList ∧ (toString n).toList ≠ [] := by
  have inner : ∀ c ∈ decimal n.natAbs, IsInner c := fun c hc =>
    isInner_of_isDigit (isDigit_of_mem_decimal hc)
  obtain ⟨d, ds, hd⟩ := List.exists_cons_of_ne_nil (decimal_ne_nil n.natAbs)
  rw [hd] at inner
  obtain ⟨unsigned, signed⟩ := canBePlain_inner inner
  rw [toList_toString, hd]
  split
  · exact ⟨signed, by simp⟩
  · exact ⟨unsigned, by simp⟩

end Converge.Yaml
