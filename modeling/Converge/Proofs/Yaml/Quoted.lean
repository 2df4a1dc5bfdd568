import Converge.Proofs.Yaml.Plain
/-!
# Quoted scalars are read back

`SpellsText` says that what is written between quotes stands for a text: words whose characters are
spelled one by one, and gaps of spaces or of line breaks between them.  Whatever is spelled is read
back (`quotedScalar_eq`), and both kinds of quotes spell the text that they are written for.

Main statements: `quotedScalar_eq`, `spellsText_single` and `spellsText_double`.
-/

namespace Converge.Yaml

/-! ## 1. Reading -/

/-- The sign around a quoted scalar. -/
def quoteSign (single : Bool) : Char := if single then '\'' else '"'

/-- Whether some characters between quotes are read as one character. -/
structure Spells (single : Bool) (written : List Char) (ch : Char) : Prop where
  starts : ∀ c ∈ written.head?, isBlank c = false ∧ isBreak c = false
  filled : written ≠ []
  read : ∀ (fuel : Nat) (c : Cursor) (rest : List Char), c.rest = written ++ rest →
    quotedWord single (fuel + 1) c = (quotedWord single fuel (c.past written.length rest)).map
      fun (chs, after) => (ch :: chs, after)

theorem Spells.startsWord {single : Bool} {written : List Char} {ch : Char}
    (h : Spells single written ch) (more : List Char) : StartsWord (written ++ more) := by
  obtain ⟨d, ds, rfl⟩ := List.exists_cons_of_ne_nil h.filled
  exact h.starts

/-- Whether some characters between quotes are read as a text without gaps. -/
inductive SpellsWord (single : Bool) : List Char → List Char → Prop
  | nil : SpellsWord single [] []
  | cons {written ch more text} (first : Spells single written ch)
      (rest : SpellsWord single more text) : SpellsWord single (written ++ more) (ch :: text)

/-- Whether some characters between quotes are read as a text: words, with spaces between them or
line breaks and the indentation of the next line. -/
inductive SpellsText (single : Bool) : List Char → List Char → Prop
  | word {written text} (h : SpellsWord single written text) : SpellsText single written text
  | blanks {written text more others} (h : SpellsWord single written text) (n : Nat)
      (next : StartsWord more) (rest : SpellsText single more others) :
      SpellsText single (written ++ (spaces (n + 1) ++ more)) (text ++ (spaces (n + 1) ++ others))
  | lines {written text b bs more others} (h : SpellsWord single written text)
      (separate : ∀ c ∈ b :: bs, Separates c) (kept : b ≠ '\n') (n : Nat) (next : StartsWord more)
      (rest : SpellsText single more others) :
      SpellsText single (written ++ (b :: bs ++ (spaces (n + 1) ++ more)))
        (text ++ (b :: bs ++ others))

/-- Whether a word between quotes ends here. -/
def EndsQuoted (single : Bool) (cs : List Char) : Prop :=
  ∀ fuel c, c.rest = cs → quotedWord single fuel c = some ([], c, false)

theorem quotedWord_eq {single : Bool} {rest : List Char} (stop : EndsQuoted single rest)
    {written text : List Char} (h : SpellsWord single written text) {c : Cursor} (fuel : Nat)
    (hc : c.rest = written ++ rest) (enough : written.length ≤ fuel) :
    quotedWord single fuel c = some (text, c.past written.length rest, false) := by
  induction h generalizing c fuel with
  | nil =>
    have same : c.past 0 rest = c := Cursor.past_zero hc
    rw [stop fuel c hc, List.length_nil, same]
  | @cons written ch more text first _ ih =>
    have size := List.length_pos_iff.2 first.filled
    rw [List.length_append] at enough
    obtain ⟨fuel, rfl⟩ : ∃ f, fuel = f + 1 := ⟨fuel - 1, by omega⟩
    rw [List.append_assoc] at hc
    rw [first.read fuel c (more ++ rest) hc,
      ih (c := c.past written.length (more ++ rest)) fuel rfl (by omega), Cursor.past_past,
      List.length_append]
    rfl

theorem endsQuoted_gap {single : Bool} {ch : Char} (h : isBlank ch || isBreak ch)
    (rest : List Char) : EndsQuoted single (ch :: rest) := by
  intro fuel c hc
  cases fuel with
  | zero => rfl
  | succ fuel => simp only [quotedWord, hc, h, if_true]

theorem endsQuoted_sign {single : Bool} {tail : List Char} (follow : tail.head? ≠ some '\'') :
    EndsQuoted single (quoteSign single :: tail) := by
  intro fuel c hc
  cases fuel with
  | zero => rfl
  | succ fuel => cases single <;> simp [quotedWord, hc, quoteSign, isBlank, isBreak, follow]

theorem startsWord_sign {single : Bool} {written : List Char}
    (next : StartsWord written) (tail : List Char) :
    StartsWord (written ++ quoteSign single :: tail) := by
  cases written with
  | nil =>
    rintro _ ⟨⟩
    cases single <;> exact ⟨rfl, rfl⟩
  | cons c written => exact next

/-- One word between quotes, the gap after it, and what comes then. -/
theorem quotedBody_gap {single : Bool} {fuel : Nat} {c p : Cursor} {written word rest : List Char}
    {g : Gap} {ch : Char} (h : SpellsWord single written word) (hc : c.rest = written ++ ch :: rest)
    (ends : isBlank ch || isBreak ch) (column : c.column ≠ 0) (enough : written.length ≤ fuel + 1)
    (gap : Gap.scan 0 (fuel + 1) (c.past written.length (ch :: rest)) Gap.none = some (g, p)) :
    quotedBody single (fuel + 1) c =
      (quotedBody single fuel p).map fun (rest, c) => (word ++ g.text ++ rest, c) := by
  have more : c.rest.isEmpty = false := by simp [hc]
  have read := quotedWord_eq (endsQuoted_gap ends rest) h (fuel + 1) hc enough
  have same : { Gap.none with broken := false } = Gap.none := rfl
  have other : ch ≠ quoteSign single := by
    rintro rfl
    cases single <;> nomatch ends
  rw [quotedBody, Cursor.atDocumentMarker_eq_false column, more]
  simp only [read, Cursor.next?_eq (Cursor.past_rest _), same, gap]
  cases single <;> simp_all [quoteSign]

theorem Gap.text_lines {b : Char} (hb : Separates b) (kept : b ≠ '\n') (bs : List Char) :
    Gap.text ⟨true, [], some b, bs⟩ = b :: bs := by
  rcases hb with rfl | rfl | rfl
  · exact absurd rfl kept
  · rfl
  · rfl

/-- **What is written between quotes is read**, up to the closing quote and past it. -/
theorem quotedBody_eq {single : Bool} {tail : List Char} (follow : tail.head? ≠ some '\'')
    {written text : List Char} (h : SpellsText single written text) {c : Cursor} {fuel : Nat}
    (hc : c.rest = written ++ quoteSign single :: tail) (column : c.column ≠ 0)
    (enough : c.rest.length < fuel) :
    ∃ p, quotedBody single fuel c = some (text, p) ∧ p.rest = tail ∧ c.line ≤ p.line := by
  obtain ⟨fuel, rfl⟩ : ∃ f, fuel = f + 1 := ⟨fuel - 1, by omega⟩
  induction h generalizing c fuel with
  | @word written text h =>
    have read := quotedWord_eq (endsQuoted_sign follow) h (fuel + 1) hc
      (by simp [hc] at enough; omega)
    have more : c.rest.isEmpty = false := by simp [hc]
    refine ⟨(c.past written.length (quoteSign single :: tail)).past 1 tail, ?_, rfl, Nat.le_refl _⟩
    rw [quotedBody, Cursor.atDocumentMarker_eq_false column, more]
    simp only [read, Cursor.next?_eq (Cursor.past_rest _), Cursor.skip_eq (Cursor.past_rest _)]
    cases single <;> simp [quoteSign]
  | @blanks written text more others h n next rest ih =>
    rw [List.append_assoc, List.append_assoc] at hc
    have size := congrArg List.length hc
    simp only [List.length_append, length_spaces, List.length_cons] at size
    have gap := Gap.scan_blanks 0 (fuel + 1)
      (c := c.past written.length (spaces (n + 1) ++ (more ++ quoteSign single :: tail))) rfl
      (startsWord_sign next tail) (by omega)
    obtain ⟨fuel, rfl⟩ : ∃ f, fuel = f + 1 := ⟨fuel - 1, by omega⟩
    obtain ⟨p, body, hp, line⟩ := ih
      (c := (c.past written.length _).past (n + 1) (more ++ quoteSign single :: tail)) rfl
      (by simp) fuel (by simp; omega)
    refine ⟨p, ?_, hp, line⟩
    rw [quotedBody_gap h hc rfl column (by omega) gap, body]
    simp [Gap.text, Gap.none]
  | @lines written text b bs more others h separate kept n next rest ih =>
    rw [List.append_assoc, List.append_assoc, List.append_assoc] at hc
    have size := congrArg List.length hc
    simp only [List.length_append, length_spaces, List.length_cons] at size
    have hb := separate b List.mem_cons_self
    have gap := Gap.scan_lines 0 (fuel + 1) (c := c.past written.length
      (b :: bs ++ (spaces (n + 1) ++ (more ++ quoteSign single :: tail)))) separate rfl
      (startsWord_sign next tail) (by omega)
    obtain ⟨fuel, rfl⟩ : ∃ f, fuel = f + 1 := ⟨fuel - 1, by omega⟩
    obtain ⟨p, body, hp, line⟩ := ih
      (c := ((c.past written.length _).down (bs.length + 1) _).past (n + 1)
        (more ++ quoteSign single :: tail)) rfl (by simp) fuel (by simp; omega)
    refine ⟨p, ?_, hp, Nat.le_trans (Nat.le_add_right ..) line⟩
    rw [quotedBody_gap h hc (by simp [hb.isBreak]) column (by omega) gap, body]
    simp [Gap.text_lines hb kept]

theorem quotedScalar_eq {single : Bool} {tail : List Char} (follow : tail.head? ≠ some '\'')
    {written text : List Char} (h : SpellsText single written text) {c : Cursor}
    (hc : c.rest = quoteSign single :: (written ++ quoteSign single :: tail)) :
    ∃ p, quotedScalar single c = some (text, p) ∧ p.rest = tail ∧ c.line ≤ p.line := by
  rw [quotedScalar, Cursor.skip_eq hc]
  exact quotedBody_eq follow h rfl (by simp) (by rw [hc, Cursor.past_rest, List.length_cons]; omega)

/-! ## 2. Single quotes -/

theorem spells_singleChar {ch : Char} (h : isBlank ch = false ∧ isBreak ch = false) :
    Spells true (singleChar ch) ch := by
  unfold singleChar
  split
  next hq =>
    subst hq
    refine ⟨fun c hc => Option.some.inj hc ▸ ⟨rfl, rfl⟩, by simp, fun fuel c rest hc => ?_⟩
    have moved : c.skipMany 2 = c.past 2 rest := Cursor.skipMany_eq
      (show c.rest = ['\'', '\''] ++ rest from hc)
    simp [quotedWord, hc, isBlank, isBreak, moved]
  next hq =>
    refine ⟨fun c hc => Option.some.inj hc ▸ h, by simp, fun fuel c rest hc => ?_⟩
    simp [quotedWord, hc, h, hq, Cursor.skip_eq hc]

theorem spellsWord_flatMap {single : Bool} {one : Char → List Char} : ∀ {w : List Char},
    (∀ c ∈ w, Spells single (one c) c) → SpellsWord single (w.flatMap one) w
  | [], _ => .nil
  | c :: w, h => by
    obtain ⟨hc, hw⟩ := List.forall_mem_cons.1 h
    exact .cons hc (spellsWord_flatMap hw)

variable {indent : Nat} {one : Char → List Char}

theorem separated_append {w : List Char} (h : ∀ c ∈ w, isBreak c = false) (rest : List Char) :
    separated indent one false (w ++ rest) = w.flatMap one ++ separated indent one false rest := by
  induction w with
  | nil => rfl
  | cons c w ih =>
    obtain ⟨hc, hw⟩ := List.forall_mem_cons.1 h
    simp [separated, hc, ih hw]

theorem separated_indented {rest : List Char} (h : ∀ c ∈ rest.head?, isBreak c = false) :
    separated indent one true rest = spaces indent ++ separated indent one false rest := by
  cases rest with
  | nil => simp [separated]
  | cons c rest => simp [separated, h c rfl]

theorem separated_lines {rest : List Char} (h : ∀ c ∈ rest.head?, isBreak c = false) :
    ∀ {b : Char} {bs : List Char}, (∀ c ∈ b :: bs, isBreak c) → ∀ broken,
      separated indent one broken (b :: bs ++ rest) =
        b :: bs ++ (spaces indent ++ separated indent one false rest)
  | b, [], hb, broken => by
    simp [separated, hb b List.mem_cons_self, separated_indented h]
  | b, b' :: bs, hb, broken => by
    obtain ⟨hb, hbs⟩ := List.forall_mem_cons.1 hb
    rw [List.cons_append, separated, if_pos hb, separated_lines h hbs]
    rfl

theorem hasPair_cons {p q : Char → Bool} {cs : List Char} (a : Char) (h : hasPair p q cs) :
    hasPair p q (a :: cs) := by
  cases cs with
  | nil => nomatch h
  | cons b cs => rw [hasPair, h, Bool.or_true]

theorem hasPair_append {p q : Char → Bool} {x y : Char} (hx : p x) (hy : q y)
    (front back : List Char) : hasPair p q (front ++ x :: y :: back) := by
  induction front with
  | nil => simp [hasPair, hx, hy]
  | cons a front ih => exact hasPair_cons a ih

/-- Whether a text is printable, and no space touches the end of a line. -/
structure Trim (cs : List Char) : Prop where
  printable : ∀ c ∈ cs, isPrintable c
  before : ∀ front b back, isBreak b → cs ≠ front ++ ' ' :: b :: back
  after : ∀ front b back, isBreak b → cs ≠ front ++ b :: ' ' :: back

theorem trim_of_canBeSingle {cs : List Char} (h : canBeSingle cs) : Trim cs := by
  simp only [canBeSingle, Bool.and_eq_true, Bool.not_eq_true', List.all_eq_true] at h
  obtain ⟨⟨printable, after⟩, before⟩ := h
  refine ⟨printable, ?_, ?_⟩
  · rintro front b back hb rfl
    rw [hasPair_append (p := isSpace) rfl hb front back] at before
    nomatch before
  · rintro front b back hb rfl
    rw [hasPair_append (q := isSpace) hb rfl front back] at after
    nomatch after

theorem Trim.suffix {front cs : List Char} (h : Trim (front ++ cs)) : Trim cs where
  printable c hc := h.printable c (List.mem_append_right front hc)
  before a b c hb e := h.before (front ++ a) b c hb (by rw [e, List.append_assoc])
  after a b c hb e := h.after (front ++ a) b c hb (by rw [e, List.append_assoc])

theorem Trim.word {cs : List Char} (h : Trim cs) {c : Char} (hc : c ∈ cs) (space : c ≠ ' ')
    (line : isBreak c = false) : isBlank c = false ∧ isBreak c = false := by
  have tab : c ≠ '\t' := by
    rintro rfl
    nomatch h.printable _ hc
  exact ⟨by simp [isBlank, space, tab], line⟩

theorem startsWord_separated {cs : List Char} (h : Trim cs)
    (first : ∀ c ∈ cs.head?, c ≠ ' ' ∧ isBreak c = false) :
    StartsWord (separated indent singleChar false cs) := by
  cases cs with
  | nil => exact fun _ h => nomatch h
  | cons c cs =>
    obtain ⟨space, line⟩ := first c rfl
    have spells := spells_singleChar (h.word List.mem_cons_self space line)
    simp only [separated, line, Bool.false_eq_true, if_false, List.nil_append]
    exact spells.startsWord _

theorem flatMap_spaces (h : one ' ' = [' ']) : ∀ n : Nat, (spaces n).flatMap one = spaces n
  | 0 => rfl
  | n + 1 => by rw [spaces_succ, List.flatMap_cons, flatMap_spaces h, h]; rfl

/-- A word comes after the line breaks of a trim text. -/
theorem Trim.after_breaks {b : Char} {bs rest : List Char} (h : Trim (b :: bs ++ rest))
    (breaks : ∀ c ∈ b :: bs, isBreak c) (stop : ∀ c ∈ rest.head?, isBreak c = false) :
    ∀ c ∈ rest.head?, c ≠ ' ' ∧ isBreak c = false := by
  refine fun c hc => ⟨?_, stop c hc⟩
  rintro rfl
  obtain ⟨back, rfl⟩ := List.head?_eq_some_iff.1 hc
  obtain ⟨front, last, hb⟩ : ∃ front last, b :: bs = front ++ [last] :=
    ⟨_, _, (List.dropLast_concat_getLast (List.cons_ne_nil b bs)).symm⟩
  refine h.after front last back (breaks last (by simp [hb])) ?_
  rw [hb, List.append_assoc]
  rfl

/-- A word comes after the spaces of a trim text. -/
theorem Trim.after_spaces {n : Nat} {rest : List Char} (h : Trim (spaces (n + 1) ++ rest))
    (stop : ∀ c ∈ rest.head?, c ≠ ' ') : ∀ c ∈ rest.head?, c ≠ ' ' ∧ isBreak c = false := by
  refine fun c hc => ⟨stop c hc, Bool.eq_false_iff.2 fun line => ?_⟩
  obtain ⟨back, rfl⟩ := List.head?_eq_some_iff.1 hc
  refine h.before (spaces n) c back line ?_
  rw [spaces_succ', List.append_assoc]
  rfl

/-- A text in single quotes. -/
theorem spellsText_single {cs : List Char} (h : Trim cs) (newline : '\n' ∉ cs) (n : Nat) :
    SpellsText true (separated (n + 1) singleChar false cs) cs := by
  induction size : cs.length using Nat.strongRecOn generalizing cs with
  | _ m ih => ?_
  obtain ⟨w, rest, rfl, hw, hrest⟩ := exists_run (fun c => !(c = ' ' || isBreak c)) cs
  have plain : ∀ c ∈ w, c ≠ ' ' ∧ isBreak c = false := fun c hc => by simpa using hw c hc
  have word : SpellsWord true (w.flatMap singleChar) w := spellsWord_flatMap fun c hc =>
    spells_singleChar (h.word (List.mem_append_left _ hc) (plain c hc).1 (plain c hc).2)
  have others : ∀ {gap rest' : List Char}, rest = gap ++ rest' → gap ≠ [] →
      SpellsText true (separated (n + 1) singleChar false rest') rest' := by
    rintro gap rest' rfl filled
    have := List.length_pos_iff.2 filled
    exact ih rest'.length (by simp at size; omega) h.suffix.suffix
      (fun hn => newline (by simp [hn])) rfl
  rw [separated_append fun c hc => (plain c hc).2]
  cases rest with
  | nil => simpa [separated] using .word word
  | cons c rest =>
    by_cases line : isBreak c
    · -- line breaks
      obtain ⟨bs, rest, rfl, hbs, hrest'⟩ := exists_run isBreak rest
      rw [← List.cons_append] at h newline ⊢
      have breaks : ∀ b ∈ c :: bs, isBreak b := List.forall_mem_cons.2 ⟨line, hbs⟩
      have first := h.suffix.after_breaks breaks hrest'
      have separate : ∀ b ∈ c :: bs, Separates b := fun b hb => separates_of_isBreak
        (h.printable b (List.mem_append_right w (List.mem_append_left rest hb))) (breaks b hb)
      have kept : c ≠ '\n' := by
        rintro rfl
        exact newline (by simp)
      rw [separated_lines hrest' breaks]
      exact .lines word separate kept n (startsWord_separated h.suffix.suffix first)
        (others List.cons_append.symm (List.cons_ne_nil c bs))
    · -- spaces
      obtain rfl : c = ' ' := by simpa [line] using hrest c rfl
      obtain ⟨gap, rest, rfl, hgap, hrest'⟩ := exists_run (· = ' ') rest
      have blank : ' ' :: gap = spaces (gap.length + 1) := by
        rw [spaces_succ, ← eq_spaces fun c hc => of_decide_eq_true (hgap c hc)]
      have rest' := others List.cons_append.symm (List.cons_ne_nil ' ' gap)
      rw [← List.cons_append, blank] at h ⊢
      have first := h.suffix.after_spaces fun d hd => by simpa using hrest' d hd
      have inside : ∀ c ∈ spaces (gap.length + 1), isBreak c = false := fun c hc => by
        rw [List.eq_of_mem_replicate hc]
        rfl
      rw [separated_append inside, flatMap_spaces rfl]
      exact .blanks word gap.length (startsWord_separated h.suffix.suffix first) rest'

/-! ## 3. Double quotes -/

theorem hexDigit?_capitalHex {d : Nat} (h : d < 16) : hexDigit? (capitalHex d) = some d := by
  have all : ∀ d < 16, hexDigit? (capitalHex d) = some d := by decide
  exact all d h

theorem length_hexDigits (w n : Nat) : (hexDigits w n).length = w := by
  induction w generalizing n with
  | zero => rfl
  | succ w ih => simp [hexDigits, ih]

/-- The digits of a number spell it. -/
theorem mapM_hexDigits : ∀ (w n : Nat), n < Nat.pow 16 w →
    ∃ ds, (hexDigits w n).mapM hexDigit? = some ds ∧ ds.length = w ∧
      ds.foldl (fun v d => v * 16 + d) 0 = n
  | 0, n, h => ⟨[], rfl, rfl, (Nat.lt_one_iff.1 h).symm⟩
  | w + 1, n, h => by
    have h : n < Nat.pow 16 w * 16 := h
    obtain ⟨ds, front, size, value⟩ := mapM_hexDigits w (n / 16)
      (Nat.div_lt_of_lt_mul (Nat.mul_comm .. ▸ h))
    have last := hexDigit?_capitalHex (Nat.mod_lt n (by decide : 0 < 16))
    refine ⟨ds ++ [n % 16], ?_, by simp [size], ?_⟩
    · simp [hexDigits, List.mapM_append, front, last]
    · simp only [List.foldl_append, value, List.foldl_cons, List.foldl_nil]
      omega

theorem hexNumber_hexDigits {w n : Nat} (h : n < Nat.pow 16 w) (rest : List Char) :
    hexNumber w (hexDigits w n ++ rest) = some n := by
  obtain ⟨ds, digits, size, value⟩ := mapM_hexDigits w n h
  have taken : (hexDigits w n ++ rest).take w = hexDigits w n := by
    rw [List.take_append_of_le_length (Nat.le_of_eq (length_hexDigits w n).symm),
      List.take_of_length_le (Nat.le_of_eq (length_hexDigits w n))]
  simp [hexNumber, taken, digits, size, value]

theorem codePoint?_toNat (c : Char) : codePoint? c.toNat = some c := by
  have valid : ¬ ((0xD800 ≤ c.toNat ∧ c.toNat ≤ 0xDFFF) ∨ 0x10FFFF < c.toNat) := by
    have h : c.toNat < 0xD800 ∨ 0xDFFF < c.toNat ∧ c.toNat < 0x110000 := c.valid
    omega
  rw [codePoint?, if_neg valid, Char.ofNat_toNat]

/-- An escape that is read as a character. -/
theorem spells_escape {code : List Char} {letter ch : Char} {more : List Char}
    (hcode : code = letter :: more) (line : isBreak letter = false)
    (h : ∀ c rest, Cursor.rest c = code ++ rest → escape? c = some (ch, c.past code.length rest)) :
    Spells false ('\\' :: code) ch := by
  refine ⟨fun c hc => Option.some.inj hc ▸ ⟨rfl, rfl⟩, by simp, fun fuel c rest hc => ?_⟩
  have stays : (c.past 1 (code ++ rest)).skipBreak = none :=
    Cursor.skipBreak_eq_none fun d hd => by
      rw [Cursor.past_rest, hcode] at hd
      exact Option.some.inj hd ▸ line
  have read := h (c.past 1 (code ++ rest)) rest rfl
  simp [quotedWord, hc, isBlank, isBreak, Cursor.skip_eq hc, stays, read, Cursor.past_past,
    Nat.add_comm 1]

theorem spells_letter {letter ch : Char} (line : isBreak letter = false)
    (digits : escapeDigits letter = 0) (h : escaped? letter = some ch) :
    Spells false ['\\', letter] ch := by
  refine spells_escape rfl line fun c rest hc => ?_
  simp [escape?, Cursor.next?_eq hc, digits, h, Cursor.skip_eq hc]

theorem spells_number {mark ch : Char} {w : Nat} (line : isBreak mark = false)
    (digits : escapeDigits mark = w) (room : ch.toNat < Nat.pow 16 w) (some : w ≠ 0) :
    Spells false ('\\' :: mark :: hexDigits w ch.toNat) ch := by
  refine spells_escape rfl line fun c rest hc => ?_
  have number := hexNumber_hexDigits room rest
  have moved : (c.past 1 (hexDigits w ch.toNat ++ rest)).skipMany w =
      (c.past 1 (hexDigits w ch.toNat ++ rest)).past w rest := by
    have := Cursor.skipMany_eq (c := c.past 1 (hexDigits w ch.toNat ++ rest)) rfl
    rwa [length_hexDigits] at this
  simp [escape?, Cursor.next?_eq hc, digits, some, Cursor.skip_eq hc, number, codePoint?_toNat,
    moved, Cursor.past_past, length_hexDigits, Nat.add_comm 1]

theorem escaped?_escapeLetter {c letter : Char} (h : escapeLetter? c = some letter) :
    isBreak letter = false ∧ escapeDigits letter = 0 ∧ escaped? letter = some c := by
  unfold escapeLetter? at h
  split at h <;> cases h <;> exact ⟨rfl, rfl, rfl⟩

theorem spells_escapeChar (c : Char) : Spells false (escapeChar c) c := by
  unfold escapeChar
  split
  next letter h =>
    obtain ⟨line, digits, read⟩ := escaped?_escapeLetter h
    exact spells_letter line digits read
  next =>
    have bound : c.toNat < 0x110000 := by
      have h : c.toNat < 0xD800 ∨ 0xDFFF < c.toNat ∧ c.toNat < 0x110000 := c.valid
      omega
    dsimp only
    split
    next h => exact spells_number (w := 2) rfl rfl (show c.toNat < 0x100 by omega) (by decide)
    next =>
      split
      next h => exact spells_number (w := 4) rfl rfl (show c.toNat < 0x10000 by omega) (by decide)
      next h =>
        exact spells_number (w := 8) rfl rfl (show c.toNat < 0x100000000 by omega) (by decide)

theorem spells_doubleChar {c : Char} (space : c ≠ ' ') : Spells false (doubleChar c) c := by
  unfold doubleChar
  split
  next => exact spells_escapeChar c
  next h =>
    simp only [Bool.or_eq_true, Bool.not_eq_true', decide_eq_true_eq, not_or,
      Bool.not_eq_false, Bool.not_eq_true] at h
    obtain ⟨⟨⟨printable, line⟩, sign⟩, backslash⟩ := h
    have tab : c ≠ '\t' := by
      rintro rfl
      nomatch printable
    have blank : isBlank c = false := by simp [isBlank, space, tab]
    refine ⟨fun d hd => Option.some.inj hd ▸ ⟨blank, line⟩, by simp, fun fuel p rest hp => ?_⟩
    simp [quotedWord, hp, blank, line, sign, backslash, Cursor.skip_eq hp]

/-- A text in double quotes. -/
theorem spellsText_double (cs : List Char) : SpellsText false (cs.flatMap doubleChar) cs := by
  induction size : cs.length using Nat.strongRecOn generalizing cs with
  | _ m ih => ?_
  rcases exists_gap cs with hw | ⟨w, n, rest, rfl, hw, hrest⟩
  · exact .word (spellsWord_flatMap fun c hc => spells_doubleChar (hw c hc))
  · have word := spellsWord_flatMap fun c hc => spells_doubleChar (hw c hc)
    have next : StartsWord (rest.flatMap doubleChar) := by
      cases rest with
      | nil => exact fun _ h => nomatch h
      | cons c rest =>
        exact (spells_doubleChar fun h => hrest (congrArg some h)).startsWord _
    rw [List.flatMap_append, List.flatMap_append, flatMap_spaces rfl]
    exact .blanks word n next (ih rest.length (by simp [length_spaces] at size; omega) rest rfl)

end Converge.Yaml
