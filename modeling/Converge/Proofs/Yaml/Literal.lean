import Converge.Proofs.Yaml.Plain
/-!
# Literal blocks are read back

A block is read line by line: the breaks after a line are looked through before it is known whether
another line of the block follows.  The induction is on the text of the lines, which begins and ends
inside a line (`Lines`); what precedes it are empty lines, and what follows it are the breaks that
the sign of the block speaks of (`exists_chomp`).

Main statement: `blockScalar_eq`.
-/

namespace Converge.Yaml

/-! ## 1. Between the lines -/

variable {indent : Nat} {c : Cursor} {rest : List Char}

/-- Whether the spaces in front of a line of a block end here: at a character of the line, or where
the indentation of the block ends. -/
def EndsIndent (indent column : Nat) (rest : List Char) : Prop :=
  (rest.head? ≠ some ' ' ∧ (indent = 0 ∨ column ≤ indent)) ∨ (column = indent ∧ indent ≠ 0)

theorem blockSpaces_eq : ∀ (n fuel : Nat) {c : Cursor}, c.rest = spaces n ++ rest →
    EndsIndent indent (c.column + n) rest → n ≤ fuel → blockSpaces indent fuel c = c.past n rest
  | 0, fuel, c, h, ends, _ => by
    have same : c.past 0 rest = c := Cursor.past_zero h
    have h : c.rest = rest := h
    rw [same]
    cases fuel with
    | zero => rfl
    | succ fuel =>
      have stop : ¬ (c.next? = some ' ' ∧ (indent = 0 ∨ c.column < indent)) := by
        rw [Cursor.next?, h]
        rintro ⟨space, room⟩
        rcases ends with ⟨other, -⟩ | ⟨column, known⟩
        · exact other space
        · omega
      rw [blockSpaces]
      exact if_neg (by simpa using stop)
  | n + 1, fuel + 1, c, h, ends, enough => by
    rw [spaces_succ, List.cons_append] at h
    have room : indent = 0 ∨ c.column < indent := by
      rcases ends with ⟨-, unknown | room⟩ | ⟨column, known⟩ <;> omega
    have others := blockSpaces_eq n fuel (c := c.past 1 (spaces n ++ rest)) rfl
      (by rwa [Cursor.past_column, Nat.add_assoc, Nat.add_comm 1]) (Nat.le_of_succ_le_succ enough)
    rw [blockSpaces, Cursor.next?_eq h, Cursor.skip_eq h, others, Cursor.past_past, Nat.add_comm 1]
    simp [room]

/-- Empty lines and the indentation of the line after them. -/
theorem blockBreaks_eq {n : Nat} (ends : EndsIndent indent n rest)
    (next : ∀ ch ∈ rest.head?, ch ≠ '\t' ∧ isBreak ch = false) :
    ∀ {bs : List Char}, (∀ b ∈ bs, Separates b) → ∀ (fuel widest : Nat) {c : Cursor},
      c.rest = bs ++ (spaces n ++ rest) → c.column = 0 → bs.length + n < fuel →
      ∃ p, blockBreaks indent fuel widest c = some (bs, max widest n, p) ∧
        p.rest = rest ∧ p.column = n ∧ p.line = c.line + bs.length
  | [], _, fuel + 1, widest, c, h, column, enough => by
    have moved := blockSpaces_eq n (fuel + 1) h (by rwa [column, Nat.zero_add])
      (by simp at enough; omega)
    have stays : (c.past n rest).skipBreak = none :=
      Cursor.skipBreak_eq_none fun ch hch => (next ch hch).2
    have tab : (c.past n rest).next? ≠ some '\t' := fun ht => (next _ ht).1 rfl
    refine ⟨c.past n rest, ?_, rfl, by simp [column], rfl⟩
    simp [blockBreaks, moved, stays, tab, column]
  | b :: bs, separate, fuel + 1, widest, c, h, column, enough => by
    obtain ⟨hb, hbs⟩ := List.forall_mem_cons.1 separate
    have stop : EndsIndent indent (c.column + 0) (b :: (bs ++ (spaces n ++ rest))) := by
      refine .inl ⟨?_, by omega⟩
      rcases hb with rfl | rfl | rfl <;> simp
    have moved : blockSpaces indent (fuel + 1) c = c := by
      have h : c.rest = spaces 0 ++ b :: (bs ++ (spaces n ++ rest)) := h
      rw [blockSpaces_eq 0 _ h stop (Nat.zero_le _)]
      exact Cursor.past_zero h
    have tab : b ≠ '\t' := by rcases hb with rfl | rfl | rfl <;> decide
    obtain ⟨p, others, hp, hcolumn, hline⟩ := blockBreaks_eq ends next hbs fuel
      (max widest c.column) (c := c.down 1 (bs ++ (spaces n ++ rest))) rfl rfl
      (by simp at enough; omega)
    rw [column, Nat.max_eq_left (Nat.zero_le widest)] at others
    refine ⟨p, ?_, hp, hcolumn, by simp [hline]; omega⟩
    simp [blockBreaks, moved, Cursor.next?_eq h, tab, Cursor.skipBreak_eq hb h, column, others]

theorem StartsWord.head?_ne (h : StartsWord rest) : rest.head? ≠ some ' ' := fun e =>
  nomatch (h ' ' e).1

theorem StartsWord.character (h : StartsWord rest) :
    ∀ ch ∈ rest.head?, ch ≠ '\t' ∧ isBreak ch = false := by
  refine fun ch hch => ⟨?_, (h ch hch).2⟩
  rintro rfl
  nomatch (h '\t' hch).1

/-! ## 2. The lines -/

theorem literalLines_append {line : List Char} (h : ∀ ch ∈ line, isBreak ch = false)
    (rest : List Char) :
    literalLines indent false (line ++ rest) = line ++ literalLines indent false rest := by
  induction line with
  | nil => rfl
  | cons ch line ih =>
    obtain ⟨hc, hl⟩ := List.forall_mem_cons.1 h
    simp [literalLines, hc, ih hl]

theorem literalLines_breaks (broken : Bool) : ∀ {b : Char} {bs : List Char},
    (∀ ch ∈ b :: bs, isBreak ch) → ∀ rest,
      literalLines indent broken (b :: bs ++ rest) = b :: bs ++ literalLines indent true rest
  | b, [], h, rest => by simp [literalLines, h b List.mem_cons_self]
  | b, b' :: bs, h, rest => by
    obtain ⟨hb, hbs⟩ := List.forall_mem_cons.1 h
    rw [List.cons_append, literalLines, if_pos hb, literalLines_breaks true hbs]
    rfl

theorem literalLines_lead {lead : List Char} (h : ∀ ch ∈ lead, isBreak ch) (rest : List Char) :
    literalLines indent true (lead ++ rest) = lead ++ literalLines indent true rest := by
  cases lead with
  | nil => rfl
  | cons b bs => exact literalLines_breaks true h rest

theorem literalLines_trail {trail : List Char} (h : ∀ ch ∈ trail, isBreak ch) :
    ∀ (cs : List Char) (broken : Bool),
      literalLines indent broken (cs ++ trail) = literalLines indent broken cs ++ trail
  | [], broken => by
    cases trail with
    | nil => rfl
    | cons b bs => simpa [literalLines] using literalLines_breaks broken h []
  | ch :: cs, broken => by
    rw [List.cons_append, literalLines, literalLines]
    split <;> simp [literalLines_trail h cs]

theorem literalLines_indented {ch : Char} (h : isBreak ch = false) (rest : List Char) :
    literalLines indent true (ch :: rest) =
      spaces indent ++ literalLines indent false (ch :: rest) := by
  simp [literalLines, h]

theorem getLast?_append {ch : Char} {back : List Char} (front : List Char)
    (h : back.getLast? = some ch) : (front ++ back).getLast? = some ch := by
  rw [List.getLast?_append, h]
  rfl

/-- Whether a text can be lines of a block: it begins and ends with a character of a line. -/
structure Lines (cs : List Char) : Prop where
  printable : ∀ ch ∈ cs, isPrintable ch
  filled : cs ≠ []
  first : ∀ ch ∈ cs.head?, isBreak ch = false
  last : ∀ ch ∈ cs.getLast?, isBreak ch = false

/-- A text of several lines: the breaks after its first line, and the lines below. -/
theorem Lines.below {line more : List Char} {b : Char} (lines : Lines (line ++ b :: more))
    (hb : isBreak b) : ∃ bs below, more = bs ++ below ∧ (∀ ch ∈ b :: bs, Separates ch) ∧
      Lines below := by
  obtain ⟨bs, below, rfl, hbs, hbelow⟩ := exists_run isBreak more
  rw [← List.cons_append] at lines
  have breaks : ∀ ch ∈ b :: bs, isBreak ch := List.forall_mem_cons.2 ⟨hb, hbs⟩
  have filled : below ≠ [] := by
    rintro rfl
    rw [List.append_nil] at lines
    have last := List.getLast?_eq_some_getLast (List.cons_ne_nil b bs)
    have := lines.last _ (getLast?_append line last)
    rw [breaks _ (List.getLast_mem _)] at this
    nomatch this
  refine ⟨bs, below, rfl, fun ch hch => separates_of_isBreak ?_ (breaks ch hch),
    fun ch hch => ?_, filled, hbelow, fun ch hch => ?_⟩
  · exact lines.printable ch (List.mem_append_right line (List.mem_append_left below hch))
  · exact lines.printable ch (List.mem_append_right line (List.mem_append_right _ hch))
  · exact lines.last ch (getLast?_append line (getLast?_append _ hch))

theorem Lines.indented {cs : List Char} (h : Lines cs) :
    literalLines indent true cs = spaces indent ++ literalLines indent false cs := by
  obtain ⟨first, cs, rfl⟩ := List.exists_cons_of_ne_nil h.filled
  exact literalLines_indented (h.first first rfl) cs

theorem Lines.head?_written {cs : List Char} (h : Lines cs) (tail : List Char) :
    (literalLines indent false cs ++ tail).head? = cs.head? := by
  obtain ⟨first, cs, rfl⟩ := List.exists_cons_of_ne_nil h.filled
  simp [literalLines, h.first first rfl]

theorem Lines.character {cs : List Char} (h : Lines cs) :
    ∀ ch ∈ cs.head?, ch ≠ '\t' ∧ isBreak ch = false := by
  refine fun ch hch => ⟨?_, h.first ch hch⟩
  rintro rfl
  nomatch h.printable '\t' (List.mem_of_mem_head? hch)

/-- One line of a block, the breaks after it, and the indentation of what comes below. -/
theorem blockLines_line {n : Nat} {line bs below : List Char} {b : Char} {fuel : Nat}
    (ends : EndsIndent indent n below) (next : ∀ ch ∈ below.head?, ch ≠ '\t' ∧ isBreak ch = false)
    (hline : ∀ ch ∈ line, isBreak ch = false) (separate : ∀ ch ∈ b :: bs, Separates ch)
    (h : c.rest = line ++ (b :: bs ++ (spaces n ++ below))) (place : c.column = indent)
    (enough : c.rest.length ≤ fuel + 1) (leading : Option Char) (breaks : List Char)
    (blank : Bool) :
    ∃ p, p.rest = below ∧ p.column = n ∧ c.line < p.line ∧
      blockLines true indent (fuel + 1) leading breaks blank c =
        (blockLines true indent fuel (some b) bs (c.next?.any isBlank) p).map
          fun (others, last, after, p) =>
            (leading.toList ++ breaks ++ line ++ others, last, after, p) := by
  obtain ⟨hb, hbs⟩ := List.forall_mem_cons.1 separate
  rw [List.cons_append] at h
  have size := congrArg List.length h
  simp only [List.length_append, List.length_cons, length_spaces] at size
  have taken := Cursor.takeWhile_eq (p := fun ch => !isBreak ch) h
    (fun ch hch => by simp [hline ch hch]) (fun ch hch => by
      obtain rfl := Option.some.inj hch
      simp [hb.isBreak])
  have down : (c.past line.length (b :: (bs ++ (spaces n ++ below)))).skipBreak = _ :=
    Cursor.skipBreak_eq hb rfl
  obtain ⟨p, gap, hp, hcolumn, hline'⟩ := blockBreaks_eq ends next hbs (fuel + 1) 0
    (c := (c.past line.length (b :: (bs ++ (spaces n ++ below)))).down 1 _) rfl rfl (by omega)
  have filled : c.rest.isEmpty = false := by simp [h]
  refine ⟨p, hp, hcolumn, by simp at hline'; omega, ?_⟩
  simp [blockLines, place, filled, taken, down, gap]

/-- **The lines of a block are read as they are written**, with the breaks after them. -/
theorem blockLines_eq {column : Nat} {b : Char} {bs : List Char} (out : column < indent)
    (next : StartsWord rest) (separate : ∀ ch ∈ b :: bs, Separates ch) {cs : List Char}
    (lines : Lines cs) {c : Cursor} {fuel : Nat}
    (h : c.rest = literalLines indent false cs ++ (b :: bs ++ (spaces column ++ rest)))
    (place : c.column = indent) (enough : c.rest.length < fuel) (leading : Option Char)
    (breaks : List Char) (blank : Bool) :
    ∃ p, blockLines true indent fuel leading breaks blank c =
        some (leading.toList ++ breaks ++ cs, some b, bs, p) ∧
      p.rest = rest ∧ p.column = column ∧ c.line < p.line := by
  obtain ⟨fuel, rfl⟩ : ∃ f, fuel = f + 1 := ⟨fuel - 1, by omega⟩
  induction size : cs.length using Nat.strongRecOn
    generalizing cs c fuel leading breaks blank with
  | _ m ih => ?_
  obtain ⟨line, more, rfl, hline, hmore⟩ := exists_run (fun ch => !isBreak ch) cs
  replace hline : ∀ ch ∈ line, isBreak ch = false := fun ch hch => by simpa using hline ch hch
  rw [literalLines_append hline, List.append_assoc] at h
  cases more with
  | nil =>
    -- the last line
    have ends : EndsIndent indent column rest := .inl ⟨next.head?_ne, .inr (Nat.le_of_lt out)⟩
    obtain ⟨p, hp, hcolumn, hline', read⟩ := blockLines_line ends next.character hline separate h
      place (Nat.le_of_lt enough) leading breaks blank
    have ended : blockLines true indent fuel (some b) bs (c.next?.any isBlank) p =
        some ([], some b, bs, p) := by
      cases fuel <;> simp [blockLines, hcolumn, Nat.ne_of_lt out]
    refine ⟨p, ?_, hp, hcolumn, hline'⟩
    rw [read, ended]
    simp
  | cons b' more =>
    -- another line after some breaks
    obtain ⟨bs', below, rfl, separate', lines'⟩ := lines.below (by simpa using hmore b' rfl)
    rw [← List.cons_append, literalLines_breaks false fun ch hch => (separate' ch hch).isBreak,
      lines'.indented, List.append_assoc, List.append_assoc] at h
    have ends : EndsIndent indent indent (literalLines indent false below ++
        (b :: bs ++ (spaces column ++ rest))) := .inr ⟨rfl, by omega⟩
    obtain ⟨p, hp, hcolumn, hline', read⟩ := blockLines_line ends
      (by rw [lines'.head?_written]; exact lines'.character) hline separate' h place
      (Nat.le_of_lt enough) leading breaks blank
    have shorter := congrArg List.length h
    simp only [List.length_append, List.length_cons, ← hp] at shorter size
    obtain ⟨fuel, rfl⟩ : ∃ f, fuel = f + 1 := ⟨fuel - 1, by omega⟩
    obtain ⟨q, read', hq, hcolumn', hline''⟩ := ih below.length (by omega) lines' hp hcolumn
      (some b') bs' (c.next?.any isBlank) fuel (by omega) rfl
    refine ⟨q, ?_, hq, hcolumn', by omega⟩
    rw [read, read']
    simp

/-! ## 3. The block -/

/-- The sign for what becomes of the breaks at the end of a block. -/
def Chomp.sign : Chomp → List Char
  | .clip => []
  | .strip => ['-']
  | .keep => ['+']

/-- The digit for the indentation of a block, where it is given. -/
def hint (given : Bool) : List Char := if given then ['2'] else []

theorem blockHeader_eq (given : Bool) (chomp : Chomp)
    (h : c.rest = hint given ++ chomp.sign ++ '\n' :: rest) :
    ∃ q, q.rest = '\n' :: rest ∧ q.line = c.line ∧
      blockHeader c = some (chomp, if given then some 2 else none, q) := by
  refine ⟨c.past (hint given ++ chomp.sign).length ('\n' :: rest), rfl, rfl, ?_⟩
  have zero : c.past 0 c.rest = c := rfl
  cases given <;> cases chomp <;>
    simp_all [hint, Chomp.sign, blockHeader, chomp?, blockIndent?, Cursor.next?, Cursor.skip,
      Cursor.past]

/-- The first line of a block, and the lines below it. -/
theorem blockScalar_start {outer : Nat} (given : Bool) (chomp : Chomp)
    (h : c.rest = '|' :: (hint given ++ chomp.sign ++ '\n' :: rest)) :
    ∃ q, q.rest = rest ∧ q.column = 0 ∧ q.line = c.line + 1 ∧ blockScalar true outer c =
      (blockBreaks (if given then outer + 2 else 0) (rest.length + 1) 0 q).bind
        fun (breaks, widest, p) =>
          (blockLines true (if given then outer + 2 else max (max widest (outer + 1)) 1)
            (p.rest.length + 1) none breaks false p).bind fun (text, last, after, p) =>
              some (text ++ (if chomp = .strip then [] else last.toList) ++
                (if chomp = .keep then after else []), p) := by
  obtain ⟨q, hq, hline, header⟩ := blockHeader_eq (c := c.past 1 _) given chomp rfl
  have blank := Cursor.takeWhile_eq (p := isBlank)
    (show q.rest = [] ++ '\n' :: rest from hq) nofun fun ch hch => Option.some.inj hch ▸ rfl
  have same : q.past 0 ('\n' :: rest) = q := Cursor.past_zero hq
  have down := Cursor.skipBreak_eq (b := '\n') (.inl rfl) hq
  have mark : '\n' ≠ '#' := by decide
  have ends : endsLine ('\n' :: rest) = true := rfl
  refine ⟨q.down 1 rest, rfl, rfl, by rw [Cursor.down_line, hline]; rfl, ?_⟩
  rw [List.length_nil, same] at blank
  simp only [blockScalar, Cursor.skip_eq h, header, Option.bind_eq_bind, Option.bind_some,
    Cursor.skipWhile, blank, Cursor.next?_eq hq, Option.some.injEq, mark, if_false, hq, ends, down,
    Cursor.down_rest]
  cases given <;> simp

theorem getLast?_literalLines (broken : Bool) (cs : List Char) :
    (literalLines indent broken cs).getLast? = cs.getLast? := by
  induction cs generalizing broken with
  | nil => rfl
  | cons ch cs ih =>
    rw [literalLines]
    split
    · rw [List.getLast?_cons, List.getLast?_cons, ih]
    · rw [getLast?_append _ (List.getLast?_cons ..), List.getLast?_cons, ih]

theorem closeLine_literalBlock {cs : List Char} (filled : cs ≠ []) :
    closeLine (literalBlock indent cs) =
      '|' :: (indentHint cs ++ chompHint cs ++ '\n' :: (literalLines indent true cs ++
        if cs.getLast?.any isBreak then [] else ['\n'])) := by
  obtain ⟨last, hlast⟩ : ∃ last, cs.getLast? = some last :=
    ⟨_, List.getLast?_eq_some_getLast filled⟩
  have ends : (literalBlock indent cs).getLast? = some last := by
    refine getLast?_append _ ?_
    rw [List.getLast?_cons, getLast?_literalLines, hlast]
    rfl
  rw [closeLine, ends, hlast]
  cases h : isBreak last <;> simp [literalBlock, h]

theorem chompHint_breaks {cs : List Char} (filled : cs ≠ []) (h : ∀ ch ∈ cs, isBreak ch) :
    chompHint cs = Chomp.sign .keep := by
  have breaks : ∀ ch ∈ cs.reverse, isBreak ch := fun ch hch => h ch (List.mem_reverse.1 hch)
  unfold chompHint
  cases hr : cs.reverse with
  | nil => exact absurd (List.reverse_eq_nil_iff.1 hr) filled
  | cons last before =>
    rw [hr] at breaks
    cases before with
    | nil => simp [breaks last, Chomp.sign]
    | cons ch before => simp [breaks last, breaks ch, Chomp.sign]

/-- A text with a line in it: its lines, and the breaks after the last of them. -/
theorem exists_trail {first : Char} {more : List Char}
    (printable : ∀ ch ∈ first :: more, isPrintable ch) (line : isBreak first = false) :
    ∃ text trail, first :: more = text ++ trail ∧ Lines text ∧ ∀ ch ∈ trail, Separates ch := by
  obtain ⟨run, front, hcs, hrun, hfront⟩ := exists_run isBreak (first :: more).reverse
  have whole : first :: more = front.reverse ++ run.reverse := by
    rw [← List.reverse_append, ← hcs, List.reverse_reverse]
  have filled : front.reverse ≠ [] := fun none => by
    rw [none, List.nil_append] at whole
    rw [hrun first (List.mem_reverse.1 (whole ▸ List.mem_cons_self))] at line
    nomatch line
  refine ⟨_, _, whole, ⟨fun ch hch => ?_, filled, fun ch hch => ?_, fun ch hch => ?_⟩,
    fun ch hch => ?_⟩
  · exact printable ch (whole ▸ List.mem_append_left _ hch)
  · obtain ⟨d, ds, hd⟩ := List.exists_cons_of_ne_nil filled
    rw [hd] at whole hch
    obtain rfl := (List.cons.inj whole).1
    exact Option.some.inj hch ▸ line
  · rw [List.getLast?_reverse] at hch
    exact hfront ch hch
  · exact separates_of_isBreak (printable ch (whole ▸ List.mem_append_right _ hch))
      (hrun ch (List.mem_reverse.1 hch))

theorem Lines.exists_last {cs : List Char} (h : Lines cs) :
    ∃ front last, cs = front ++ [last] ∧ isBreak last = false :=
  ⟨cs.dropLast, cs.getLast h.filled, (List.dropLast_concat_getLast h.filled).symm,
    h.last _ (List.getLast?_eq_some_getLast h.filled)⟩

/-- The breaks after the last line of a block, with the one that is added where there is none, and
the sign that says which of them count. -/
theorem exists_chomp {text trail : List Char} (lines : Lines text)
    (separate : ∀ ch ∈ trail, Separates ch) (lead : List Char) :
    ∃ b bs chomp, (∀ ch ∈ b :: bs, Separates ch) ∧
      (trail ++ if (lead ++ (text ++ trail)).getLast?.any isBreak then [] else ['\n']) = b :: bs ∧
      chompHint (lead ++ (text ++ trail)) = Chomp.sign chomp ∧
      (if chomp = .strip then [] else [b]) ++ (if chomp = .keep then bs else []) = trail := by
  obtain ⟨front, last, rfl, line⟩ := lines.exists_last
  rcases List.eq_nil_or_concat trail with rfl | ⟨trail, e, rfl⟩
  · exact ⟨'\n', [], .strip, by simp [Separates], by simp [line],
      by simp [chompHint, line, Chomp.sign], rfl⟩
  have he := (separate e (by simp)).isBreak
  rcases List.eq_nil_or_concat trail with rfl | ⟨trail, d, rfl⟩
  · exact ⟨e, [], .clip, separate, by simp [he], by simp [chompHint, he, line, Chomp.sign], rfl⟩
  have hd := (separate d (by simp)).isBreak
  obtain ⟨b, bs, shown⟩ : ∃ b bs, (trail.concat d).concat e = b :: bs :=
    List.exists_cons_of_ne_nil (by simp)
  have final : (lead ++ (front ++ [last] ++ (trail.concat d).concat e)).getLast? = some e :=
    getLast?_append lead (getLast?_append _ (by simp))
  refine ⟨b, bs, .keep, shown ▸ separate, ?_, by simp [chompHint, he, hd, Chomp.sign], shown.symm⟩
  rw [← shown, final]
  simp [he]

/-- Whether the indentation is given, which the beginning of the text decides. -/
theorem exists_hint {lead text : List Char} (hlead : ∀ ch ∈ lead, Separates ch) (lines : Lines text)
    (trail : List Char) : ∃ given, indentHint (lead ++ (text ++ trail)) = hint given ∧
      (given = false → lead = [] ∧ text.head? ≠ some ' ') := by
  refine ⟨_, rfl, fun none => ?_⟩
  cases lead with
  | nil =>
    obtain ⟨first, text, rfl⟩ := List.exists_cons_of_ne_nil lines.filled
    exact ⟨rfl, by simpa [isSpace, lines.first first rfl] using none⟩
  | cons ch lead => simp [(hlead ch List.mem_cons_self).isBreak] at none

/-- A block of nothing but breaks. -/
theorem blockScalar_breaks {outer column : Nat} {cs : List Char}
    (separate : ∀ ch ∈ cs, Separates ch) (filled : cs ≠ []) (out : column ≤ outer)
    (next : StartsWord rest)
    (h : c.rest = closeLine (literalBlock (outer + 2) cs) ++ (spaces column ++ rest)) :
    ∃ p, blockScalar true outer c = some (cs, p) ∧ p.rest = rest ∧ p.column = column ∧
      c.line < p.line := by
  have breaks : ∀ ch ∈ cs, isBreak ch := fun ch hch => (separate ch hch).isBreak
  have last := List.getLast?_eq_some_getLast filled
  rw [closeLine_literalBlock filled, chompHint_breaks filled breaks, last, Option.any_some,
    breaks _ (List.getLast_mem filled), if_pos rfl, List.append_nil] at h
  obtain ⟨b, bs, rfl⟩ := List.exists_cons_of_ne_nil filled
  have hinted : indentHint (b :: bs) = hint true := by
    simp [indentHint, breaks b List.mem_cons_self, hint]
  have written : literalLines (outer + 2) true (b :: bs) = b :: bs := by
    simpa [literalLines] using literalLines_breaks true breaks []
  rw [hinted, written, List.cons_append, List.append_assoc, List.cons_append] at h
  obtain ⟨q, hq, hcolumn, hline, start⟩ := blockScalar_start true .keep h
  have ends : EndsIndent (outer + 2) column rest := .inl ⟨next.head?_ne, .inr (by omega)⟩
  obtain ⟨p, gap, hp, hcolumn', hline'⟩ := blockBreaks_eq ends next.character separate
    ((b :: bs ++ (spaces column ++ rest)).length + 1) 0 hq hcolumn
    (by simp [length_spaces]; omega)
  refine ⟨p, ?_, hp, hcolumn', by omega⟩
  rw [start, if_pos rfl, gap]
  have other : column ≠ outer + 2 := by omega
  simp [blockLines, hcolumn', other]

/-- A block with a line in it: the breaks before its lines, the lines, and the breaks after them. -/
theorem blockScalar_lines {outer column : Nat} {lead text trail : List Char}
    (hlead : ∀ ch ∈ lead, Separates ch) (lines : Lines text) (htrail : ∀ ch ∈ trail, Separates ch)
    (out : column ≤ outer) (next : StartsWord rest)
    (h : c.rest = closeLine (literalBlock (outer + 2) (lead ++ (text ++ trail))) ++
      (spaces column ++ rest)) :
    ∃ p, blockScalar true outer c = some (lead ++ (text ++ trail), p) ∧ p.rest = rest ∧
      p.column = column ∧ c.line < p.line := by
  obtain ⟨b, bs, chomp, separate, ended, sign, kept⟩ := exists_chomp lines htrail lead
  obtain ⟨given, hinted, unhinted⟩ := exists_hint hlead lines trail
  have written : literalLines (outer + 2) true (lead ++ (text ++ trail)) =
      lead ++ (spaces (outer + 2) ++ (literalLines (outer + 2) false text ++ trail)) := by
    rw [literalLines_lead fun ch hch => (hlead ch hch).isBreak,
      literalLines_trail fun ch hch => (htrail ch hch).isBreak, lines.indented, List.append_assoc]
  have below : c.rest = '|' :: (hint given ++ chomp.sign ++ '\n' :: (lead ++
      (spaces (outer + 2) ++ (literalLines (outer + 2) false text ++
        (b :: bs ++ (spaces column ++ rest)))))) := by
    rw [h, closeLine_literalBlock (by simp [lines.filled]), hinted, sign, written, ← ended]
    simp
  obtain ⟨q, hq, hcolumn, hline, start⟩ := blockScalar_start given chomp below
  have ends : EndsIndent (if given then outer + 2 else 0) (outer + 2)
      (literalLines (outer + 2) false text ++ (b :: bs ++ (spaces column ++ rest))) := by
    cases given with
    | true => exact .inr ⟨rfl, by simp⟩
    | false => exact .inl ⟨by rw [lines.head?_written]; exact (unhinted rfl).2, .inl rfl⟩
  obtain ⟨p, gap, hp, hcolumn', hline'⟩ := blockBreaks_eq ends
    (by rw [lines.head?_written]; exact lines.character) hlead
    ((lead ++ (spaces (outer + 2) ++ (literalLines (outer + 2) false text ++
      (b :: bs ++ (spaces column ++ rest))))).length + 1) 0 hq hcolumn
    (by simp only [List.length_append, length_spaces]; omega)
  obtain ⟨p', read, hp', hcolumn'', hline''⟩ := blockLines_eq (show column < outer + 2 by omega)
    next separate lines hp hcolumn' (Nat.lt_succ_self _) none lead false
  -- the indentation is the same whether it is given or found
  have indents : (if given then outer + 2 else max (max (max 0 (outer + 2)) (outer + 1)) 1) =
      outer + 2 := by split <;> omega
  refine ⟨p', ?_, hp', hcolumn'', by omega⟩
  rw [start, gap]
  simp only [Option.bind_some, indents, read]
  rw [Option.toList_none, List.nil_append, Option.toList_some, List.append_assoc,
    List.append_assoc, kept]

/-- **A block is read as the text that it was written for**, up to the next line. -/
theorem blockScalar_eq {outer column : Nat} {cs : List Char} (printable : ∀ ch ∈ cs, isPrintable ch)
    (filled : cs ≠ []) (out : column ≤ outer) (next : StartsWord rest)
    (h : c.rest = closeLine (literalBlock (outer + 2) cs) ++ (spaces column ++ rest)) :
    ∃ p, blockScalar true outer c = some (cs, p) ∧ p.rest = rest ∧ p.column = column ∧
      c.line < p.line := by
  obtain ⟨lead, more, rfl, hlead, hmore⟩ := exists_run isBreak cs
  have leads : ∀ ch ∈ lead, Separates ch := fun ch hch =>
    separates_of_isBreak (printable ch (List.mem_append_left more hch)) (hlead ch hch)
  cases more with
  | nil =>
    rw [List.append_nil] at filled h ⊢
    exact blockScalar_breaks leads filled out next h
  | cons first more =>
    obtain ⟨text, trail, whole, lines, trails⟩ := exists_trail
      (fun ch hch => printable ch (List.mem_append_right lead hch)) (hmore first rfl)
    rw [whole] at h ⊢
    exact blockScalar_lines leads lines trails out next h

end Converge.Yaml
