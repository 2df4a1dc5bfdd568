import Converge.Proofs.Yaml.Compose
/-!
# A document is read back from its YAML text

Nothing in a printed text is refused as a character, so the whole of it is read (`readable_eq`); its
tokens are those of the value (`tokens_print`), and the document that they describe holds the value.
A codec that is faithful, writes plain keys and no wide number thus reads what it has written.
`Survives` is closed under lists, fields and records, as faithfulness is.

Main statements: `tokens_print` and `decode_print`.
-/

namespace Converge.Yaml

/-! ## 1. Characters -/

/-- Whether a document may contain all characters of a text. -/
def Permitted (cs : List Char) : Prop := ∀ ch ∈ cs, isPermitted ch

instance (cs : List Char) : Decidable (Permitted cs) :=
  decidable_of_iff (cs.all isPermitted) List.all_eq_true

@[simp] theorem permitted_nil : Permitted [] := fun _ h => nomatch h

@[simp] theorem permitted_cons {ch : Char} {cs : List Char} :
    Permitted (ch :: cs) ↔ isPermitted ch ∧ Permitted cs := List.forall_mem_cons

@[simp] theorem permitted_append {cs ds : List Char} :
    Permitted (cs ++ ds) ↔ Permitted cs ∧ Permitted ds := List.forall_mem_append

theorem isPermitted_of_isPrintable {ch : Char} (h : isPrintable ch) : isPermitted ch := by
  simp only [isPrintable, isPermitted, Bool.or_eq_true, Bool.and_eq_true, decide_eq_true_eq] at h ⊢
  omega

@[simp] theorem permitted_spaces (n : Nat) : Permitted (spaces n) := fun ch h => by
  rw [List.eq_of_mem_replicate h]
  decide

theorem permitted_of_printable {cs : List Char} (h : ∀ ch ∈ cs, isPrintable ch) : Permitted cs :=
  fun ch hc => isPermitted_of_isPrintable (h ch hc)

theorem isPermitted_capitalHex {d : Nat} (h : d < 16) : isPermitted (capitalHex d) := by
  revert d
  decide

theorem permitted_hexDigits : ∀ w n : Nat, Permitted (hexDigits w n)
  | 0, _ => permitted_nil
  | w + 1, n => by
    simp [hexDigits, permitted_hexDigits w, isPermitted_capitalHex (Nat.mod_lt n (by decide))]

theorem isPermitted_escapeLetter {c letter : Char} (h : escapeLetter? c = some letter) :
    isPermitted letter := by
  unfold escapeLetter? at h
  split at h <;> first | (obtain rfl := Option.some.inj h; decide) | nomatch h

theorem permitted_escapeChar (c : Char) : Permitted (escapeChar c) := by
  have marks : isPermitted '\\' ∧ isPermitted 'x' ∧ isPermitted 'u' ∧ isPermitted 'U' := by decide
  unfold escapeChar
  split
  next letter h => simp [marks, isPermitted_escapeLetter h]
  next =>
    dsimp only
    split
    · simp [marks, permitted_hexDigits]
    · split <;> simp [marks, permitted_hexDigits]

theorem permitted_doubleChar (c : Char) : Permitted (doubleChar c) := by
  unfold doubleChar
  split
  · exact permitted_escapeChar c
  next h =>
    simp only [Bool.or_eq_true, Bool.not_eq_true', not_or, Bool.not_eq_false] at h
    simpa using isPermitted_of_isPrintable h.1.1.1

theorem permitted_doubled (cs : List Char) : Permitted (cs.flatMap doubleChar) := by
  intro ch hc
  obtain ⟨c, hcs, hf⟩ := List.mem_flatMap.1 hc
  exact permitted_doubleChar c ch hf

theorem permitted_separated (n : Nat) {one : Char → List Char} : ∀ (broken : Bool) {cs : List Char},
    (∀ ch ∈ cs, isPermitted ch ∧ Permitted (one ch)) → Permitted (separated n one broken cs)
  | broken, [], _ => by cases broken <;> simp [separated]
  | broken, c :: cs, h => by
    obtain ⟨⟨own, written⟩, others⟩ := List.forall_mem_cons.1 h
    unfold separated
    split
    · simp [own, permitted_separated n true others]
    · cases broken <;> simp [written, permitted_separated n false others]

theorem permitted_literalLines (n : Nat) : ∀ (broken : Bool) {cs : List Char}, Permitted cs →
    Permitted (literalLines n broken cs)
  | _, [], _ => permitted_nil
  | broken, c :: cs, h => by
    obtain ⟨own, others⟩ := permitted_cons.1 h
    unfold literalLines
    split
    · simp [own, permitted_literalLines n true others]
    · cases broken <;> simp [own, permitted_literalLines n false others]

theorem permitted_literalBlock (n : Nat) {cs : List Char} (h : Permitted cs) :
    Permitted (literalBlock n cs) := by
  have hint : Permitted (indentHint cs) := by
    unfold indentHint
    split <;> simp [show isPermitted '2' by decide]
  have chomp : Permitted (chompHint cs) := by
    have signs : isPermitted '-' ∧ isPermitted '+' := by decide
    unfold chompHint
    split
    · simp [signs]
    · split
      · simp [signs]
      · split
        · simp [signs]
        · split <;> simp [signs]
  have marks : isPermitted '|' ∧ isPermitted '\n' := by decide
  simp [literalBlock, hint, chomp, marks, permitted_literalLines n true h]

theorem permitted_scalarText (n : Nat) (s : String) : Permitted (scalarText n s) := by
  have quotes : isPermitted '\'' ∧ isPermitted '"' := by decide
  unfold scalarText
  rcases styleOf_cases s with ⟨style, plain, -⟩ | ⟨style, single, -⟩ | ⟨style, literal⟩ | style
  · simp only [canBePlain, Bool.and_eq_true, List.all_eq_true] at plain
    rw [style]
    exact permitted_of_printable plain.1.1.1.1
  · simp only [canBeSingle, Bool.and_eq_true, List.all_eq_true] at single
    simp only [style]
    have written : Permitted (separated n singleChar false s.toList) := by
      refine permitted_separated n false fun ch hc => ?_
      have own := isPermitted_of_isPrintable (single.1.1 ch hc)
      refine ⟨own, ?_⟩
      unfold singleChar
      split <;> simp [quotes, own]
    simp [quotes, written]
  · simp only [style]
    exact permitted_literalBlock n (permitted_of_printable (literal_of_canBeLiteral literal).1)
  · simp only [style]
    simp [quotes, permitted_doubled]

theorem Permitted.closeLine {cs : List Char} (h : Permitted cs) : Permitted (closeLine cs) := by
  unfold Yaml.closeLine
  split
  · exact h
  · simp [h, show isPermitted '\n' by decide]

theorem Permitted.drop {cs : List Char} (h : Permitted cs) (n : Nat) : Permitted (cs.drop n) :=
  fun ch hc => h ch (List.mem_of_mem_drop hc)

theorem permitted_toString (n : Int) : Permitted (toString n).toList := by
  have plain := (canBePlain_toString n).1
  simp only [canBePlain, Bool.and_eq_true, List.all_eq_true] at plain
  exact permitted_of_printable plain.1.1.1.1

theorem permitted_keyText (key : String) : Permitted (keyText key) := by
  unfold keyText
  split
  · simp [permitted_doubled, show isPermitted '"' by decide]
  · exact permitted_scalarText 0 key

mutual

theorem permitted_afterMark (n : Nat) (mapping : Bool) : ∀ v : Value,
    Permitted (afterMark n mapping v)
  | .null | .bool true | .bool false | .list [] | .table [] => by
    simp only [afterMark]
    decide
  | .int m => by
    have marks : isPermitted ' ' ∧ isPermitted '\n' := by decide
    simp only [afterMark, permitted_cons, permitted_append, marks, permitted_toString,
      permitted_nil, and_self]
  | .text s => by
    simp [afterMark, (permitted_scalarText (n + 2) s).closeLine, show isPermitted ' ' by decide]
  | .list (v :: vs) => by
    have marks : isPermitted ' ' ∧ isPermitted '\n' := by decide
    have lines := fun n => permitted_listLines n (v :: vs)
    unfold afterMark
    split <;> simp [marks, lines, Permitted.drop]
  | .table (e :: es) => by
    have marks : isPermitted ' ' ∧ isPermitted '\n' := by decide
    have lines := fun n => permitted_tableLines n (e :: es)
    unfold afterMark
    split <;> simp [marks, lines, Permitted.drop]

theorem permitted_listLines (n : Nat) : ∀ vs : List Value, Permitted (listLines n vs)
  | [] => permitted_nil
  | v :: vs => by
    simp [listLines, permitted_afterMark n false v, permitted_listLines n vs,
      show isPermitted '-' by decide]

theorem permitted_tableLines (n : Nat) : ∀ es : List (String × Value),
    Permitted (tableLines n es)
  | [] => permitted_nil
  | (key, v) :: es => by
    simp [tableLines, permitted_keyText key, permitted_afterMark n true v,
      permitted_tableLines n es, show isPermitted ':' by decide]

end

theorem portion_append : ∀ (room : Nat) (cs : List Char),
    (portion room cs).1 ++ (portion room cs).2 = cs
  | _, [] => rfl
  | room, c :: cs => by
    unfold portion
    split
    · simp [portion_append]
    · rfl

/-- A portion has at least one character. -/
theorem length_portion (c : Char) (cs : List Char) :
    (portion portionSize (c :: cs)).2.length ≤ cs.length := by
  have fits : c.utf8Size ≤ portionSize := Nat.le_trans c.utf8Size_le_four (by decide)
  have parts := congrArg List.length (portion_append (portionSize - c.utf8Size) cs)
  rw [List.length_append] at parts
  rw [portion, if_pos fits]
  dsimp only
  omega

/-- A text of permitted characters is read to its end. -/
theorem readable_eq : ∀ (fuel : Nat) {cs : List Char}, Permitted cs → cs.length < fuel →
    readable fuel cs = (cs, true)
  | fuel + 1, [], _, _ => rfl
  | fuel + 1, c :: cs, h, enough => by
    have parts := portion_append portionSize (c :: cs)
    have size := length_portion c cs
    rw [readable]
    case x_2 => nofun
    generalize hp : portion portionSize (c :: cs) = r at parts size
    obtain ⟨front, back⟩ := r
    rw [← parts] at h
    obtain ⟨own, others⟩ := permitted_append.1 h
    have rest := readable_eq fuel others (Nat.lt_of_le_of_lt size (Nat.lt_of_succ_lt_succ enough))
    have all : front.all isPermitted := List.all_eq_true.2 own
    simp only [all, if_true, rest]
    rw [parts]

/-! ## 2. Documents -/

namespace Lexer

variable {l : Lexer} {q : List Token} {cs : List Char}

/-- The beginning of a text is before its first token. -/
theorem rests_start (h : StartsToken cs) : (start cs).Rests 0 cs (-1) [] [.streamStart] :=
  rests_placed nofun rfl rfl h

/-- The end of the text closes the outermost collection. -/
theorem Rests.finish (h : l.Rests 0 [] (0 : Nat) [-1] q) : ∃ l', l.advance = some l' ∧ l'.finished ∧
    l'.blockKey = none ∧ l'.flowKeys = [] ∧ l'.queue = q ++ [.blockEnd, .streamEnd] := by
  obtain ⟨-, -, -, p, hp, place, comes⟩ := h
  rw [dedent_of_le (Int.le_refl _)] at comes
  rw [advance_of_comes comes]
  simp [Lexer.next, marked, hp, atEnd, place, dedent, inFlow, closeTo, emit, dropCandidate,
    candidate]

theorem held_start (cs : List Char) : Lags [] (start cs) (start cs) :=
  ⟨rfl, Nat.zero_le _, fun k hk => by simp [start] at hk⟩

theorem run_tableLines {key : String} {v : Value} {es : List (String × Value)}
    (keyed : (Value.table ((key, v) :: es)).Keyed IsPlainKey)
    (h : cs = tableLines 0 ((key, v) :: es)) : run true (cs.length + 3) (start cs) =
      .streamStart :: (words false (.table ((key, v) :: es)) ++ [.streamEnd]) := by
  obtain ⟨plain, keyed, others⟩ := keyed
  have lines := tableLines_append plain 0 v es []
  rw [List.append_nil, ← h] at lines
  have starts : (start cs).Rests 0 cs (-1) [] [.streamStart] :=
    rests_start (lines ▸ plain.startsToken _)
  rw [lines] at starts
  have next : StartsToken [] := nofun
  obtain ⟨l', steps, rests⟩ := steps_entries key v es plain keyed others starts (by decide)
    (Nat.le_refl 0) next
  obtain ⟨l'', last, finished, block, flow, queue⟩ := rests.finish
  have enough : cs.length + 2 ≤ cs.length + 3 := Nat.le_succ _
  rw [← lines] at steps
  have whole := run_of_steps steps last rests.1 finished block flow (held_start _) enough
  exact (whole.symm.trans queue).trans (by simp [opening, words])

end Lexer

/-- **The tokens of a printed table.** -/
theorem tokens_print {key : String} {v : Value} {es : List (String × Value)}
    (keyed : (Value.table ((key, v) :: es)).Keyed IsPlainKey) :
    tokens (print (.table ((key, v) :: es))) =
      .streamStart :: (words false (.table ((key, v) :: es)) ++ [.streamEnd]) := by
  have text : (print (.table ((key, v) :: es))).toList = tableLines 0 ((key, v) :: es) :=
    String.toList_ofList
  have whole := readable_eq ((print (.table ((key, v) :: es))).length + 1)
    (permitted_tableLines 0 ((key, v) :: es)) (by rw [← text, String.length_toList]; omega)
  simp only [tokens, text, whole, Bool.not_true, Bool.false_and, Bool.false_eq_true, if_false]
  exact Lexer.run_tableLines keyed rfl

/-- **What is written as YAML is read back**, if all keys are plain and no number is too wide. -/
theorem decode_print {c : Codec α} (h : c.Faithful) {a : α} {e : String × Value}
    {es : List (String × Value)} (filled : c.write a = .table (e :: es))
    (narrow : (c.write a).Narrow) (keyed : (c.write a).Keyed IsPlainKey) :
    c.decode (Composer.document (tokens (print (c.write a)))) = .ok a := by
  obtain ⟨key, v⟩ := e
  rw [filled] at narrow keyed
  have made := congrArg Composer.document (tokens_print keyed)
  rw [filled]
  generalize Composer.document (tokens (print (.table ((key, v) :: es)))) = d at made
  obtain ⟨root, sound⟩ := Composer.document_words narrow made
  rw [← filled] at root
  exact h.decode root sound

/-! ## 3. Codecs -/

/-- Whether a codec reads what it has written, and writes no wide number and only plain keys. -/
structure Survives (c : Codec α) : Prop where
  faithful : c.Faithful
  narrow : c.Narrow
  keyed : c.Keyed IsPlainKey

structure FieldSurvives (f : Field α) (key : String) : Prop where
  named : f.key = key
  faithful : f.Faithful
  narrow : f.codec.Narrow
  keyed : f.codec.Keyed IsPlainKey

structure FieldsSurvive (fields : Fields β) (keys : List String) : Prop where
  faithful : keys.Nodup → fields.Faithful keys
  narrow : fields.Narrow
  keyed : (∀ key ∈ keys, IsPlainKey key) → fields.Keyed IsPlainKey

namespace Survives

open Codec

variable {c : Codec α}

theorem text : Survives Codec.text := ⟨faithful_text, narrow_text, keyed_text⟩
theorem bool : Survives Codec.bool := ⟨faithful_bool, narrow_bool, keyed_bool⟩
theorem int16 : Survives Codec.int16 := ⟨faithful_int16, narrow_int16, keyed_bounded⟩
theorem int32 : Survives Codec.int32 := ⟨faithful_int32, narrow_int32, keyed_bounded⟩
theorem int64 : Survives Codec.int64 := ⟨faithful_int64, narrow_int64, keyed_bounded⟩

theorem list (h : Survives c) : Survives c.list := ⟨h.faithful.list, h.narrow.list, h.keyed.list⟩

theorem record {name : String} {fields : Fields β} {keys : List String} {make : β → α}
    {of : α → β} (h : FieldsSurvive fields keys)
    (hk : keys.Nodup ∧ ∀ key ∈ keys, IsPlainKey key) (inverse : ∀ a, make (of a) = a) :
    Survives (Codec.record name fields make of) :=
  ⟨.record (h.faithful hk.1) inverse, .record h.narrow, .record (h.keyed hk.2)⟩

end Survives

namespace FieldSurvives

open Converge.Field

variable {c : Codec α}

theorem required (key : String) (h : Survives c) : FieldSurvives (required key c) key :=
  ⟨rfl, faithful_required h.faithful, h.narrow, h.keyed⟩

theorem withDefault (key : String) (a : α) (h : Survives c) :
    FieldSurvives (withDefault key c a) key :=
  ⟨rfl, faithful_withDefault h.faithful, h.narrow, h.keyed⟩

theorem unlessEmpty (key : String) (h : Survives c) : FieldSurvives (unlessEmpty key c) key :=
  ⟨rfl, faithful_unlessEmpty h.faithful, h.narrow.list, h.keyed.list⟩

theorem ifAny (key : String) (h : Survives c) (present : c.Present) :
    FieldSurvives (ifAny key c) key :=
  ⟨rfl, faithful_ifAny h.faithful present, h.narrow.optional, h.keyed.optional⟩

end FieldSurvives

theorem FieldsSurvive.none : FieldsSurvive Fields.none [] :=
  ⟨fun _ => Fields.faithful_none, Fields.narrow_none, fun _ => Fields.keyed_none⟩

theorem FieldsSurvive.and {f : Field α} {key : String} {rest : Fields β} {keys : List String}
    (hf : FieldSurvives f key) (hr : FieldsSurvive rest keys) :
    FieldsSurvive (Fields.and f rest) (key :: keys) := by
  obtain ⟨rfl, faithful, narrow, keyed⟩ := hf
  refine ⟨fun distinct => ?_, .and narrow hr.narrow, fun plain => ?_⟩
  · obtain ⟨own, others⟩ := List.nodup_cons.1 distinct
    exact .and faithful (hr.faithful others) own
  · obtain ⟨own, others⟩ := List.forall_mem_cons.1 plain
    exact .and own keyed (hr.keyed others)

end Converge.Yaml
