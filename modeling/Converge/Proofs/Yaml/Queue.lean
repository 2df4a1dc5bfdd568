import Converge.Yaml.Lexer
import Mathlib.Logic.Relation
/-!
# Tokens that are held back

The lexer lets a token go as soon as it cannot become a key.  That makes a step hard to follow,
since what a step finds in the queue depends on what was let go before.  A lexer that lets nothing
go takes the same steps (`Lags`, `Lifts`), because a token goes in front of one that is held back
and never of one that was let go.  So a run gives the tokens that such a lexer ends up with
(`run_of_steps`), and the lemmas about printed texts only speak of its steps (`Step`).

Main statements: `lifts_fetch` and `run_of_steps`.
-/

namespace Converge.Yaml

namespace Lexer

variable {ts : List Token} {h l : Lexer}

/-- Whether a token that may turn out to be a key has not been let go. -/
def Held (l : Lexer) : Prop := ∀ k, some k ∈ l.blockKey :: l.flowKeys → l.released ≤ k.number

/-- The lexer as if some of the tokens that it let go were still there. -/
def recalled (ts : List Token) (l : Lexer) : Lexer :=
  { l with queue := ts ++ l.queue, released := l.released - ts.length }

/-- Whether a lexer is another one that has let go of some more tokens. -/
structure Lags (ts : List Token) (h l : Lexer) : Prop where
  same : h = l.recalled ts
  size : ts.length ≤ l.released
  held : l.Held

/-! ## 1. Parts of a step -/

theorem Lags.emit (hl : Lags ts h l) (t : Token) : Lags ts (h.emit t) (l.emit t) := by
  obtain ⟨rfl, size, held⟩ := hl
  exact ⟨by simp [Lexer.emit, recalled], size, held⟩

theorem Lags.place (hl : Lags ts h l) (p : Cursor) :
    Lags ts { h with place := p } { l with place := p } := by
  obtain ⟨rfl, size, held⟩ := hl
  exact ⟨rfl, size, held⟩

theorem Lags.keyAllowed (hl : Lags ts h l) (b : Bool) :
    Lags ts { h with keyAllowed := b } { l with keyAllowed := b } := by
  obtain ⟨rfl, size, held⟩ := hl
  exact ⟨rfl, size, held⟩

theorem Lags.finished (hl : Lags ts h l) :
    Lags ts { h with finished := true } { l with finished := true } := by
  obtain ⟨rfl, size, held⟩ := hl
  exact ⟨rfl, size, held⟩

theorem Lags.indent (hl : Lags ts h l) (column : Int) (outer : List Int) :
    Lags ts { h with indent := column, outer := outer }
      { l with indent := column, outer := outer } := by
  obtain ⟨rfl, size, held⟩ := hl
  exact ⟨rfl, size, held⟩

/-- Candidates are given up, and a new one is not among the tokens that were let go. -/
theorem Lags.candidates (hl : Lags ts h l) {block : Option KeyCandidate}
    {flow : List (Option KeyCandidate)}
    (held : ∀ k, some k ∈ block :: flow → some k ∈ l.blockKey :: l.flowKeys ∨
      l.released ≤ k.number) :
    Lags ts { h with blockKey := block, flowKeys := flow }
      { l with blockKey := block, flowKeys := flow } := by
  obtain ⟨rfl, size, held'⟩ := hl
  exact ⟨rfl, size, fun k hk => (held k hk).elim (held' k) id⟩

theorem Lags.flowKeys (hl : Lags ts h l) {flow : List (Option KeyCandidate)}
    (held : ∀ k, some k ∈ flow → some k ∈ l.flowKeys) :
    Lags ts { h with flowKeys := flow } { l with flowKeys := flow } := by
  obtain ⟨rfl, size, held'⟩ := hl
  refine ⟨rfl, size, fun k hk => ?_⟩
  rcases List.mem_cons.1 hk with hk | hk
  · exact held' k (hk ▸ List.mem_cons_self)
  · exact held' k (List.mem_cons_of_mem _ (held k hk))

theorem Lags.insert (hl : Lags ts h l) {number : Nat} (free : l.released ≤ number) (t : Token) :
    Lags ts (h.insert number t) (l.insert number t) := by
  obtain ⟨rfl, size, held⟩ := hl
  refine ⟨?_, size, held⟩
  have place : number - (l.released - ts.length) = ts.length + (number - l.released) := by omega
  simp [Lexer.insert, recalled, place, List.take_append, List.drop_append,
    List.take_of_length_le (Nat.le_add_right ts.length _),
    List.drop_of_length_le (Nat.le_add_right ts.length _)]

theorem Lags.setCandidate (hl : Lags ts h l) {k : Option KeyCandidate}
    (free : ∀ c ∈ k, l.released ≤ c.number) : Lags ts (h.setCandidate k) (l.setCandidate k) := by
  obtain ⟨rfl, size, held⟩ := hl
  unfold Lexer.setCandidate
  have same : (l.recalled ts).flowKeys = l.flowKeys := rfl
  rw [same]
  cases hf : l.flowKeys with
  | nil =>
    refine ⟨rfl, size, fun c hc => ?_⟩
    rcases List.mem_cons.1 hc with hc | hc
    · exact free c hc.symm
    · exact nomatch (hc : some c ∈ [])
  | cons innermost rest =>
    refine ⟨rfl, size, fun c hc => ?_⟩
    rcases List.mem_cons.1 hc with hc | hc
    · exact held c (hc ▸ List.mem_cons_self)
    · rcases List.mem_cons.1 hc with hc | hc
      · exact free c hc.symm
      · exact held c (List.mem_cons_of_mem _ (hf ▸ List.mem_cons_of_mem _ hc))

theorem Lags.place_eq (hl : Lags ts h l) : h.place = l.place := by rw [hl.same]; rfl
theorem Lags.indent_eq (hl : Lags ts h l) : h.indent = l.indent := by rw [hl.same]; rfl
theorem Lags.outer_eq (hl : Lags ts h l) : h.outer = l.outer := by rw [hl.same]; rfl
theorem Lags.keyAllowed_eq (hl : Lags ts h l) : h.keyAllowed = l.keyAllowed := by rw [hl.same]; rfl
theorem Lags.blockKey_eq (hl : Lags ts h l) : h.blockKey = l.blockKey := by rw [hl.same]; rfl
theorem Lags.flowKeys_eq (hl : Lags ts h l) : h.flowKeys = l.flowKeys := by rw [hl.same]; rfl
theorem Lags.inFlow_eq (hl : Lags ts h l) : h.inFlow = l.inFlow := by rw [hl.same]; rfl
theorem Lags.finished_eq (hl : Lags ts h l) : h.finished = l.finished := by rw [hl.same]; rfl
theorem Lags.candidate_eq (hl : Lags ts h l) : h.candidate = l.candidate := by rw [hl.same]; rfl

theorem Lags.candidate_held (hl : Lags ts h l) {k : KeyCandidate} (hk : l.candidate = some k) :
    l.released ≤ k.number := by
  refine hl.held k ?_
  unfold Lexer.candidate at hk
  split at hk
  next innermost rest hf => 
    rw [hf, hk]
    simp
  next => 
    rw [hk]
    simp

/-! ## 2. Steps that may fail -/

/-- Whether a step takes a lexer and one that has let go of more tokens to two that are so again,
or fails for both. -/
def Lifts (step : Lexer → Option Lexer) : Prop :=
  ∀ {ts : List Token} {h l : Lexer}, Lags ts h l → Option.Rel (Lags ts) (step h) (step l)

theorem rel_bind {r : α → β → Prop} {s : γ → δ → Prop} {a : Option α} {b : Option β}
    {f : α → Option γ} {g : β → Option δ} (h : Option.Rel r a b)
    (hf : ∀ x y, r x y → Option.Rel s (f x) (g y)) : Option.Rel s (a.bind f) (b.bind g) := by
  cases h with
  | none => exact .none
  | some h => exact hf _ _ h

theorem rel_ite {r : α → β → Prop} {c : Prop} [Decidable c] {a a' : Option α} {b b' : Option β}
    (h : Option.Rel r a b) (h' : Option.Rel r a' b') :
    Option.Rel r (if c then a else a') (if c then b else b') := by
  split
  · exact h
  · exact h'

/-- A step that takes a token at the present place. -/
theorem lifts_scan (scan : Cursor → Option α) (put : α → Lexer → Lexer)
    (hput : ∀ a {ts h l}, Lags ts h l → Lags ts (put a h) (put a l)) :
    Lifts fun l => (scan l.place).bind fun a => some (put a l) := by
  intro ts h l hl
  simp only [hl.place_eq]
  cases scan l.place with
  | none => exact .none
  | some a => exact .some (hput a hl)

theorem lifts_dropCandidate : Lifts dropCandidate := by
  intro ts h l hl
  unfold dropCandidate
  rw [hl.candidate_eq]
  split
  next k hk =>
    split
    · exact .none
    · exact .some (hl.setCandidate fun _ h => nomatch h)
  next => exact .some hl

theorem lifts_markCandidate : Lifts markCandidate := by
  intro ts h l hl
  unfold markCandidate
  rw [hl.keyAllowed_eq]
  split
  · refine rel_bind (lifts_dropCandidate hl) fun h l hl => .some ?_
    have number : h.released + h.queue.length = l.released + l.queue.length := by
      have := hl.size
      rw [hl.same]
      simp [recalled]
      omega
    rw [number, hl.place_eq, hl.inFlow_eq, hl.indent_eq]
    refine hl.setCandidate fun c hc => ?_
    obtain rfl := Option.some.inj hc
    exact Nat.le_add_right ..
  · exact .some hl

theorem fresh_mem {k k' : Option KeyCandidate} (h : l.fresh k = some k') {c : KeyCandidate}
    (hc : c ∈ k') : c ∈ k := by
  unfold fresh at h
  split at h
  · obtain rfl := Option.some.inj h
    exact hc
  · split at h
    · split at h
      · nomatch h
      · obtain rfl := Option.some.inj h
        nomatch hc
    · obtain rfl := Option.some.inj h
      exact hc

theorem mapM_fresh_mem {c : KeyCandidate} : ∀ {ks ks' : List (Option KeyCandidate)},
    ks.mapM l.fresh = some ks' → some c ∈ ks' → some c ∈ ks
  | [], ks', h, hc => by
    obtain rfl := Option.some.inj h
    exact hc
  | k :: ks, ks', h, hc => by
    simp only [List.mapM_cons, Option.bind_eq_bind, Option.bind_eq_some_iff, Option.pure_def,
      Option.some.injEq] at h
    obtain ⟨k', hk, others, hks, rfl⟩ := h
    rcases List.mem_cons.1 hc with hc | hc
    · have := fresh_mem hk hc.symm
      exact this ▸ List.mem_cons_self
    · exact List.mem_cons_of_mem _ (mapM_fresh_mem hks hc)

theorem lifts_dropStale : Lifts dropStale := by
  intro ts h l hl
  have fresh : h.fresh = l.fresh := by rw [hl.same]; rfl
  unfold dropStale
  rw [fresh, hl.blockKey_eq, hl.flowKeys_eq]
  cases hb : l.fresh l.blockKey with
  | none => exact .none
  | some block =>
    cases hf : l.flowKeys.mapM l.fresh with
    | none => exact .none
    | some flow =>
      refine .some (hl.candidates fun k hk => .inl ?_)
      rcases List.mem_cons.1 hk with hk | hk
      · exact (fresh_mem hb hk.symm) ▸ List.mem_cons_self
      · exact List.mem_cons_of_mem _ (mapM_fresh_mem hf hk)

/-! ## 3. Indentation -/

theorem Lags.openAt (hl : Lags ts h l) (column : Nat) (t : Token) (number : Option Nat)
    (free : ∀ n ∈ number, l.released ≤ n) :
    Lags ts (h.openAt column t number) (l.openAt column t number) := by
  unfold Lexer.openAt
  rw [hl.inFlow_eq, hl.indent_eq, hl.outer_eq]
  split
  · have moved := hl.indent column (l.indent :: l.outer)
    cases number with
    | none => exact moved.emit t
    | some n => exact moved.insert (free n rfl) t
  · exact hl

theorem Lags.closeTo (column : Int) : ∀ (outer : List Int) {h l : Lexer}, Lags ts h l →
    Lags ts (closeTo column outer h) (closeTo column outer l)
  | [], _, _, hl => hl
  | out :: rest, h, l, hl => by
    unfold Lexer.closeTo
    rw [hl.indent_eq]
    split
    · exact Lags.closeTo column rest ((hl.emit .blockEnd).indent out rest)
    · exact hl

theorem Lags.dedent (hl : Lags ts h l) (column : Int) :
    Lags ts (h.dedent column) (l.dedent column) := by
  unfold Lexer.dedent
  rw [hl.inFlow_eq, hl.outer_eq]
  split
  · exact hl
  · exact Lags.closeTo column l.outer hl

theorem Lags.toNextToken : ∀ (fuel : Nat) {h l : Lexer}, Lags ts h l →
    Lags ts (toNextToken fuel h) (toNextToken fuel l)
  | 0, _, _, hl => hl
  | fuel + 1, h, l, hl => by
    unfold Lexer.toNextToken
    rw [hl.place_eq, hl.inFlow_eq, hl.keyAllowed_eq]
    dsimp only
    split
    · exact Lags.toNextToken fuel ((hl.place _).keyAllowed _)
    · exact (hl.place _).keyAllowed l.keyAllowed

/-! ## 4. Whole steps -/

theorem lifts_atEnd : Lifts atEnd := by
  intro ts h l hl
  unfold atEnd
  rw [hl.place_eq]
  dsimp only
  refine rel_bind (lifts_dropCandidate (Lags.dedent ?_ (-1))) fun h l hl =>
    .some ((hl.emit .streamEnd).keyAllowed false).finished
  split
  · exact hl
  · exact hl.place _

theorem lifts_atTop (scan : Cursor → Option (Token × Cursor)) : Lifts (atTop · scan) := by
  intro ts h l hl
  refine rel_bind (lifts_dropCandidate (hl.dedent (-1))) ?_
  exact fun h l => lifts_scan scan
    (fun a l => { l.emit a.1 with keyAllowed := false, place := a.2 })
    fun a _ _ _ hl => ((hl.emit a.1).keyAllowed false).place a.2

theorem lifts_item (scan : Cursor → Option (Token × Cursor)) : Lifts (item · scan) := by
  intro ts h l hl
  refine rel_bind (lifts_markCandidate hl) ?_
  exact fun h l => lifts_scan scan
    (fun a l => { l.emit a.1 with keyAllowed := false, place := a.2 })
    fun a _ _ _ hl => ((hl.emit a.1).keyAllowed false).place a.2

theorem lifts_openFlow (t : Token) : Lifts (openFlow · t) := by
  intro ts h l hl
  refine rel_bind (lifts_markCandidate hl) fun h l hl => .some ?_
  rw [hl.place_eq, hl.flowKeys_eq]
  refine (((hl.emit t).flowKeys fun k hk => ?_).keyAllowed true).place l.place.skip
  exact (List.mem_cons.1 hk).resolve_left nofun

theorem lifts_closeFlow (t : Token) : Lifts (closeFlow · t) := by
  intro ts h l hl
  refine rel_bind (lifts_dropCandidate hl) fun h l hl => .some ?_
  rw [hl.place_eq, hl.flowKeys_eq]
  exact (((hl.emit t).flowKeys fun k hk => List.mem_of_mem_tail hk).keyAllowed false).place
    l.place.skip

theorem lifts_flowEntry : Lifts flowEntry := by
  intro ts h l hl
  refine rel_bind (lifts_dropCandidate hl) fun h l hl => .some ?_
  rw [hl.place_eq]
  exact ((hl.emit .flowEntry).keyAllowed true).place l.place.skip

theorem lifts_blockEntry : Lifts blockEntry := by
  intro ts h l hl
  unfold blockEntry
  rw [hl.inFlow_eq, hl.keyAllowed_eq, hl.place_eq]
  split
  · exact .none
  · refine rel_bind (lifts_dropCandidate (hl.openAt _ _ _ nofun)) fun h l hl => .some ?_
    rw [hl.place_eq]
    exact ((hl.emit .blockEntry).keyAllowed true).place l.place.skip

theorem lifts_key : Lifts key := by
  intro ts h l hl
  unfold key
  rw [hl.inFlow_eq, hl.keyAllowed_eq, hl.place_eq]
  split
  · exact .none
  · refine rel_bind (lifts_dropCandidate (hl.openAt _ _ _ nofun)) fun h l hl => .some ?_
    rw [hl.place_eq, hl.inFlow_eq]
    exact ((hl.emit .key).keyAllowed (!l.inFlow)).place l.place.skip

theorem lifts_value : Lifts value := by
  intro ts h l hl
  unfold value
  rw [hl.candidate_eq]
  split
  next k hk =>
    have free := hl.candidate_held hk
    have opened := (hl.insert free .key).openAt k.place.column .blockMappingStart
      (some k.number) fun n hn => Option.some.inj hn ▸ free
    have dropped := opened.setCandidate (k := none) nofun
    refine .some ?_
    dsimp only
    rw [dropped.place_eq]
    exact ((dropped.emit .value).keyAllowed false).place _
  next =>
    rw [hl.inFlow_eq, hl.keyAllowed_eq, hl.place_eq]
    split
    · exact .none
    · have opened := hl.openAt l.place.column .blockMappingStart none nofun
      have moved := ((opened.emit .value).keyAllowed
        (!(l.openAt l.place.column .blockMappingStart none).inFlow)).place
        (l.openAt l.place.column .blockMappingStart none).place.skip
      refine .some ?_
      dsimp only
      rw [opened.place_eq, opened.inFlow_eq]
      exact moved

theorem lifts_block (literal : Bool) : Lifts (block · literal) := by
  intro ts h l hl
  refine rel_bind (lifts_dropCandidate hl) fun h l hl => ?_
  rw [hl.place_eq, hl.indent_eq]
  refine rel_bind (r := Eq) (by cases blockScalar literal l.indent l.place <;> constructor; rfl) ?_
  rintro ⟨text, p⟩ _ rfl
  exact .some (((hl.emit _).keyAllowed true).place p)

theorem lifts_plain : Lifts plain := by
  intro ts h l hl
  refine rel_bind (lifts_markCandidate hl) fun h l hl => ?_
  rw [hl.place_eq, hl.indent_eq, hl.inFlow_eq]
  refine rel_bind (r := Eq)
    (by cases plainScalar l.inFlow (l.indent + 1).toNat l.place <;> constructor; rfl) ?_
  rintro ⟨text, p, broken⟩ _ rfl
  exact .some (((hl.emit _).keyAllowed broken).place p)

theorem lifts_next : Lifts next := by
  intro ts h l hl
  have starts : h.startsPlain = l.startsPlain := by rw [hl.same]; rfl
  unfold next
  rw [hl.place_eq, hl.inFlow_eq, starts]
  split
  · exact lifts_atEnd hl
  · exact
      rel_ite (lifts_atTop _ hl) <| rel_ite (lifts_atTop _ hl) <| rel_ite (lifts_atTop _ hl) <|
      rel_ite (lifts_openFlow _ hl) <| rel_ite (lifts_openFlow _ hl) <|
      rel_ite (lifts_closeFlow _ hl) <| rel_ite (lifts_closeFlow _ hl) <|
      rel_ite (lifts_flowEntry hl) <| rel_ite (lifts_blockEntry hl) <| rel_ite (lifts_key hl) <|
      rel_ite (lifts_value hl) <| rel_ite (lifts_item _ hl) <| rel_ite (lifts_item _ hl) <|
      rel_ite (lifts_item _ hl) <| rel_ite (lifts_block _ hl) <| rel_ite (lifts_block _ hl) <|
      rel_ite (lifts_item _ hl) <| rel_ite (lifts_item _ hl) <| rel_ite (lifts_plain hl) .none

/-- The next token is found and taken in the same way, however many were let go. -/
theorem lifts_fetch : Lifts fetch := by
  intro ts h l hl
  unfold fetch
  rw [hl.place_eq]
  refine rel_bind (lifts_dropStale (hl.toNextToken _)) fun h l hl => ?_
  rw [hl.place_eq]
  exact lifts_next (hl.dedent _)

/-! ## 5. Runs -/

theorem release_eq : ∀ (q : List Token) {l : Lexer}, l.Held →
    q = (release q l).1 ++ (release q l).2.queue ∧
      (release q l).2 = { l with queue := (release q l).2.queue,
                                 released := l.released + (release q l).1.length } ∧
      (release q l).2.Held
  | [], l, held => ⟨rfl, rfl, held⟩
  | t :: rest, l, held => by
    unfold release
    split
    · exact ⟨rfl, rfl, held⟩
    next free =>
      have held' : Held { l with released := l.released + 1 } := by
        intro k hk
        refine Nat.lt_of_le_of_ne (held k hk) fun e => free ?_
        exact List.any_eq_true.2 ⟨some k, hk, by simp [e]⟩
      obtain ⟨parts, same, still⟩ := release_eq rest held'
      refine ⟨congrArg (t :: ·) parts, same.trans ?_, still⟩
      simp [Nat.add_assoc, Nat.add_comm 1]

theorem Lags.release (hl : Lags ts h l) :
    Lags (ts ++ (release l.queue l).1) h (release l.queue l).2 := by
  obtain ⟨parts, same, held⟩ := release_eq l.queue hl.held
  have size := hl.size
  refine ⟨?_, ?_, held⟩
  · rw [hl.same, same]
    simp only [recalled, List.length_append, List.append_assoc, ← parts]
    congr 1
    omega
  · rw [same, List.length_append]
    exact Nat.add_le_add_right size _

/-- What a lexer does until it has taken the next token. -/
def advance (l : Lexer) : Option Lexer := l.dropStale.bind fetch

theorem finished_of_dropStale {l' : Lexer} (h : l.dropStale = some l') :
    l'.finished = l.finished := by
  unfold dropStale at h
  simp only [Option.bind_eq_bind, Option.bind_eq_some_iff, Option.some.injEq] at h
  obtain ⟨block, -, flow, -, rfl⟩ := h
  rfl

theorem exists_of_rel {r : α → β → Prop} {a : α} {o : Option β} (h : Option.Rel r (some a) o) :
    ∃ b, o = some b ∧ r a b := by
  cases h with
  | some h => exact ⟨_, rfl, h⟩

/-- A step of a run: some tokens are let go, and the next one is taken. -/
theorem run_step {h' : Lexer} (hl : Lags ts h l) (step : h.advance = some h')
    (going : h.finished = false) : ∃ us l', Lags (ts ++ us) h' l' ∧
      ∀ fuel, run true (fuel + 1) l = us ++ run true fuel l' := by
  obtain ⟨h₁, dropped, fetched⟩ := Option.bind_eq_some_iff.1 step
  have rel := lifts_dropStale hl
  rw [dropped] at rel
  obtain ⟨l₁, dropped', hl₁⟩ := exists_of_rel rel
  have rel := lifts_fetch hl₁.release
  rw [fetched] at rel
  obtain ⟨l₂, fetched', hl₂⟩ := exists_of_rel rel
  have going' : (release l₁.queue l₁).2.finished = false := by
    rw [← hl₁.release.finished_eq, finished_of_dropStale dropped, going]
  refine ⟨_, l₂, hl₂, fun fuel => ?_⟩
  simp [run, dropped', going', fetched']

theorem release_all : ∀ (q : List Token) {l : Lexer}, l.blockKey = none → l.flowKeys = [] →
    (release q l).1 = q
  | [], _, _, _ => rfl
  | t :: rest, l, block, flow => by
    have free : l.holds l.released = false := by simp [holds, block, flow]
    rw [release, if_neg (by simp [free])]
    exact congrArg (t :: ·) (release_all rest block flow)

theorem dropStale_of_none (block : l.blockKey = none) (flow : l.flowKeys = []) :
    l.dropStale = some l := by
  cases l
  subst block flow
  rfl

/-- A step of a lexer that lets nothing go, past some characters. -/
structure Step (l l' : Lexer) : Prop where
  step : l.advance = some l'
  going : l.finished = false
  past : l'.place.rest.length < l.place.rest.length

/-- Some steps of a lexer that lets nothing go. -/
abbrev Steps : Lexer → Lexer → Prop := Relation.ReflTransGen Step

/-- **Holding tokens back does not change them**: a run gives the tokens that a lexer that lets
nothing go comes to. -/
theorem run_of_steps {h₁ h₂ : Lexer} (steps : Steps h h₁) (last : h₁.advance = some h₂)
    (going : h₁.finished = false) (finished : h₂.finished) (block : h₂.blockKey = none)
    (flow : h₂.flowKeys = []) {fuel : Nat} (hl : Lags ts h l)
    (enough : h.place.rest.length + 2 ≤ fuel) : h₂.queue = ts ++ run true fuel l := by
  induction steps using Relation.ReflTransGen.head_induction_on generalizing ts l fuel with
  | refl =>
    obtain ⟨us, l', hl', run⟩ := run_step hl last going
    obtain ⟨fuel, rfl⟩ : ∃ f, fuel = f + 2 := ⟨fuel - 2, by omega⟩
    have block' : l'.blockKey = none := hl'.blockKey_eq ▸ block
    have flow' : l'.flowKeys = [] := hl'.flowKeys_eq ▸ flow
    have dropped := dropStale_of_none block' flow'
    have all := release_all l'.queue block' flow'
    have finished' : (release l'.queue l').2.finished := by
      rw [← hl'.release.finished_eq, finished]
    have whole : h₂.queue = ts ++ us ++ l'.queue := congrArg queue hl'.same
    rw [run, whole, List.append_assoc]
    simp [Lexer.run, dropped, all, finished']
  | head step _ ih =>
    obtain ⟨us, l', hl', run⟩ := run_step hl step.step step.going
    obtain ⟨fuel, rfl⟩ : ∃ f, fuel = f + 1 := ⟨fuel - 1, by omega⟩
    have := step.past
    rw [run, ← List.append_assoc]
    exact ih hl' (by omega)

end Lexer

end Converge.Yaml
