import Converge.Proofs.Ledger.Store
import Mathlib.Data.List.Induction
/-!
# A ledger has one form

What a ledger says is what it answers for each `LedgerSlot`: the version of an application's
registry password, or that of one of its secret variables.  The two kinds of slots of one
application share an entry, which is made when the first of them is written and taken out when the
last of them is cleared.  So a ledger that came about by writing slots, in whatever order, is told
apart from others by its answers alone, and so is its file.

`SecretLedger.Canonical` is what a single write keeps; by induction every sequence of writes has it.

Main statements: `SecretLedger.ext_get?` and `ledger_canonical`.
-/

namespace Converge

/-- A version that a ledger can hold. -/
inductive LedgerSlot where
  | password (app : String)
  | env (app key : String)
  deriving DecidableEq, Repr

namespace SecretLedger

/-- What is recorded in a slot. -/
def get? (l : SecretLedger) : LedgerSlot → Option Int64
  | .password app => l.password? app
  | .env app key => l.env? app key

/-- Records a version in a slot or clears it, and says whether that changed anything. -/
def set (l : SecretLedger) : LedgerSlot → Option Int64 → SecretLedger × Bool
  | .password app, version => l.setPassword app version
  | .env app key, version => l.setEnv app key version

/-- The ledger that some writes make of the empty one. -/
def ofWrites (writes : List (LedgerSlot × Option Int64)) : SecretLedger :=
  writes.foldl (fun l w => (l.set w.1 w.2).1) .empty

/-- The version that was written to a slot last; a slot that was cleared or never written has
none. -/
def lastWritten (writes : List (LedgerSlot × Option Int64)) (slot : LedgerSlot) : Option Int64 :=
  (writes.reverse.find? (·.1 = slot)).bind (·.2)

/-! ## 1. One write -/

variable {l m : SecretLedger}

/-- A write is seen in its own slot, and in no other. -/
theorem get?_set (l : SecretLedger) (slot slot' : LedgerSlot) (version : Option Int64) :
    (l.set slot version).1.get? slot' = if slot' = slot then version else l.get? slot' := by
  cases slot with
  | password app =>
    cases slot' with
    | password a => simpa [get?, set] using l.password?_setPassword app version a
    | env a k => simpa [get?, set] using l.env?_setPassword app version a k
  | env app key =>
    cases slot' with
    | password a => simpa [get?, set] using l.password?_setEnv app key version a
    | env a k => simpa [get?, set] using l.env?_setEnv app key version a k

/-- A write is put for one application, unless the slot has that version already. -/
theorem set_cases (l : SecretLedger) (slot : LedgerSlot) (version : Option Int64) :
    (l.get? slot = version ∧ l.set slot version = (l, false)) ∨
    (l.get? slot ≠ version ∧ ∃ app e, l.set slot version = (l.put app e, true)) := by
  cases slot with
  | password app =>
    by_cases h : l.password? app = version
    · exact .inl ⟨h, if_pos h⟩
    · exact .inr ⟨h, _, _, if_neg h⟩
  | env app key =>
    by_cases h : l.env? app key = version
    · exact .inl ⟨h, if_pos h⟩
    · exact .inr ⟨h, _, _, if_neg h⟩

/-- **A write says that it has changed the ledger exactly when it has.** -/
theorem set_changed_iff (l : SecretLedger) (slot : LedgerSlot) (version : Option Int64) :
    (l.set slot version).2 = true ↔ (l.set slot version).1 ≠ l := by
  rcases l.set_cases slot version with ⟨-, h⟩ | ⟨other, app, e, h⟩
  · simp [h]
  · have written := l.get?_set slot slot version
    rw [if_pos rfl] at written
    refine iff_of_true (by rw [h]) fun same => other ?_
    rwa [same] at written

/-! ## 2. The form of a ledger -/

/-- Whether a ledger is of the current version and has no entry that records nothing. -/
structure Canonical (l : SecretLedger) : Prop where
  current : l.version = currentVersion
  pruned : ∀ app e, l.applications.get? app = some e → e.isEmpty = false

theorem canonical_empty : Canonical empty := ⟨rfl, fun _ _ h => nomatch h⟩

theorem Canonical.put (h : l.Canonical) (app : String) (e : LedgerEntry) :
    (l.put app e).Canonical := by
  refine ⟨h.current, fun a e' he => ?_⟩
  by_cases ha : a = app
  · subst ha
    unfold SecretLedger.put at he
    cases hempty : e.isEmpty with
    | true => simp [hempty] at he
    | false =>
      obtain rfl : e = e' := by simpa [hempty] using he
      exact hempty
  · rw [get?_put_of_ne l app e ha] at he
    exact h.pruned a e' he

theorem Canonical.set (h : l.Canonical) (slot : LedgerSlot) (version : Option Int64) :
    (l.set slot version).1.Canonical := by
  rcases l.set_cases slot version with ⟨-, hs⟩ | ⟨-, app, e, hs⟩
  · rwa [hs]
  · rw [hs]
    exact h.put app e

/-- An application has an entry exactly when something is recorded for it. -/
theorem Canonical.get?_applications (h : l.Canonical) (app : String) :
    l.applications.get? app = if (l.entry app).isEmpty then none else some (l.entry app) := by
  unfold entry
  cases he : l.applications.get? app with
  | none => rfl
  | some e => simp [h.pruned app e he]

/-- **Ledgers that answer alike are equal.** -/
theorem ext_get? (hl : l.Canonical) (hm : m.Canonical) (h : ∀ slot, l.get? slot = m.get? slot) :
    l = m := by
  have entries : ∀ app, l.entry app = m.entry app := by
    intro app
    have password : (l.entry app).passwordVersion = (m.entry app).passwordVersion := by
      rw [passwordVersion_entry, passwordVersion_entry]
      exact h (.password app)
    have env : (l.entry app).envVersions = (m.entry app).envVersions := by
      refine SortedMap.ext_get? fun key => ?_
      rw [get?_entry, get?_entry]
      exact h (.env app key)
    calc l.entry app = ⟨(l.entry app).passwordVersion, (l.entry app).envVersions⟩ := rfl
      _ = m.entry app := by rw [password, env]
  have applications : l.applications = m.applications := by
    refine SortedMap.ext_get? fun app => ?_
    rw [hl.get?_applications, hm.get?_applications, entries]
  calc l = ⟨l.version, l.applications⟩ := rfl
    _ = m := by rw [hl.current, applications, ← hm.current]

/-- Nothing is recorded in a ledger that has no entries, and in no other. -/
theorem Canonical.isEmpty_iff (h : l.Canonical) :
    l.isEmpty = true ↔ l.applications = .empty := by
  constructor
  · intro hempty
    refine SortedMap.ext_get? fun app => ?_
    cases he : l.applications.get? app with
    | none => rfl
    | some e =>
      have blank := List.all_eq_true.1 hempty _ (SortedMap.mem_entries_iff.2 he)
      exact absurd ((h.pruned app e he).symm.trans blank) Bool.false_ne_true
  · intro hempty
    rw [isEmpty, hempty]
    rfl

/-- The files of ledgers of the current version are equal only where the ledgers are. -/
theorem Canonical.eq_of_textOf (hl : l.Canonical) (hm : m.Canonical)
    (h : LedgerFile.textOf l = LedgerFile.textOf m) : l = m := by
  have read := LedgerFile.parse_textOf default hl.current
  rw [h, LedgerFile.parse_textOf default hm.current] at read
  exact (Except.ok.inj read).symm

/-! ## 3. Many writes -/

variable (writes : List (LedgerSlot × Option Int64))

theorem ofWrites_append (w : LedgerSlot × Option Int64) :
    ofWrites (writes ++ [w]) = ((ofWrites writes).set w.1 w.2).1 := by
  rw [ofWrites, List.foldl_append]
  rfl

theorem canonical_ofWrites : (ofWrites writes).Canonical := by
  induction writes using List.reverseRecOn with
  | nil => exact canonical_empty
  | append_singleton writes w ih =>
    rw [ofWrites_append]
    exact ih.set w.1 w.2

/-- Each slot has what was written to it last. -/
theorem get?_ofWrites (slot : LedgerSlot) :
    (ofWrites writes).get? slot = lastWritten writes slot := by
  induction writes using List.reverseRecOn with
  | nil => cases slot <;> rfl
  | append_singleton writes w ih =>
    rw [ofWrites_append, get?_set, ih, lastWritten, lastWritten, List.reverse_concat]
    by_cases h : slot = w.1
    · simp [h]
    · simp [h, Ne.symm h]

end SecretLedger

open SecretLedger in
/-- **A ledger is a map with one form.**  After any writes to the empty ledger no application has an
entry that records nothing; each slot has what was written to it last; another sequence of writes
leaves the same ledger, and the same file, exactly when it leaves the same in every slot; a write
says that it changes the ledger exactly when it does; and the ledger records nothing exactly when
it has no entries. -/
theorem ledger_canonical (writes : List (LedgerSlot × Option Int64)) :
    (∀ app e, (ofWrites writes).applications.get? app = some e → e.isEmpty = false) ∧
    (∀ slot, (ofWrites writes).get? slot = lastWritten writes slot) ∧
    (∀ others, ((∀ slot, (ofWrites writes).get? slot = (ofWrites others).get? slot) ↔
        ofWrites writes = ofWrites others) ∧
      (ofWrites writes = ofWrites others ↔
        LedgerFile.textOf (ofWrites writes) = LedgerFile.textOf (ofWrites others))) ∧
    (∀ slot version, ((ofWrites writes).set slot version).2 = true ↔
      ((ofWrites writes).set slot version).1 ≠ ofWrites writes) ∧
    ((ofWrites writes).isEmpty = true ↔ (ofWrites writes).applications = .empty) := by
  have canonical := canonical_ofWrites writes
  refine ⟨canonical.pruned, get?_ofWrites writes, fun others => ⟨?_, ?_⟩,
    set_changed_iff _, canonical.isEmpty_iff⟩
  · exact ⟨ext_get? canonical (canonical_ofWrites others), fun same _ => by rw [same]⟩
  · exact ⟨fun same => by rw [same], canonical.eq_of_textOf (canonical_ofWrites others)⟩

/-- Clearing an application's last slot takes out its entry; clearing an unknown one makes none. -/
example : SecretLedger.ofWrites [(.env "web" "KEY", some 3), (.password "web", some 1),
    (.env "web" "KEY", none), (.password "web", none), (.env "ghost" "K", none)] = .empty := by
  decide

end Converge
