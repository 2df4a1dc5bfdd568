import Converge.Plan.Diff
import Converge.Proofs.Data.Difference
/-!
# Environments are compared key by key

An environment is a list of variables with keys.  The comparison of a desired environment with a
live one, and that of the environments of two versions, are outer joins over the keys, which differ
only in when two variables under one key count as different: a desired secret goes by the ledger,
and a secret of two versions is never compared.  Each has one line for every key that differs and
none for any other, what is added or has changed in the order of the new side and then what is gone
in the order of the old one.

Main statements: `Diff.env_eq_map_line`, `Diff.versionEnv_eq_map_line` and
`environments_compared_exactly`.
-/

namespace Converge

/-! ## 1. When variables differ -/

/-- Whether a live variable is not what is desired under its key: a secret when it has a version
that is not the one in the ledger, and a plain variable when the live one is a secret or has another
value. -/
def EnvVar.DiffersFrom (ledger : SecretLedger) (app : String) (old : EnvVar) (new : EnvEntry) :
    Prop :=
  (new.secret ∧ new.secretVersion.isSome ∧ ledger.env? app new.key ≠ new.secretVersion) ∨
  (new.secret = false ∧ (old.secret ∨ old.value ≠ new.value))

instance (ledger : SecretLedger) (app : String) (old : EnvVar) (new : EnvEntry) :
    Decidable (old.DiffersFrom ledger app new) := inferInstanceAs (Decidable (_ ∨ _))

/-- Whether a variable of one version can be seen to differ from one of another: both are plain and
have different values. -/
def EnvVar.PlainlyDiffers (old new : EnvVar) : Prop :=
  old.secret = false ∧ new.secret = false ∧ old.value ≠ new.value

instance (old new : EnvVar) : Decidable (old.PlainlyDiffers new) :=
  inferInstanceAs (Decidable (_ ∧ _))

theorem EnvVar.plainlyDiffers_comm (old new : EnvVar) :
    new.PlainlyDiffers old ↔ old.PlainlyDiffers new := by
  unfold PlainlyDiffers
  rw [ne_comm, and_left_comm]

/-! ## 2. The lines about them -/

namespace Diff

/-- The line about a secret whose version in the ledger, if there is one, is not the desired one. -/
def rotationLine (key : String) (stored : Option Int64) (version : Int64) : String :=
  match stored with
  | none => "Env update: " ++ key ++ " (secret, version: new -> " ++ toString version ++ ")"
  | some stored =>
    "Env update: " ++ key ++ " (secret, version: " ++ toString stored ++ " -> "
      ++ toString version ++ ")"

@[simp] theorem rotationLine_none (key : String) (version : Int64) :
    rotationLine key none version =
      "Env update: " ++ key ++ " (secret, version: new -> " ++ toString version ++ ")" := rfl

@[simp] theorem rotationLine_some (key : String) (stored version : Int64) :
    rotationLine key (some stored) version = "Env update: " ++ key ++ " (secret, version: "
      ++ toString stored ++ " -> " ++ toString version ++ ")" := rfl

/-- The line about a difference between a live environment and a desired one. -/
def envLine (ledger : SecretLedger) (app : String) : KeyedDifference EnvVar EnvEntry → String
  | .added new => envAdd new
  | .updated old new =>
    if new.secret then rotationLine new.key (ledger.env? app new.key) (new.secretVersion.getD 0)
    else if old.secret then "Env update: " ++ new.key ++ "=(secret) -> " ++ new.value.getD ""
    else envUpdate new.key (old.value.getD "") (new.value.getD "")
  | .removed old => envRemove old

/-- The line about a difference between the environments of two versions. -/
def versionEnvLine : KeyedDifference EnvVar EnvVar → String
  | .added new =>
    if new.secret then "Env add: " ++ new.key ++ " (secret)"
    else "Env add: " ++ new.key ++ "=" ++ new.value.getD ""
  | .updated old new => envUpdate new.key (old.value.getD "") (new.value.getD "")
  | .removed old => envRemove old

/-- The differences between a live environment and a desired one. -/
def envDifferences (app : String) (live : List EnvVar) (desired : List EnvEntry)
    (ledger : SecretLedger) : List (KeyedDifference EnvVar EnvEntry) :=
  keyedDifferences EnvVar.key EnvEntry.key (EnvVar.DiffersFrom ledger app) live desired

/-- The differences between the environments of two versions. -/
def versionEnvDifferences (before after : List EnvVar) : List (KeyedDifference EnvVar EnvVar) :=
  keyedDifferences EnvVar.key EnvVar.key EnvVar.PlainlyDiffers before after

/-- The lines for a secret are the one about its version, if that is not the one in the ledger. -/
theorem secretChange_eq (ledger : SecretLedger) (app : String) (e : EnvEntry) :
    secretChange ledger app e =
      if e.secretVersion.isSome ∧ ledger.env? app e.key ≠ e.secretVersion then
        [rotationLine e.key (ledger.env? app e.key) (e.secretVersion.getD 0)]
      else [] := by
  unfold secretChange
  cases e.secretVersion with
  | none => rfl
  | some version =>
    cases hl : ledger.env? app e.key with
    | none => simp
    | some stored => by_cases h : stored = version <;> simp [h]

/-- The lines for a desired variable are the one about the difference that is found at it. -/
theorem envChange_eq (ledger : SecretLedger) (app : String) (live : List EnvVar) (e : EnvEntry) :
    envChange ledger app live e =
      ((newDifference EnvVar.key EnvEntry.key (EnvVar.DiffersFrom ledger app) live e).map
        (envLine ledger app)).toList := by
  unfold envChange newDifference lastWithKey
  cases live.reverse.find? (·.key = e.key) with
  | none => rfl
  | some current =>
    dsimp only
    cases hs : e.secret with
    | true =>
      rw [if_pos rfl, secretChange_eq]
      by_cases hv : e.secretVersion.isSome ∧ ledger.env? app e.key ≠ e.secretVersion
      · have differ : current.DiffersFrom ledger app e := .inl ⟨hs, hv⟩
        rw [if_pos hv, if_pos differ]
        simp [envLine, hs]
      · have same : ¬ current.DiffersFrom ledger app e := by
          rintro (⟨-, h⟩ | ⟨h, -⟩)
          · exact hv h
          · nomatch hs.symm.trans h
        rw [if_neg hv, if_neg same]
        rfl
    | false =>
      have plain : current.DiffersFrom ledger app e ↔ current.secret ∨ current.value ≠ e.value := by
        simp [EnvVar.DiffersFrom, hs]
      rw [if_congr plain rfl rfl]
      by_cases hc : current.secret <;> by_cases hv : current.value = e.value <;>
        simp [envLine, hs, hc, hv]

/-- The lines for a variable of a later version are the one about the difference that is found at
it. -/
theorem versionEnvChange_eq (before : List EnvVar) (e : EnvVar) :
    versionEnvChange before e =
      ((newDifference EnvVar.key EnvVar.key EnvVar.PlainlyDiffers before e).map
        versionEnvLine).toList := by
  unfold versionEnvChange newDifference lastWithKey
  cases before.reverse.find? (·.key = e.key) with
  | none => cases hs : e.secret <;> simp [versionEnvLine, hs]
  | some old =>
    cases ho : old.secret <;> cases hn : e.secret <;> by_cases hv : old.value = e.value <;>
      simp [EnvVar.PlainlyDiffers, versionEnvLine, ho, hn, hv]

/-- The lines for an environment are those about its differences, whatever the keys. -/
theorem env_eq_map_line (app : String) (live : List EnvVar) (desired : List EnvEntry)
    (ledger : SecretLedger) : env app live desired ledger =
      (envDifferences app live desired ledger).map (envLine ledger app) :=
  lines_of_differences (fun e _ => envChange_eq ledger app live e) fun _ => rfl

/-- The lines for the environments of two versions are those about their differences. -/
theorem versionEnv_eq_map_line (before after : List EnvVar) : versionEnv before after =
    (versionEnvDifferences before after).map versionEnvLine :=
  lines_of_differences (fun e _ => versionEnvChange_eq before e) fun _ => rfl

end Diff

/-! ## 3. One line for each key that differs -/

section

variable {live before after : List EnvVar} {desired : List EnvEntry}

theorem Diff.reported_env (app : String) (ledger : SecretLedger)
    (live_distinct : (live.map (·.key)).Nodup) (desired_distinct : (desired.map (·.key)).Nodup) :
    Reported EnvVar.key EnvEntry.key (EnvVar.DiffersFrom ledger app) live desired
      (Diff.envDifferences app live desired ledger) :=
  reported_keyedDifferences live_distinct desired_distinct

theorem Diff.reported_versionEnv (before_distinct : (before.map (·.key)).Nodup)
    (after_distinct : (after.map (·.key)).Nodup) :
    Reported EnvVar.key EnvVar.key EnvVar.PlainlyDiffers before after
      (Diff.versionEnvDifferences before after) :=
  reported_keyedDifferences before_distinct after_distinct

/-- An environment does not differ from itself under any key. -/
theorem not_keyDiffers_self (distinct : (live.map (·.key)).Nodup) (k : String) :
    ¬ KeyDiffers EnvVar.key EnvVar.key EnvVar.PlainlyDiffers live live k := by
  rintro (⟨h, h'⟩ | ⟨h, h'⟩ | ⟨old, ho, new, hn, rfl, same, -, -, differ⟩)
  · exact h' h
  · exact h' h
  · rw [List.inj_on_of_nodup_map distinct hn ho same] at differ
    exact differ rfl

end

/-- **Environments are compared exactly.**  Where no key is listed twice on either side, the
comparison of a live environment with a desired one has one line for each key that differs, and so
has that of two versions.  The comparison of two versions the other way round is about the same
keys, with additions and removals exchanged, and that of a version with itself finds nothing. -/
theorem environments_compared_exactly :
    (∀ (app : String) (ledger : SecretLedger) (live : List EnvVar) (desired : List EnvEntry),
      (live.map (·.key)).Nodup → (desired.map (·.key)).Nodup →
      ∃ ds,
        Reported EnvVar.key EnvEntry.key (EnvVar.DiffersFrom ledger app) live desired ds ∧
        (∀ k, k ∈ ds.map (·.key EnvVar.key EnvEntry.key) ↔
          KeyDiffers EnvVar.key EnvEntry.key (EnvVar.DiffersFrom ledger app) live desired k) ∧
        Diff.env app live desired ledger = ds.map (Diff.envLine ledger app)) ∧
    (∀ before after : List EnvVar, (before.map (·.key)).Nodup → (after.map (·.key)).Nodup →
      ∃ ds turned,
        Reported EnvVar.key EnvVar.key EnvVar.PlainlyDiffers before after ds ∧
        Reported EnvVar.key EnvVar.key EnvVar.PlainlyDiffers after before turned ∧
        (∀ k, k ∈ ds.map (·.key EnvVar.key EnvVar.key) ↔
          KeyDiffers EnvVar.key EnvVar.key EnvVar.PlainlyDiffers before after k) ∧
        (∀ k, k ∈ turned.map (·.key EnvVar.key EnvVar.key) ↔
          k ∈ ds.map (·.key EnvVar.key EnvVar.key)) ∧
        (∀ d : KeyedDifference EnvVar EnvVar, d.swap ∈ turned ↔ d ∈ ds) ∧
        Diff.versionEnv before after = ds.map Diff.versionEnvLine ∧
        Diff.versionEnv after before = turned.map Diff.versionEnvLine) ∧
    ∀ env : List EnvVar, (env.map (·.key)).Nodup → Diff.versionEnv env env = [] := by
  refine ⟨fun app ledger live desired hl hd => ?_, fun before after hb ha => ?_, fun env he => ?_⟩
  · have reported := Diff.reported_env app ledger hl hd
    exact ⟨_, reported, fun k => reported.mem_keys_iff,
      Diff.env_eq_map_line app live desired ledger⟩
  · have there := Diff.reported_versionEnv hb ha
    have back := Diff.reported_versionEnv ha hb
    refine ⟨_, _, there, back, fun k => there.mem_keys_iff, fun k => ?_,
      there.mem_swap_iff back EnvVar.plainlyDiffers_comm,
      Diff.versionEnv_eq_map_line before after, Diff.versionEnv_eq_map_line after before⟩
    rw [there.mem_keys_iff, back.mem_keys_iff]
    exact keyDiffers_swap EnvVar.plainlyDiffers_comm k
  · have reported := Diff.reported_versionEnv he he
    rw [Diff.versionEnv_eq_map_line, List.map_eq_nil_iff]
    refine List.eq_nil_iff_forall_not_mem.2 fun d hd => ?_
    exact not_keyDiffers_self he _ (reported.mem_keys_iff.1 (List.mem_map_of_mem hd))

namespace Variables

/-- An environment with two secrets. -/
def live : List EnvVar :=
  [⟨"MODE", some "dev", false⟩, ⟨"TOKEN", none, true⟩, ⟨"PASSWORD", none, true⟩,
    ⟨"KEY", none, true⟩, ⟨"OLD", some "x", false⟩]

/-- What is desired instead: one secret has a new version, one was never sent, one is as it was
sent, and one is a secret no more. -/
def desired : List EnvEntry :=
  [⟨"REGION", some "is1", false, none⟩, ⟨"TOKEN", none, true, some 2⟩,
    ⟨"PASSWORD", none, true, some 1⟩, ⟨"KEY", some "k", false, none⟩,
    ⟨"MODE", some "dev", false, none⟩]

/-- The ledger that knows the first version of a secret. -/
def ledger : SecretLedger := (SecretLedger.empty.setEnv "web" "TOKEN" (some 1)).1

def lines : List String :=
  ["Env add: REGION=is1", "Env update: TOKEN (secret, version: 1 -> 2)",
    "Env update: PASSWORD (secret, version: new -> 1)", "Env update: KEY=(secret) -> k",
    "Env remove: OLD"]

/-- A later version: one variable has changed, and of the two whose secrecy has changed nothing can
be said. -/
def later : List EnvVar :=
  [⟨"MODE", some "prod", false⟩, ⟨"TOKEN", some "t", false⟩, ⟨"NEW", none, true⟩,
    ⟨"PASSWORD", none, true⟩]

/-- Five lines for five keys that differ, and four for the two versions in either direction. -/
theorem five_keys_differ :
    (live.map (·.key)).Nodup ∧ (desired.map (·.key)).Nodup ∧ (later.map (·.key)).Nodup ∧
    (∃ ds, Reported EnvVar.key EnvEntry.key (EnvVar.DiffersFrom ledger "web") live desired ds ∧
      lines = ds.map (Diff.envLine ledger "web")) ∧
    (∃ ds turned : List (KeyedDifference EnvVar EnvVar),
      Reported EnvVar.key EnvVar.key EnvVar.PlainlyDiffers live later ds ∧
      (∀ d : KeyedDifference EnvVar EnvVar, d.swap ∈ turned ↔ d ∈ ds) ∧
      ["Env update: MODE=dev -> prod", "Env add: NEW (secret)", "Env remove: KEY (secret)",
        "Env remove: OLD"] = ds.map Diff.versionEnvLine ∧
      ["Env update: MODE=prod -> dev", "Env add: KEY (secret)", "Env add: OLD=x",
        "Env remove: NEW (secret)"] = turned.map Diff.versionEnvLine) ∧
    Diff.versionEnv live live = [] := by
  have hl : (live.map (·.key)).Nodup := by decide
  have hd : (desired.map (·.key)).Nodup := by decide
  have ht : (later.map (·.key)).Nodup := by decide
  have found : Diff.env "web" live desired ledger = lines := by decide +kernel
  have there : Diff.versionEnv live later = ["Env update: MODE=dev -> prod",
      "Env add: NEW (secret)", "Env remove: KEY (secret)", "Env remove: OLD"] := by decide +kernel
  have back : Diff.versionEnv later live = ["Env update: MODE=prod -> dev",
      "Env add: KEY (secret)", "Env add: OLD=x", "Env remove: NEW (secret)"] := by decide +kernel
  obtain ⟨desiring, versions, self⟩ := environments_compared_exactly
  refine ⟨hl, hd, ht, ?_, ?_, self live hl⟩
  · obtain ⟨ds, reported, -, lines⟩ := desiring "web" ledger live desired hl hd
    exact ⟨ds, reported, found.symm.trans lines⟩
  · obtain ⟨ds, turned, reported, -, -, -, swapped, forth, opposite⟩ := versions live later hl ht
    exact ⟨ds, turned, reported, swapped, there.symm.trans forth, back.symm.trans opposite⟩

end Variables

end Converge
