import Converge.Ledger.File
import Converge.Proofs.Files.Tree
import Converge.Proofs.Json.RoundTrip
import Converge.Simulation.Rehearsal
/-!
# A ledger file is a ledger

A ledger file that can be written holds what was saved last, and a load finds it there: the text
of a ledger is read as that ledger, whatever the names in it.  So saving, loading and asking
whether there is a ledger get the same replies from a file as from a ledger in memory, in whatever
order they come.

`StoreStep` is what is asked of a store, and `LedgerFile.reply` and `MemoryStore.reply` are how the
two stores reply.  `LedgerFile.Keeps` relates a file system with what was saved last; one lemma
says that each step keeps it, and by induction it is kept by all of them.

Main statements: `LedgerFile.parse_textOf` and `ledger_file_like_memory`.
-/

namespace Converge

/-! ## 1. The text of a ledger -/

theorem SortedMap.eq_empty_of_isEmpty {m : SortedMap α} (h : m.isEmpty) : m = .empty :=
  SortedMap.ext_get? fun k => SortedMap.get?_of_isEmpty h k

open Codec Converge.Field Fields in
theorem LedgerEntry.faithful_codec : LedgerEntry.codec.Faithful :=
  .record
    (.and (faithful_ifAny faithful_int64 fun _ h => nomatch h)
      (.and ⟨.sortedMap faithful_int64,
          fun _ hidden => congrArg some (SortedMap.eq_empty_of_isEmpty hidden).symm⟩
        faithful_none (by decide)) (by decide))
    fun _ => rfl

open Codec Converge.Field Fields in
theorem SecretLedger.faithful_codec : SecretLedger.codec.Faithful :=
  .record
    (.and (faithful_required faithful_uint32)
      (.and (faithful_withDefault (.sortedMap LedgerEntry.faithful_codec)) faithful_none
        (by decide)) (by decide))
    fun _ => rfl

open Codec Fields in
theorem LedgerEntry.narrow_codec : LedgerEntry.codec.Narrow :=
  .record (.and narrow_int64.optional (.and narrow_int64.sortedMap narrow_none))

open Codec Fields in
theorem SecretLedger.narrow_codec : SecretLedger.codec.Narrow :=
  .record (.and narrow_uint32 (.and LedgerEntry.narrow_codec.sortedMap narrow_none))

/-- **The text of a ledger is read as that ledger.** -/
theorem LedgerFile.parse_textOf (path : Path) {ledger : SecretLedger}
    (current : ledger.version = SecretLedger.currentVersion) :
    parse path (textOf ledger) = .ok ledger := by
  rw [parse, textOf, Json.decode_pretty SecretLedger.faithful_codec
    (SecretLedger.narrow_codec ledger)]
  exact if_pos current

/-! ## 2. Work on a file system -/

namespace FileTree

variable {t u : FileTree} {path : Path} {ε : Type}

/-- What work on files comes to. -/
def on (t : FileTree) (w : FileWork ε α) : Option (Except ε α) × FileTree :=
  Program.run (I := Files.interface) answer w.run t

theorem on_bind {w : FileWork ε α} {f : α → FileWork ε β} {a : α}
    (h : t.on w = (some (.ok a), u)) : t.on (w >>= f) = u.on (f a) := by
  have whole : (w >>= f).run = Program.bind w.run (ExceptT.bindCont f) := rfl
  unfold on at h ⊢
  rw [whole, Program.run_bind, h]
  rfl

theorem on_step {w : FileWork FileError α} {action : String} {a : α}
    (h : t.on w = (some (.ok a), u)) :
    t.on (LedgerFile.step action w) = (some (.ok a), u) := by
  have lifted : t.on (ExceptT.lift (ε := Failure) w.run) = (some (.ok (.ok a)), u) := by
    unfold on at h ⊢
    have whole : (ExceptT.lift (ε := Failure) w.run).run =
        Program.bind w.run fun r => .done (.ok r) := rfl
    rw [whole, Program.run_bind, h]
    rfl
  exact on_bind lifted

theorem on_isPresent : t.on (ε := ε) (Files.isPresent path) =
    (some (.ok (t.at? path).isSome), t) := rfl

theorem on_log {level : Level} {text : String} : t.on (ε := ε) (Files.log level text) =
    (some (.ok ()), t) := rfl

theorem on_create (h : t.write path "" = (.ok (), u)) :
    t.on (Files.create path) = (some (.ok ()), u) := by
  change (some (t.write path "").1, (t.write path "").2) = _
  rw [h]

theorem on_write {text : String} (h : t.write path text = (.ok (), u)) :
    t.on (Files.write path text) = (some (.ok ()), u) := by
  change (some (t.write path text).1, (t.write path text).2) = _
  rw [h]

theorem on_sync : t.on (Files.sync path) = (some (.ok ()), t) := rfl

theorem on_rename {target : Path} (h : t.rename path target = (.ok (), u)) :
    t.on (Files.rename path target) = (some (.ok ()), u) := by
  change (some (t.rename path target).1, (t.rename path target).2) = _
  rw [h]

end FileTree

namespace LedgerFile

variable {t u : FileTree} {path : Path} {ledger : SecretLedger}

/-- Whether a ledger can be saved: once the directory has been made, the temporary file and the
ledger file lead to places where a file can stand. -/
def Writable (t : FileTree) (path : Path) : Prop :=
  ∃ u, t.on (prepare path) = (some (.ok ()), u) ∧ u.Takes (temporary path) ∧ u.Takes path

/-- Where a ledger file can stand already, there is no directory to be made. -/
theorem on_prepare_of_takes (h : t.Takes path) : t.on (prepare path) = (some (.ok ()), t) := by
  obtain ⟨place, hl, -⟩ := h
  unfold prepare
  cases hp : path.parent with
  | none => rfl
  | some dir =>
    simp only
    cases he : dir.isEmpty with
    | true => rfl
    | false =>
      have here := FileTree.at?_parent_of_locate hl hp he
      simp only [Bool.false_eq_true, if_false]
      rw [FileTree.on_bind FileTree.on_isPresent, here]
      rfl

theorem writable_of_takes (temp : t.Takes (temporary path)) (h : t.Takes path) :
    Writable t path :=
  ⟨t, on_prepare_of_takes h, temp, h⟩

/-- A ledger is saved where it can be. -/
theorem on_save (h : Writable t path) (ledger : SecretLedger) :
    ∃ u, t.on (save path ledger) = (some (.ok ()), u) ∧ Writable u path ∧
      u.at? path = some (.file (.text (textOf ledger))) := by
  obtain ⟨made, prepared, temp, final⟩ := h
  obtain ⟨empty, creates, same₁, -⟩ := FileTree.write_of_takes temp ""
  obtain ⟨full, writes, same₂, held⟩ :=
    FileTree.write_of_takes (same₁.takes temp) (textOf ledger)
  have same := same₁.trans same₂
  obtain ⟨moved, renames, same₃, saved⟩ :=
    FileTree.rename_of_takes (same.takes temp) (same.takes final) held
  have same := same.trans same₃
  refine ⟨moved, ?_, writable_of_takes (same.takes temp) (same.takes final), saved⟩
  unfold save
  rw [FileTree.on_bind prepared, FileTree.on_bind FileTree.on_log,
    FileTree.on_bind (FileTree.on_step (FileTree.on_create creates)),
    FileTree.on_bind (FileTree.on_step (FileTree.on_write writes)),
    FileTree.on_bind (FileTree.on_step FileTree.on_sync),
    FileTree.on_bind (FileTree.on_step (FileTree.on_rename renames))]
  rfl

/-- Without a file the ledger is empty. -/
theorem on_load_of_absent (h : t.at? path = none) :
    t.on (load path) = (some (.ok .empty), t) := by
  unfold load
  rw [FileTree.on_bind FileTree.on_isPresent, h]
  rfl

/-- What was saved is loaded. -/
theorem on_load_of_saved (h : t.at? path = some (.file (.text (textOf ledger))))
    (current : ledger.version = SecretLedger.currentVersion) :
    t.on (load path) = (some (.ok ledger), t) := by
  have read : t.on (ExceptT.lift (ε := Failure) (Files.read path).run) =
      (some (.ok (.ok (textOf ledger))), t) := by
    change (some (Except.ok (t.read path)), t) = _
    rw [FileTree.read_of_at? h]
  unfold load
  rw [FileTree.on_bind FileTree.on_isPresent, h]
  simp only [Option.isSome_some, Bool.not_true, Bool.false_eq_true, if_false]
  rw [FileTree.on_bind FileTree.on_log, FileTree.on_bind read]
  change (some (parse path (textOf ledger)), t) = _
  rw [parse_textOf path current]

/-! ## 3. Stores step by step -/

end LedgerFile

/-- What is asked of a store of ledgers. -/
inductive StoreStep where
  | save (ledger : SecretLedger)
  | load
  | holdsLedger
  deriving DecidableEq, Repr

/-- What a store of ledgers answers. -/
inductive StoreReply where
  | saved (outcome : Except Failure Unit)
  | loaded (outcome : Except Failure SecretLedger)
  | holds (outcome : Except Failure Bool)

/-- The answers to steps, one after the other. -/
def replies (reply : StoreStep → σ → ρ × σ) : List StoreStep → σ → List ρ
  | [], _ => []
  | step :: steps, s =>
    let (r, s) := reply step s
    r :: replies reply steps s

/-- How a ledger in memory answers. -/
def MemoryStore.reply : StoreStep → MemoryStore → StoreReply × MemoryStore
  | .save ledger, m =>
    let (outcome, m) := m.save ledger
    (.saved outcome, m)
  | .load, m => (.loaded m.load, m)
  | .holdsLedger, m => (.holds (.ok m.holdsLedger), m)

/-- A ledger in memory before anything was saved. -/
def MemoryStore.fresh : MemoryStore := ⟨none, none, none, 0⟩

/-- How a ledger file answers; there is no answer when the work on files does not finish. -/
def LedgerFile.reply (path : Path) : StoreStep → FileTree → Option StoreReply × FileTree
  | .save ledger, t =>
    let (outcome, t) := t.on (save path ledger)
    (outcome.map .saved, t)
  | .load, t =>
    let (outcome, t) := t.on (load path)
    (outcome.map .loaded, t)
  | .holdsLedger, t =>
    let (outcome, t) := t.on (holdsLedger path)
    (outcome.map .holds, t)

/-- A file system keeps what a store in memory keeps: the ledger that was saved last is in the
file, and there is no file before the first. -/
structure LedgerFile.Keeps (path : Path) (t : FileTree) (m : MemoryStore) : Prop where
  writable : Writable t path
  file : t.at? path = m.stored.map fun ledger => .file (.text (textOf ledger))
  current : ∀ ledger ∈ m.stored, ledger.version = SecretLedger.currentVersion
  works : m.loadFailure = none ∧ m.saveFailure = none

/-- Every step keeps the ledger, and the file answers as the memory does. -/
theorem LedgerFile.Keeps.step {path : Path} {t : FileTree} {m : MemoryStore}
    (h : Keeps path t m) {step : StoreStep}
    (current : ∀ ledger, step = .save ledger → ledger.version = SecretLedger.currentVersion) :
    (reply path step t).1 = some (m.reply step).1 ∧
  Keeps path (reply path step t).2 (m.reply step).2 := by
  obtain ⟨writable, file, kept, works⟩ := h
  cases step with
  | save ledger =>
    obtain ⟨u, saves, writable', saved⟩ := on_save writable ledger
    simp only [reply, MemoryStore.reply, saves, MemoryStore.save, works.2]
    exact ⟨rfl, writable', saved,
      fun ledger' h => Option.some.inj h ▸ current ledger rfl, works.1, rfl⟩
  | load =>
    have loads : t.on (LedgerFile.load path) = (some (.ok (m.stored.getD .empty)), t) := by
      cases hs : m.stored with
      | none => exact on_load_of_absent (by rw [file, hs]; rfl)
      | some ledger => exact on_load_of_saved (by rw [file, hs]; rfl) (kept ledger hs)
    simp only [reply, MemoryStore.reply, loads, MemoryStore.load, works.1]
    exact ⟨rfl, writable, file, kept, works⟩
  | holdsLedger =>
    have asked : t.on (LedgerFile.holdsLedger path) = (some (.ok m.stored.isSome), t) := by
      unfold LedgerFile.holdsLedger
      rw [FileTree.on_isPresent, file, Option.isSome_map]
    simp only [reply, MemoryStore.reply, asked, MemoryStore.holdsLedger]
    exact ⟨rfl, writable, file, kept, works⟩

theorem LedgerFile.Keeps.replies {path : Path} : ∀ {steps : List StoreStep} {t : FileTree}
    {m : MemoryStore}, Keeps path t m →
    (∀ ledger, .save ledger ∈ steps → ledger.version = SecretLedger.currentVersion) →
    replies (reply path) steps t = (Converge.replies MemoryStore.reply steps m).map some
  | [], _, _, _, _ => rfl
  | step :: steps, t, m, h, current => by
    obtain ⟨same, kept⟩ := h.step fun ledger hs => current ledger (hs ▸ List.mem_cons_self)
    have rest := kept.replies fun ledger hs => current ledger (List.mem_cons_of_mem _ hs)
    simp only [Converge.replies, List.map_cons, same, rest]

/-- **A ledger file answers like a ledger in memory.**  Where no file is there yet and one can be
written, saving ledgers of the current version, loading and asking whether there is a ledger, in
any order, get from the file what they get from a fresh store in memory; and the text that is
saved is read as the ledger that it was made from, whatever its names are. -/
theorem ledger_file_like_memory (path : Path) (t : FileTree) (absent : t.at? path = none)
    (writable : LedgerFile.Writable t path) (steps : List StoreStep)
    (current : ∀ ledger, .save ledger ∈ steps → ledger.version = SecretLedger.currentVersion) :
    replies (LedgerFile.reply path) steps t =
        (replies MemoryStore.reply steps MemoryStore.fresh).map some ∧
      ∀ ledger : SecretLedger, ledger.version = SecretLedger.currentVersion →
        LedgerFile.parse path (LedgerFile.textOf ledger) = .ok ledger :=
  have start : LedgerFile.Keeps path t .fresh :=
    ⟨writable, absent, (fun _ h => nomatch h), ⟨rfl, rfl⟩⟩
  ⟨start.replies current, fun _ => LedgerFile.parse_textOf path⟩

/-! A ledger file in a directory that has to be made, with names that need escapes, an entry that
records nothing and a number at the end of its range. -/

namespace Storing

def tree : FileTree := ⟨[(["home"], .directory)], ["home"]⟩

def path : Path := .ofText "state/prod.apprun-state.json"

def first : SecretLedger where
  version := SecretLedger.currentVersion
  applications := .ofList
    [("a \"b\"\n\t\\", ⟨some 1, .ofList [("KEY", 7), ("", -9223372036854775808)]⟩)]

def second : SecretLedger where
  version := SecretLedger.currentVersion
  applications := .ofList [("日本 \u0001\u007f😀", ⟨none, .empty⟩)]

def steps : List StoreStep :=
  [.load, .holdsLedger, .save first, .load, .save second, .holdsLedger, .load]

theorem like_memory_of_two_saves :
    tree.at? path = none ∧ LedgerFile.Writable tree path ∧
      replies (LedgerFile.reply path) steps tree =
        (replies MemoryStore.reply steps MemoryStore.fresh).map some :=
  have absent : tree.at? path = none := by decide +kernel
  have writable : LedgerFile.Writable tree path :=
    ⟨(tree.on (LedgerFile.prepare path)).2, by rfl,
      ⟨["prod.apprun-state.tmp", "state", "home"], by rfl, by decide +kernel⟩,
      ⟨["prod.apprun-state.json", "state", "home"], by rfl, by decide +kernel⟩⟩
  have current : ∀ ledger, .save ledger ∈ steps →
      ledger.version = SecretLedger.currentVersion := by
    simp [steps, first, second]
  ⟨absent, writable, (ledger_file_like_memory path tree absent writable steps current).1⟩

end Storing

end Converge
