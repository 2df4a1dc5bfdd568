import Converge.Simulation.Basic
/-!
# Rehearsing a session

A session run against a simulated control plane and a ledger in memory.  Everything that it asks
is written down: the requests, the lines of its log, and how often the ledger was saved.  Time
stands still.
-/

namespace Converge

/-- A ledger in memory, which can be made to fail. -/
structure MemoryStore where
  stored : Option SecretLedger
  loadFailure : Option Failure
  saveFailure : Option Failure
  /-- How often it was asked to save, failures included. -/
  saves : Nat
  deriving DecidableEq, Repr, Inhabited

namespace MemoryStore

/-- The stored ledger; an empty one when nothing was stored yet. -/
def load (m : MemoryStore) : Except Failure SecretLedger :=
  match m.loadFailure with
  | some f => .error f
  | none => .ok (m.stored.getD .empty)

/-- Stores a ledger. -/
def save (m : MemoryStore) (ledger : SecretLedger) : Except Failure Unit × MemoryStore :=
  match m.saveFailure with
  | some f => (.error f, { m with saves := m.saves + 1 })
  | none => (.ok (), { m with saves := m.saves + 1, stored := some ledger })

/-- Whether a ledger was stored. -/
def holdsLedger (m : MemoryStore) : Bool := m.stored.isSome

/-- Where the ledger is, in words. -/
def location : String := "memory"

end MemoryStore

/-- What a rehearsal has come to. -/
structure Rehearsal where
  plane : Simulation
  store : MemoryStore
  /-- The requests, the latest first. -/
  calls : List Call
  /-- The lines of the log, the latest first. -/
  lines : List (Level × String)
  deriving Inhabited

namespace Rehearsal

/-- Answers a question and writes it down. -/
def answer : (q : Question) → Rehearsal → q.Reply × Rehearsal
  | .call c, r =>
    let (reply, plane) := r.plane.answer c
    (reply, { r with plane := plane, calls := c :: r.calls })
  | .loadLedger, r => (r.store.load, r)
  | .saveLedger ledger, r =>
    let (reply, store) := r.store.save ledger
    (reply, { r with store := store })
  | .ledgerLocation, r => (MemoryStore.location, r)
  | .clock, r => ((0 : Nat), r)
  | .now, r => (Timestamp.epoch, r)
  | .sleep _, r => ((), r)
  | .log level text, r => ((), { r with lines := (level, text) :: r.lines })

/-- The outcome of a session; there is none when a loop used up its rounds. -/
def run (r : Rehearsal) (s : Session α) : Option (Except Failure α) × Rehearsal :=
  Program.run (I := Session.interface) answer s.run r

/-- The lines of the log that warn or report failures, in order. -/
def warnings (r : Rehearsal) : List String :=
  r.lines.reverse.filterMap fun (level, text) =>
    if level.verbosity ≤ Level.warn.verbosity then some (level.word ++ " " ++ text) else none

end Rehearsal

end Converge
