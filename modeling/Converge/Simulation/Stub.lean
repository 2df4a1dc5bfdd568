import Converge.Session
/-!
# Stand-ins for a control plane

A stand-in answers the requests of a session in some way of its own and everything else in a
plain way: the ledger is empty, nothing is stored, and time stands still.
-/

namespace Converge

/-- A stand-in with a state of its own, and the lines of the log, the latest first. -/
structure Stub (σ : Type) where
  state : σ
  lines : List (Level × String)

namespace Stub

/-- Answers a session whose requests are answered by `reply`. -/
def answer (reply : (c : Call) → σ → Except Failure c.Reply × σ) :
    (q : Question) → Stub σ → q.Reply × Stub σ
  | .call c, s =>
    let (r, state) := reply c s.state
    (r, { s with state := state })
  | .loadLedger, s => (.ok .empty, s)
  | .saveLedger _, s => (.ok (), s)
  | .ledgerLocation, s => ("", s)
  | .clock, s => ((0 : Nat), s)
  | .now, s => (Timestamp.epoch, s)
  | .sleep _, s => ((), s)
  | .log level text, s => ((), { s with lines := (level, text) :: s.lines })

/-- The outcome of a session; there is none when a loop used up its rounds. -/
def run (reply : (c : Call) → σ → Except Failure c.Reply × σ) (state : σ) (s : Session α) :
    Option (Except Failure α) × Stub σ :=
  Program.run (I := Session.interface) (answer reply) s.run ⟨state, []⟩

end Stub

end Converge
