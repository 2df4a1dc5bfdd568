import Converge.Http.Message
/-!
# A scripted server

A server that answers each request by the next response of a list, and keeps the requests.  It
stands in for the control plane where a client is tried out.
-/

namespace Converge.Http

/-- A scripted server. -/
structure Script where
  /-- The responses that are left; for `none` the connection is closed without one. -/
  responses : List (Option Response)
  /-- The requests, the latest first. -/
  requests : List Request
  /-- The lines of the clients' logs, the latest first. -/
  lines : List (Level × String)
  deriving Inhabited

namespace Script

/-- The response when none is left. -/
def exhausted : Response := ⟨500, [], "no response left"⟩

/-- Answers a request. -/
def send (s : Script) (r : Request) : Option Response × Script :=
  let s := { s with requests := r :: s.requests }
  match s.responses with
  | [] => (some exhausted, s)
  | response :: rest => (response, { s with responses := rest })

/-- Answers a client; no time passes. -/
def answer : (q : Question) → Script → q.Reply × Script
  | .send r, s => s.send r
  | .sleep _, s => ((), s)
  | .log level text, s => ((), { s with lines := (level, text) :: s.lines })

end Script

end Converge.Http
