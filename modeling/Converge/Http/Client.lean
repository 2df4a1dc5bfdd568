import Converge.Config.Credentials
import Converge.Http.Endpoint
import Converge.Text.Base64
/-!
# The client of the control plane

A client sends each request of a session to the control plane, signed with its credentials, and
reads the answer.  Requests that change nothing are repeated when the control plane is out of
reach or asks to wait; all others are sent once.
-/

namespace Converge.Http

/-- Where the control plane is, and how requests are signed. -/
structure Client where
  /-- The address that paths are appended to. -/
  base : String
  credentials : Credentials
  deriving DecidableEq, Inhabited

namespace Client

/-- The address of the control plane. -/
def defaultBase : String := "https://secure.sakura.ad.jp/cloud/api/apprun-dedicated/1.0"

/-- A client of the control plane. -/
def ofCredentials (credentials : Credentials) : Client := ⟨defaultBase, credentials⟩

/-- Cuts the slashes off the end. -/
def trimSlashes (s : String) : String :=
  String.ofList (s.toList.reverse.dropWhile (· = '/')).reverse

/-- A client of a control plane at another address. -/
def withBase (c : Client) (base : String) : Client := { c with base := trimSlashes base }

/-- The header that signs a request. -/
def authorization (c : Client) : String :=
  let pair := c.credentials.token ++ ":" ++ c.credentials.secret
  "Basic " ++ String.ofList (Base64.encode pair.toUTF8.toList)

/-- A failure on the way to the control plane. -/
def unreachable (why : String) : Failure := .api (.network ("Request failed: " ++ why))

/-- The address of a request. -/
def urlOf (c : Client) (call : Call) : Except Failure Url :=
  match Url.parse (c.base ++ call.path) with
  | .ok url => .ok (url.withEntries call.query)
  | .error .malformed => .error (unreachable "builder error")
  | .error (.hostless text) => .error (unreachable ("builder error for url (" ++ text ++ ")"))
  | .error (.unsupported text) =>
    let query := match Url.joinQuery none call.query with
      | some q => "?" ++ q
      | none => ""
    .error (unreachable ("builder error for url (" ++ text ++ query ++ ")"))

/-- The request for a call. -/
def requestFor (c : Client) (call : Call) : Except Failure Request := do
  let url ← c.urlOf call
  let headers := [("authorization", c.authorization), ("accept", "application/json")]
  match call.body with
  | none => pure ⟨call.method, url, headers, none⟩
  | some body =>
    pure ⟨call.method, url, headers ++ [("content-type", "application/json")], some body⟩

/-- The seconds to wait when the control plane does not say how many. -/
def defaultWait : UInt64 := 60

/-- The seconds that a response asks to wait. -/
def waitOf (r : Response) : UInt64 :=
  match (r.header? "retry-after").bind unsigned? with
  | some n => if n = 0 || 0x10000000000000000 ≤ n then defaultWait else UInt64.ofNat n
  | none => defaultWait

/-- The outcome that a response stands for. -/
def outcomeOf (call : Call) (r : Response) : Except Failure call.Reply :=
  if r.status = 429 then .error (.api (.rateLimited (waitOf r)))
  else if r.status = 401 || r.status = 403 then
    .error (.api (.authenticationFailed
      (if r.body.isEmpty then "HTTP " ++ toString r.status else r.body)))
  else if !r.isSuccess then .error (.api (.requestFailed r.status r.body))
  else
    match call.reply? r.body with
    | some reply => .ok reply
    | none =>
      .error (.api (.invalidResponse "Failed to parse response: error decoding response body"))

/-- Sends a request once. -/
def attempt (c : Client) (call : Call) : Program interface (Except Failure call.Reply) :=
  .ask (.log .trace (call.method.word ++ " " ++ c.base ++ call.path)) fun () =>
    match c.requestFor call with
    | .error f => .done (.error f)
    | .ok request =>
      .ask (.send request) fun
        | some response => .done (outcomeOf call response)
        | none =>
          .done (.error (unreachable
            ("error sending request for url (" ++ request.url.text ++ ")")))

/-- How often a request that changes nothing is sent at most. -/
def maxAttempts : Nat := 3

/-- The seconds to wait before an attempt, after the failure of the one before. -/
def delayAfter (f : Failure) (attempt : Nat) : Nat :=
  match f.retryDelay with
  | some seconds => seconds.toNat
  | none => attempt

/-- Sends a request again, as long as it fails in a way that may pass and attempts are left. -/
def again (c : Client) (call : Call) :
    Nat → Nat → Failure → Program interface (Except Failure call.Reply)
  | 0, _, last => .done (.error last)
  | left + 1, number, last =>
    let delay := delayAfter last number
    .ask (.log .debug ("Retry attempt " ++ toString number ++ " of " ++ toString maxAttempts
        ++ " for GET " ++ call.path ++ " in " ++ toString delay ++ "s")) fun () =>
      .ask (.sleep (1000 * delay)) fun () => do
        match ← c.attempt call with
        | .ok reply => pure (.ok reply)
        | .error f => if f.isRetryable then again c call left (number + 1) f else pure (.error f)

/-- Carries out a request of a session. -/
def answer (c : Client) (call : Call) : Program interface (Except Failure call.Reply) := do
  match ← c.attempt call with
  | .ok reply => pure (.ok reply)
  | .error f =>
    if call.method = .get && f.isRetryable then c.again call (maxAttempts - 1) 1 f
    else pure (.error f)

end Client

end Converge.Http
