import Converge.Failure
import Converge.Text.Escape
/-!
# Credentials

The token and the secret that requests are signed with come from the environment.  Each has two
names; the second is used when the first is unset or empty.
-/

namespace Converge

/-- A token and its secret. -/
structure Credentials where
  token : String
  secret : String
  deriving DecidableEq, Inhabited

namespace Credentials

def tokenName : String := "SAKURA_ACCESS_TOKEN"
def tokenFallback : String := "SAKURACLOUD_ACCESS_TOKEN"
def secretName : String := "SAKURA_ACCESS_TOKEN_SECRET"
def secretFallback : String := "SAKURACLOUD_ACCESS_TOKEN_SECRET"

/-- The first of two variables that is set and not empty. -/
def firstSet (lookup : String → Option String) (name fallback : String) : Option String :=
  let set := fun name => (lookup name).filter fun v => !v.isEmpty
  (set name).or (set fallback)

/-- Credentials from an environment; both parts have to be there. -/
def ofEnvironment (lookup : String → Option String) : Except Failure Credentials :=
  match firstSet lookup tokenName tokenFallback, firstSet lookup secretName secretFallback with
  | some token, some secret => .ok ⟨token, secret⟩
  | _, _ =>
    .error (.config (.missingEnvVar (tokenName ++ " (or " ++ tokenFallback ++ ") and "
      ++ secretName ++ " (or " ++ secretFallback ++ ") environment variables are required")))

/-- Credentials in a report, without the secret. -/
def redacted (c : Credentials) : String :=
  "Credentials \x7b access_token: " ++ quoted c.token ++ ", access_token_secret: "
    ++ quoted "<redacted>" ++ " \x7d"

instance : Repr Credentials := ⟨fun c _ => c.redacted⟩

end Credentials

end Converge
