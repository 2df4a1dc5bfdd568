import Converge.Data.Codec
import Converge.Data.SortedMap
/-!
# The ledger of secret versions

The control plane never shows a secret, so whether a secret has changed cannot be seen by looking.
The operator marks each secret with a number instead, and the ledger remembers which number was
last sent for each application: one for its registry password and one for each of its secret
environment variables.

Entries that would record nothing are taken out, so that a ledger has one form only.
-/

namespace Converge

/-- What is recorded for one application. -/
structure LedgerEntry where
  passwordVersion : Option Int64
  envVersions : SortedMap Int64
  deriving DecidableEq, Repr, Inhabited

namespace LedgerEntry

/-- The entry that records nothing. -/
def blank : LedgerEntry := ⟨none, .empty⟩

/-- Whether an entry records nothing. -/
def isEmpty (e : LedgerEntry) : Bool := e.passwordVersion.isNone && e.envVersions.isEmpty

end LedgerEntry

/-- The secret versions that were sent, by application. -/
structure SecretLedger where
  /-- The version of the ledger's own format. -/
  version : UInt32
  applications : SortedMap LedgerEntry
  deriving DecidableEq, Repr, Inhabited

namespace SecretLedger

/-- The version of the format that this library writes. -/
def currentVersion : UInt32 := 1

/-- The ledger that records nothing. -/
def empty : SecretLedger := ⟨currentVersion, .empty⟩

/-- Whether nothing is recorded for any application. -/
def isEmpty (l : SecretLedger) : Bool := l.applications.entries.all (·.2.isEmpty)

/-- What is recorded for an application. -/
def entry (l : SecretLedger) (app : String) : LedgerEntry :=
  (l.applications.get? app).getD .blank

/-- The recorded version of an application's registry password. -/
def password? (l : SecretLedger) (app : String) : Option Int64 :=
  (l.applications.get? app).bind (·.passwordVersion)

/-- The recorded version of a secret environment variable. -/
def env? (l : SecretLedger) (app key : String) : Option Int64 :=
  (l.applications.get? app).bind (·.envVersions.get? key)

/-- Records what is known of an application, or forgets the application when that is nothing. -/
def put (l : SecretLedger) (app : String) (e : LedgerEntry) : SecretLedger :=
  { l with
    applications := if e.isEmpty then l.applications.erase app else l.applications.insert app e }

/-- Records or forgets the version of a registry password, and says whether that changed
anything. -/
def setPassword (l : SecretLedger) (app : String) (version : Option Int64) :
    SecretLedger × Bool :=
  if l.password? app = version then (l, false)
  else (l.put app { l.entry app with passwordVersion := version }, true)

/-- Records or forgets the version of a secret environment variable, and says whether that
changed anything. -/
def setEnv (l : SecretLedger) (app key : String) (version : Option Int64) :
    SecretLedger × Bool :=
  if l.env? app key = version then (l, false)
  else
    let e := l.entry app
    let versions := match version with
      | some v => e.envVersions.insert key v
      | none => e.envVersions.erase key
    (l.put app { e with envVersions := versions }, true)

end SecretLedger

/-! ## 1. Written form -/

/-- A map from names, the last of several entries under one name counting. -/
def SortedMap.codec (c : Codec α) : Codec (SortedMap α) :=
  (Codec.entries c).map SortedMap.ofList SortedMap.entries

def LedgerEntry.codec : Codec LedgerEntry :=
  .record "LedgerEntry"
    (.and (.ifAny "registryPasswordVersion" .int64) <|
     .and ⟨"secretEnvVersions", SortedMap.codec .int64, some .empty, some .empty,
       SortedMap.isEmpty⟩ .none)
    (fun (password, env, ()) => ⟨password, env⟩)
    (fun e => (e.passwordVersion, e.envVersions, ()))

def SecretLedger.codec : Codec SecretLedger :=
  .record "SecretLedger"
    (.and (.required "version" .uint32) <|
     .and (.withDefault "applications" (SortedMap.codec LedgerEntry.codec) .empty) .none)
    (fun (version, applications, ()) => ⟨version, applications⟩)
    (fun l => (l.version, l.applications, ()))

end Converge
