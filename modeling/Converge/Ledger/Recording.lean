import Converge.Config.Basic
import Converge.Ledger.Basic
/-!
# Recording what was sent

After a version of an application was written, the ledger records the secret versions that the
version carried: that of the registry password, and those of the secret environment variables.
Variables that are secret no more are forgotten.
-/

namespace Converge

/-- The secret variables of a spec with their versions; the last of several with one key counts. -/
def ApplicationSpec.secretVersions (spec : ApplicationSpec) : SortedMap (Option Int64) :=
  .ofList ((spec.env.filter (·.secret)).map fun e => (e.key, e.secretVersion))

namespace SecretLedger

/-- Sets the versions of several variables, and says whether that changed anything. -/
def setEnvs (app : String) : List (String × Option Int64) → SecretLedger → SecretLedger × Bool
  | [], l => (l, false)
  | (key, version) :: rest, l =>
    let (l, one) := l.setEnv app key version
    let (l, others) := setEnvs app rest l
    (l, one || others)

/-- The recorded variables of an application that are not among the given ones. -/
def staleKeys (l : SecretLedger) (app : String) (secrets : SortedMap (Option Int64)) :
    List String :=
  (l.entry app).envVersions.keys.filter fun key => (secrets.get? key).isNone

/-- Records the secret versions of a spec, and says whether that changed anything.  A secret
without a version keeps what was recorded before. -/
def record (l : SecretLedger) (app : String) (spec : ApplicationSpec) : SecretLedger × Bool :=
  let secrets := spec.secretVersions
  let (l, password) := l.setPassword app spec.registryPasswordVersion
  let (l, dropped) := setEnvs app ((l.staleKeys app secrets).map fun key => (key, none)) l
  let (l, sent) := setEnvs app (secrets.entries.filter (·.2.isSome)) l
  (l, password || dropped || sent)

end SecretLedger

end Converge
