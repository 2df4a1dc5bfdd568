import Converge.Apply.Execute
import Converge.Plan.Diff
import Converge.Versions.Basic
/-!
# Listing, comparing and activating versions

Each operation finds the application by the names of its cluster and its own.  The latest version
is the one with the greatest number, in whatever order the control plane lists them.
-/

namespace Converge.Versions

variable (limit : Nat)

/-- The application with a name in the cluster with a name. -/
def resolve (cluster application : String) : Session Application := do
  let c ← Observe.resolveCluster limit cluster
  Observe.findApplication limit c.id application

/-- A version of an application in a list. -/
def info (a : Application) (s : VersionSummary) : VersionInfo :=
  ⟨s.version, s.image, .ofSeconds s.created.toInt, s.activeNodeCount,
    a.activeVersion = some s.version⟩

/-- The list that some versions of an application make. -/
def listing (a : Application) (summaries : List VersionSummary) : VersionList :=
  let versions := (summaries.map (info a)).mergeSort fun v w => decide (w.version ≤ v.version)
  ⟨a.name, a.id, versions, a.activeVersion, versions.head?.map (·.version)⟩

/-- Every version of an application, newest first. -/
def list (cluster application : String) : Session VersionList := do
  let a ← resolve limit cluster application
  let summaries ← Observe.listVersions limit a.id
  pure (listing a summaries)

/-- Something that has to be found. -/
def found (a : Option α) (missing : ResolveError) : Session α :=
  match a with
  | some a => pure a
  | none => throw (.resolve missing)

/-- A version that was listed. -/
def fetch (a : Application) (numbers : List Int32) (version : Int32) :
    Session ApplicationVersion :=
  if version ∈ numbers then Session.call (.getVersion a.id version)
  else throw (.resolve (.versionNotFound a.name version))

/-- Whether a version pulls its image as a registry user. -/
def usesRegistry (v : ApplicationVersion) : Bool :=
  match v.registryUsername with
  | some user => !user.isEmpty
  | none => false

/-- The comparison of two versions. -/
def difference (a : Application) (before after : ApplicationVersion) (older newer : Int32) :
    Except Failure VersionDiff :=
  match before.normal.compare after.normal false with
  | .error f => .error f
  | .ok changes =>
    .ok ⟨a.name, older, newer, changes ++ Diff.versionEnv before.env after.env,
      Diff.anySecret before.env after.env, usesRegistry before || usesRegistry after⟩

/-- Compares two versions: the first is the active one unless it is given, the second the latest
one. -/
def diff (cluster application : String) (older newer : Option Int32) : Session VersionDiff := do
  let a ← resolve limit cluster application
  let summaries ← Observe.listVersions limit a.id
  let numbers := summaries.map (·.version)
  let older ← found (older.or a.activeVersion) (.noActiveVersion application)
  let newer ← found (newer.or (greatest numbers)) (.noVersions application)
  let before ← fetch a numbers older
  let after ← fetch a numbers newer
  ExceptT.mk (pure (difference a before after older newer))

/-- Activates a version, the latest one unless it is given. -/
def activate (cluster application : String) (version : Option Int32) : Session Int32 := do
  let a ← resolve limit cluster application
  let summaries ← Observe.listVersions limit a.id
  let numbers := summaries.map (·.version)
  let version ← match version with
    | some v =>
      if v ∈ numbers then pure v else throw (.resolve (.versionNotFound a.name v))
    | none => found (greatest numbers) (.noVersions a.name)
  ApplyContext.activateVersion a.id a.name version
  pure version

end Converge.Versions
