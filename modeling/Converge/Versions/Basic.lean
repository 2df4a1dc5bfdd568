import Converge.Cluster.Resource
import Converge.Timestamp
/-!
# Versions of an application, as they are shown

A list of versions and a comparison of two of them, each with its text and its written form.
-/

namespace Converge

/-- A version in a list. -/
structure VersionInfo where
  version : Int32
  image : String
  created : Timestamp
  activeNodes : Int64
  isActive : Bool
  deriving DecidableEq, Repr, Inhabited

/-- The versions of an application, newest first. -/
structure VersionList where
  applicationName : String
  applicationId : Uuid
  versions : List VersionInfo
  activeVersion : Option Int32
  latestVersion : Option Int32
  deriving DecidableEq, Repr, Inhabited

/-- Text at the right end of a field of some width. -/
def padLeft (width : Nat) (s : String) : String :=
  String.ofList (List.replicate (width - s.length) ' ') ++ s

namespace VersionList

/-- The line of a version; a star marks the active one. -/
def line (v : VersionInfo) : String :=
  (if v.isActive then "*" else " ") ++ " " ++ padLeft 4 (toString v.version) ++ "  "
    ++ v.created.plainText ++ "  " ++ v.image ++ "  nodes=" ++ toString v.activeNodes ++ "\n"

/-- The list as it is shown. -/
def text (l : VersionList) : String :=
  if l.versions.isEmpty then "Application " ++ l.applicationName ++ " has no versions"
  else "Versions of " ++ l.applicationName ++ ":\n" ++ String.join (l.versions.map line)

end VersionList

/-- How one version differs from another. -/
structure VersionDiff where
  applicationName : String
  before : Int32
  after : Int32
  changes : List String
  /-- Whether either has secret variables, which cannot be compared. -/
  hasSecretEnv : Bool
  /-- Whether either has a registry password, which cannot be compared. -/
  hasRegistryPassword : Bool
  deriving DecidableEq, Repr, Inhabited

/-- The comparison as it is shown. -/
def VersionDiff.text (d : VersionDiff) : String :=
  d.applicationName ++ ": version " ++ toString d.before ++ " -> " ++ toString d.after ++ "\n"
  ++ (if d.changes.isEmpty then "  No differences\n" else "")
  ++ String.join (d.changes.map fun c => "  " ++ c ++ "\n")
  ++ (if d.hasSecretEnv then "Note: secret environment variable values cannot be compared\n"
    else "")
  ++ (if d.hasRegistryPassword then "Note: registry passwords cannot be compared\n" else "")

/-! ## 1. Written form -/

open Converge.Field

def VersionInfo.codec : Codec VersionInfo :=
  .record "VersionInfo"
    (.and (required "version" .int32) <|
     .and (required "image" .text) <|
     .and (required "created" Timestamp.codec) <|
     .and (required "activeNodes" .int64) <|
     .and (required "isActive" .bool) .none)
    (fun (version, image, created, nodes, active, ()) => ⟨version, image, created, nodes, active⟩)
    (fun v => (v.version, v.image, v.created, v.activeNodes, v.isActive, ()))

def VersionList.codec : Codec VersionList :=
  .record "VersionList"
    (.and (required "applicationName" .text) <|
     .and (required "applicationId" Uuid.codec) <|
     .and (required "versions" (.list VersionInfo.codec)) <|
     .and (orNull "activeVersion" .int32) <|
     .and (orNull "latestVersion" .int32) .none)
    (fun (name, id, versions, active, latest, ()) => ⟨name, id, versions, active, latest⟩)
    (fun l => (l.applicationName, l.applicationId, l.versions, l.activeVersion, l.latestVersion,
      ()))

def VersionDiff.codec : Codec VersionDiff :=
  .record "VersionDiff"
    (.and (required "applicationName" .text) <|
     .and (required "from" .int32) <|
     .and (required "to" .int32) <|
     .and (required "changes" (.list .text)) <|
     .and (required "hasSecretEnv" .bool) <|
     .and (required "hasRegistryPassword" .bool) .none)
    (fun (name, before, after, changes, secret, password, ()) =>
      ⟨name, before, after, changes, secret, password⟩)
    (fun d => (d.applicationName, d.before, d.after, d.changes, d.hasSecretEnv,
      d.hasRegistryPassword, ()))

end Converge
