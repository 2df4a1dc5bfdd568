import Converge.Config.Document
import Converge.Failure
import Converge.Files.Basic
/-!
# Finding and loading the configuration

Without a path, the configuration is the first file of `configNames` in the directory where the
search starts, or else in the nearest directory on its path that has one.
-/

namespace Converge

/-- The names under which a configuration is looked for, the first one preferred. -/
def configNames : List String :=
  ["apprun.yaml", "apprun.yml", "apprun-dedicated.yaml", "apprun-dedicated.yml"]

namespace ConfigFile

/-- The first path of a list that is present. -/
def firstPresent : List Path → FileWork Failure (Option Path)
  | [] => pure none
  | p :: rest => do
    if ← Files.isPresent p then pure (some p) else firstPresent rest

/-- The paths where a configuration may be, the preferred ones first. -/
def candidates (start : Path) : List Path :=
  start.ancestors.flatMap fun dir => configNames.map dir.child

/-- Finds the configuration for a directory. -/
def find (start : Path) : FileWork Failure Path := do
  match ← firstPresent (candidates start) with
  | some p =>
    Files.log .info ("Found configuration file: " ++ p.text)
    pure p
  | none => throw (.config (.fileNotFound (start.join (Path.ofText "apprun.yaml")).text))

/-- Reads a configuration from a text, with a note of the beginning and the end. -/
def parse (text : String) (source : Option String) : FileWork Failure ClusterConfig := do
  Files.log .debug "Parsing YAML configuration"
  match ClusterConfig.ofYaml text source with
  | .error f => throw f
  | .ok config =>
    Files.log .debug ("Successfully parsed configuration for cluster: " ++ config.clusterName)
    pure config

/-- Loads a configuration file. -/
def load (path : Path) : FileWork Failure ClusterConfig := do
  Files.log .info ("Loading configuration from: " ++ path.text)
  if !(← Files.isPresent path) then throw (.config (.fileNotFound path.text))
  else
    match ← ExceptT.lift (Files.read path).run with
    | .error e => throw (.config (.parse ("Failed to read file: " ++ e.message) path.text))
    | .ok text => parse text path.text

end ConfigFile

end Converge
